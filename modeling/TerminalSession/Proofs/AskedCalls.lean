import TerminalSession.Proofs.Execution

/-! # The calls that work makes, and what comes of them

Work changes a terminal only by calls. `Asks` lists the calls between two states of a terminal
together with their answers. An action may make only the calls that are its own: only a new color
starts the colors or takes a pair, only a change of attributes is applied to a window, and only a
new window gets a border. -/

namespace TerminalSession

structure Asked where
  call : Call
  answer : Except Fault call.Answer

variable {τ : Type} [Terminal τ]

inductive Asks (start : τ) : List Asked → τ → Prop
  | nil : Asks start [] start
  | call {made : List Asked} {terminal : τ} (before : Asks start made terminal) (called : Call) :
      Asks start (⟨called, (Terminal.perform called terminal).answer⟩ :: made)
        (Terminal.perform called terminal).terminal

namespace Asks

variable {start middle stop : τ} {first second made : List Asked}

theorem append (before : Asks start first middle) (after : Asks middle second stop) :
    Asks start (second ++ first) stop := by
  induction after with
  | nil => exact before
  | call earlier called induction => exact .call induction called

theorem reply {called : Call} {answer : Except Fault called.Answer} {notes : List Log.Entry}
    (before : Asks start made middle)
    (replied : Terminal.perform called middle = ⟨answer, stop, notes⟩) :
    Asks start (⟨called, answer⟩ :: made) stop := by
  have next := before.call called
  rw [replied] at next
  exact next

theorem last {asked : Asked} (asks : Asks start (asked :: made) stop) :
    ∃ middle notes, Asks start made middle ∧
      Terminal.perform asked.call middle = ⟨asked.answer, stop, notes⟩ := by
  cases asks with
  | call before called => exact ⟨_, _, before, rfl⟩

end Asks

theorem Exchange.ends_asked {start : τ} {made : List Asked} {host : Logged τ} {called : Call}
    {returned : called.Answer → Logged τ → Prop} {failed : Failure → Logged τ → Prop}
    (before : Asks start made host.terminal)
    (answered : ∀ answer terminal log, Asks start (⟨called, .ok answer⟩ :: made) terminal →
      returned answer ⟨terminal, log⟩)
    (denied : ∀ fault terminal log, Asks start (⟨called, .error fault⟩ :: made) terminal →
      failed (.fault fault) ⟨terminal, log⟩) :
    Ends (Exchange.call called) host returned failed := by
  apply Exchange.ends_call
  · intro answer terminal notes log replied
    exact answered answer terminal log (before.reply replied)
  · intro fault terminal notes log replied
    exact denied fault terminal log (before.reply replied)

theorem Exchange.ends_answered {start : τ} {made : List Asked} {host : Logged τ} {called : Call}
    {returned : called.Answer → Logged τ → Prop} (before : Asks start made host.terminal)
    (answered : ∀ answer terminal log, Asks start (⟨called, .ok answer⟩ :: made) terminal →
      returned answer ⟨terminal, log⟩) :
    Ends (Exchange.call called) host returned (fun _ _ => True) :=
  Exchange.ends_asked before answered fun _ _ _ _ => trivial

/-! Only allowed calls are asked between two states of a terminal, or by a piece of work, whether it
fails or not. -/

def AskedOnly (allowed : Call → Prop) (start stop : Logged τ) : Prop :=
  ∃ made, Asks start.terminal made stop.terminal ∧ ∀ asked ∈ made, allowed asked.call

def AsksOnly {α : Type} (allowed : Call → Prop) (work : Exchange τ α) : Prop :=
  ∀ start, Ends work start (fun _ stop => AskedOnly allowed start stop)
    (fun _ stop => AskedOnly allowed start stop)

variable {allowed : Call → Prop} {α β : Type}

theorem AskedOnly.refl (host : Logged τ) : AskedOnly allowed host host :=
  ⟨[], .nil, by simp⟩

theorem AskedOnly.trans {start middle stop : Logged τ} (before : AskedOnly allowed start middle)
    (after : AskedOnly allowed middle stop) : AskedOnly allowed start stop := by
  rcases before with ⟨first, asksFirst, fitsFirst⟩
  rcases after with ⟨second, asksSecond, fitsSecond⟩
  refine ⟨second ++ first, asksFirst.append asksSecond, ?_⟩
  intro asked member
  rcases List.mem_append.mp member with later | earlier
  · exact fitsSecond asked later
  · exact fitsFirst asked earlier

theorem AskedOnly.imp {permitted : Call → Prop} {start stop : Logged τ}
    (asked : AskedOnly allowed start stop) (implies : ∀ called, allowed called → permitted called) :
    AskedOnly permitted start stop := by
  rcases asked with ⟨made, asks, fits⟩
  exact ⟨made, asks, fun called member => implies _ (fits called member)⟩

/-- What each of the allowed calls preserves, all of them preserve. -/
theorem AskedOnly.preserves {motive : τ → Prop} {start stop : Logged τ}
    (asked : AskedOnly allowed start stop) (initially : motive start.terminal)
    (step : ∀ called terminal, allowed called → motive terminal →
      motive (Terminal.perform called terminal).terminal) : motive stop.terminal := by
  rcases asked with ⟨made, asks, fits⟩
  generalize stop.terminal = last at asks
  induction asks with
  | nil => exact initially
  | call before called induction =>
      rw [List.forall_mem_cons] at fits
      exact step called _ fits.1 (induction fits.2)

namespace AsksOnly

theorem imp {permitted : Call → Prop} {work : Exchange τ α} (only : AsksOnly allowed work)
    (implies : ∀ called, allowed called → permitted called) : AsksOnly permitted work := by
  intro start
  apply (only start).mono
  · intro _ _ asked
    exact asked.imp implies
  · intro _ _ asked
    exact asked.imp implies

theorem pure (value : α) : AsksOnly allowed (Pure.pure value : Exchange τ α) :=
  fun start => AskedOnly.refl start

theorem throw (failure : Failure) : AsksOnly allowed (MonadExcept.throw failure : Exchange τ α) :=
  fun start => AskedOnly.refl start

theorem bind {work : Exchange τ α} {next : α → Exchange τ β} (first : AsksOnly allowed work)
    (second : ∀ value, AsksOnly allowed (next value)) : AsksOnly allowed (work >>= next) := by
  intro start
  rw [ends_bind]
  apply (first start).mono
  · intro value middle before
    apply (second value middle).mono
    · intro _ _ after
      exact before.trans after
    · intro _ _ after
      exact before.trans after
  · intro _ _ before
    exact before

theorem tryCatch {work : Exchange τ α} {recover : Failure → Exchange τ α}
    (first : AsksOnly allowed work) (second : ∀ failure, AsksOnly allowed (recover failure)) :
    AsksOnly allowed (tryCatch work recover) := by
  intro start
  rw [ends_tryCatch]
  apply (first start).mono
  · intro _ _ before
    exact before
  · intro failure middle before
    apply (second failure middle).mono
    · intro _ _ after
      exact before.trans after
    · intro _ _ after
      exact before.trans after

theorem call {called : Call} (fits : allowed called) :
    AsksOnly allowed (Exchange.call called : Exchange τ called.Answer) := by
  intro start
  have single : AskedOnly allowed start
      ⟨(Terminal.perform called start.terminal).terminal, []⟩ := by
    refine ⟨_, Asks.nil.call called, ?_⟩
    intro asked member
    rw [List.mem_singleton.mp member]
    exact fits
  apply Exchange.ends_call
  · intro answer terminal notes log replied
    rw [replied] at single
    exact single
  · intro fault terminal notes log replied
    rw [replied] at single
    exact single

theorem note (level : Log.Level) (source : Log.Source) (message : String) :
    AsksOnly allowed (Exchange.note level source message : Exchange τ Unit) :=
  fun _ => ⟨[], .nil, by simp⟩

theorem accept_bind {checked : Except Refusal α} {next : α → Exchange τ β}
    (rest : ∀ value, checked = .ok value → AsksOnly allowed (next value)) :
    AsksOnly allowed (Exchange.accept checked >>= next) := by
  cases checked with
  | ok value => exact rest value rfl
  | error refusal => exact throw _

end AsksOnly

/-! ## Actions and reads -/

/-- The calls an action may make. Calls that have nothing to do with sessions, colors, attributes
and borders are not told apart. -/
def Action.MayAsk (bindings : Bindings) (action : Action) : Call → Prop
  | .openSession | .closeSession => False
  | .startColor => ∃ name foreground background, action = .addColor name foreground background
  | .allocatePair foreground background => ∃ name, action = .addColor name foreground background
  | .applyAttribute window native operation =>
      window = bindings.handle ∧ ∃ look, action = .changeAttribute operation look ∧
        bindings.resolveAttribute look = .ok native
  | .drawBorder _ drawn =>
      ∃ name position size border, action = .addWindow name position size (some border) ∧
        bindings.resolveBorder border = .ok drawn
  | _ => True

def Drawing.calls (window : Handle) : Drawing → List Call
  | .char character => [.putChar window character]
  | .text content => [.putText window content]
  | .line content => [.putText window content, .putChar window '\n']
  | .horizontalLine character length => [.horizontalLine window character length]
  | .verticalLine character length => [.verticalLine window character length]
  | .move position => [.moveCursor window position]

def Action.Makes (session : Session) (bindings : Bindings) : Action → Call → Prop
  | .addWindow _ position size border, call =>
      call = .createWindow size position ∨
        (∃ window, call = .setKeypad window true ∨ call = .setNoDelay window false ∨
          call = .destroyWindow window) ∨
        ∃ window chosen drawn, border = some chosen ∧ bindings.resolveBorder chosen = .ok drawn ∧
          call = .drawBorder window drawn
  | .addColor _ foreground background, call =>
      call = .startColor ∨ call = .allocatePair foreground background
  | .changeAttribute operation look, call =>
      ∃ native, bindings.resolveAttribute look = .ok native ∧
        call = .applyAttribute bindings.handle native operation
  | .draw drawing, call => call ∈ drawing.calls bindings.handle
  | .clear, call => call = .clear bindings.handle
  | .erase, call => call = .erase bindings.handle
  | .refresh, call => call = .refresh bindings.handle
  | .getPosition, call => call = .windowPosition bindings.handle
  | .getSize, call => call = .windowSize bindings.handle
  | .setSize size, call => call = .resizeWindow bindings.handle size
  | .setEcho on, call => call = .setRawMode session.cbreak on
  | .setCbreak on, call => call = .setRawMode on session.echo
  | .setKeypad on, call => call = .setKeypad bindings.handle on
  | .setNoDelay on, call => call = .setNoDelay bindings.handle on
  | .setCursor visibility, call => call = .setCursor visibility
  | .getInput, call | .readAs _, call => call = .readInput bindings.handle
  | .setWindow _, _ | .unsetWindow, _ | .require _, _ => False

theorem Action.Makes.mayAsk {session : Session} {bindings : Bindings} {action : Action}
    {call : Call} (makes : action.Makes session bindings call) : action.MayAsk bindings call := by
  cases action with
  | addWindow name position size border =>
      rcases makes with rfl | ⟨window, rfl | rfl | rfl⟩ | ⟨window, chosen, drawn, rfl, found, rfl⟩
      · trivial
      · trivial
      · trivial
      · trivial
      · exact ⟨name, position, size, chosen, rfl, found⟩
  | addColor name foreground background =>
      rcases makes with rfl | rfl
      · exact ⟨name, foreground, background, rfl⟩
      · exact ⟨name, rfl⟩
  | changeAttribute operation look =>
      rcases makes with ⟨native, found, rfl⟩
      exact ⟨rfl, look, rfl, found⟩
  | draw drawing =>
      cases drawing with
      | line text =>
          rcases List.mem_cons.mp makes with rfl | later
          · trivial
          · cases List.mem_singleton.mp later
            trivial
      | _ =>
          cases List.mem_singleton.mp makes
          trivial
  | setWindow | unsetWindow | require => cases makes
  | _ =>
      cases makes
      trivial

namespace Machine

variable {bindings : Bindings} {session : Session}

theorem prepareWindow_asksOnly {window : Handle} {border : Option ResolvedBorder}
    (flags : allowed (.setKeypad window true) ∧ allowed (.setNoDelay window false))
    (drawn : ∀ drawn, border = some drawn → allowed (.drawBorder window drawn)) :
    AsksOnly allowed (prepareWindow window border : Exchange τ Unit) := by
  refine .bind (.call flags.1) fun _ => .bind (.call flags.2) fun _ => ?_
  cases border with
  | none => exact .pure ()
  | some border => exact .call (drawn border rfl)

/-! A session starts with the call that opens the terminal. The calls behind it prepare the
screen. -/

def prepareScreen (screen : Handle) : Exchange τ Bindings := do
  Exchange.call (.setRawMode true false)
  Exchange.call (.setKeypad screen true)
  Exchange.call (.setNoDelay screen false)
  let keys ← Exchange.call .specialKeys
  Exchange.note .info .machine ("Session started (" ++ toString keys.size ++ " special keys)")
  return .fresh screen keys

theorem openSession_eq :
    (openSession : Exchange τ Bindings) = Exchange.call .openSession >>= prepareScreen := rfl

theorem prepareScreen_asksOnly {screen : Handle} (modes : allowed (.setRawMode true false))
    (keypad : allowed (.setKeypad screen true)) (noDelay : allowed (.setNoDelay screen false))
    (keys : allowed .specialKeys) :
    AsksOnly allowed (prepareScreen screen : Exchange τ Bindings) := by
  refine .bind (.call modes) fun _ => .bind (.call keypad) fun _ => ?_
  refine .bind (.call noDelay) fun _ => .bind (.call keys) fun _ => ?_
  exact .bind (.note _ _ _) fun _ => .pure _

theorem addWindow_makes (name : String) (position : Position) (size : Size)
    (border : Option Border) :
    AsksOnly ((Action.addWindow name position size border).Makes session bindings)
      (perform session bindings (.addWindow name position size border) :
        Exchange τ (Outcome × Bindings)) := by
  have created : ∀ resolved : Option ResolvedBorder,
      (∀ drawn, resolved = some drawn →
        ∃ chosen, border = some chosen ∧ bindings.resolveBorder chosen = .ok drawn) →
      AsksOnly ((Action.addWindow name position size border).Makes session bindings) (do
        let window ← createWindow name position size resolved
        return (.unit, bindings.addWindow name resolved window) :
          Exchange τ (Outcome × Bindings)) := by
    intro resolved origin
    refine .bind (.bind (.call (.inl rfl)) fun window => ?_) fun _ => .pure _
    have prepared : AsksOnly ((Action.addWindow name position size border).Makes session bindings)
        (prepareWindow window resolved : Exchange τ Unit) := by
      apply prepareWindow_asksOnly
      · exact ⟨.inr (.inl ⟨window, .inl rfl⟩), .inr (.inl ⟨window, .inr (.inl rfl)⟩)⟩
      · intro drawn same
        rcases origin drawn same with ⟨chosen, asked, found⟩
        exact .inr (.inr ⟨window, chosen, drawn, asked, found, rfl⟩)
    have destroyed : (Action.addWindow name position size border).Makes session bindings
        (.destroyWindow window) := .inr (.inl ⟨window, .inr (.inr rfl)⟩)
    refine .bind (.tryCatch prepared fun failure => ?_) fun _ => .pure window
    exact .bind (.tryCatch (.call destroyed) fun cleanup => .note _ _ _) fun _ => .throw failure
  cases border with
  | none =>
      apply created
      intro drawn same
      cases same
  | some border =>
      simp only [perform, Option.mapM_some, map_eq_pure_bind, bind_assoc, pure_bind]
      apply AsksOnly.accept_bind
      intro drawn found
      apply created
      rintro _ ⟨⟩
      exact ⟨border, rfl, found⟩

theorem addColor_makes (name : String) (foreground background : Color) :
    AsksOnly ((Action.addColor name foreground background).Makes session bindings)
      (perform session bindings (.addColor name foreground background) :
        Exchange τ (Outcome × Bindings)) := by
  refine .bind ?_ fun _ => .pure _
  have allocated : AsksOnly ((Action.addColor name foreground background).Makes session bindings)
      (do
        let pair ← Exchange.call (.allocatePair foreground background)
        Exchange.note .debug .machine ("Color '" ++ name ++ "' bound to pair " ++ toString pair)
        return pair : Exchange τ ColorPair) :=
    .bind (.call (.inr rfl)) fun pair => .bind (.note _ _ _) fun _ => .pure pair
  unfold allocateColor
  split
  · exact .bind (.call (.inl rfl)) fun _ => allocated
  · exact allocated

theorem draw_makes (window : Handle) (drawing : Drawing) :
    AsksOnly (· ∈ drawing.calls window) (draw window drawing : Exchange τ Unit) := by
  cases drawing with
  | line text => exact .bind (.call (.head _)) fun _ => .call (.tail _ (.head _))
  | _ => exact .call (.head _)

theorem readCurrent_asksOnly (reads : allowed (.readInput bindings.handle)) :
    AsksOnly allowed (readCurrent bindings : Exchange τ Input) := by
  refine .bind (.call reads) fun delivered => ?_
  cases bindings.current.window.shape.resolve delivered bindings.keys with
  | none => exact .throw _
  | some input => exact .pure input

theorem readBound_asksOnly {shape : ReadShape} (reads : allowed (.readInput bindings.handle)) :
    AsksOnly allowed (readBound bindings shape : Exchange τ shape.Value) := by
  refine .bind (.call reads) fun delivered => ?_
  cases shape.decode delivered bindings.keys with
  | none => exact .throw _
  | some value => exact .pure value

theorem perform_makes (session : Session) (bindings : Bindings) (action : Action) :
    AsksOnly (action.Makes session bindings)
      (perform session bindings action : Exchange τ (Outcome × Bindings)) := by
  cases action with
  | addWindow name position size border => exact addWindow_makes name position size border
  | setWindow name => exact .accept_bind fun _ _ => .pure _
  | unsetWindow => exact .accept_bind fun _ _ => .pure _
  | addColor name foreground background => exact addColor_makes name foreground background
  | changeAttribute operation look =>
      apply AsksOnly.accept_bind
      intro native found
      exact .bind (.call ⟨native, found, rfl⟩) fun _ => .pure _
  | draw drawing => exact .bind (draw_makes bindings.handle drawing) fun _ => .pure _
  | getInput => exact .bind (readCurrent_asksOnly rfl) fun _ => .pure _
  | readAs shape => exact .bind (readCurrent_asksOnly rfl) fun _ => .pure _
  | require requirement => exact .pure _
  | _ => exact .bind (.call rfl) fun _ => .pure _

theorem perform_asksOnly (session : Session) (bindings : Bindings) (action : Action) :
    AsksOnly (action.MayAsk bindings)
      (perform session bindings action : Exchange τ (Outcome × Bindings)) :=
  (perform_makes session bindings action).imp fun _ makes => makes.mayAsk

/-! ## Steps -/

/-- A command makes the calls that the terminal's part in it makes. -/
theorem execute_askedOnly (machine : Machine τ) {command : Command}
    (only : AsksOnly allowed (dispatch machine.phase machine.bindings command :
      Exchange τ (Outcome × Option Bindings))) :
    AskedOnly allowed machine.host (machine.execute command).2.host := by
  apply execute_rule machine command (motive := fun result =>
    AskedOnly allowed machine.host result.2.host)
  · intro refusal _
    exact .refl _
  · intro next log _
    apply (only { machine.host with log }).mono
    · intro _ stop asked
      exact asked
    · intro _ stop asked
      exact asked

theorem execute_act_askedOnly (machine : Machine τ) {action : Action}
    (makes : ∀ session bindings call, action.Makes session bindings call → allowed call) :
    AskedOnly allowed machine.host (machine.execute (.act action)).2.host := by
  apply execute_askedOnly
  cases machine.phase with
  | inactive => exact .throw _
  | active session =>
      cases machine.bindings with
      | none => exact .throw _
      | some bindings =>
          have performed := (@perform_makes τ _ session bindings action).imp
            (makes session bindings)
          exact performed.bind fun _ => .pure _

theorem read_askedOnly (machine : Machine τ) (shape : ReadShape)
    (reads : ∀ window, allowed (.readInput window)) :
    AskedOnly allowed machine.host (machine.read shape).2.host := by
  apply read_rule machine shape (motive := fun result =>
    AskedOnly allowed machine.host result.2.host)
  · intro refusal
    exact .refl _
  · intro session bindings _ _
    have only : AsksOnly allowed (readBound bindings shape : Exchange τ shape.Value) :=
      readBound_asksOnly (reads _)
    apply (only machine.host).mono
    · intro _ stop asked
      exact asked
    · intro _ stop asked
      exact asked

end Machine

end TerminalSession
