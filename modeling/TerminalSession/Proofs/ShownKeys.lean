import TerminalSession.Demo
import TerminalSession.Proofs.EscapeSequences
import TerminalSession.Proofs.PendingReads

/-! # The keys that are shown

What the demonstration asks of its screen can all be shown: its texts have no control characters,
whatever is typed. And it always comes to an end: a number of reads that covers what is pending
leads to the same as no limit at all. -/

namespace TerminalSession

def Action.Tame : Action → Prop
  | .addWindow _ _ _ (some border) => Screen.Clean border.glyphs.toList
  | .draw (.char character) => Screen.Harmless character
  | .draw (.text text) | .draw (.line text) => ∀ character ∈ text.toList, Screen.Harmless character
  | .draw (.horizontalLine character _) | .draw (.verticalLine character _) =>
      Text.isControl character = false
  | _ => True

theorem Bindings.glyphs_resolveBorder {bindings : Bindings} {border : Border}
    {drawn : ResolvedBorder} (resolved : bindings.resolveBorder border = .ok drawn) :
    drawn.glyphs = border.glyphs := by
  unfold resolveBorder at resolved
  split at resolved
  · cases resolved
    rfl
  · rename_i color chosen
    cases found : bindings.resolveColor color with
    | error refusal =>
        rw [found] at resolved
        cases resolved
    | ok pair =>
        rw [found] at resolved
        cases resolved
        rfl

theorem Action.Makes.tame {session : Session} {bindings : Bindings} {action : Action} {call : Call}
    (makes : action.Makes session bindings call) (tame : action.Tame) : call.Tame := by
  cases action with
  | addWindow name position size border =>
      rcases makes with rfl | ⟨window, rfl | rfl | rfl⟩ | ⟨window, chosen, drawn, rfl, found, rfl⟩
      · trivial
      · trivial
      · trivial
      · trivial
      · change Screen.Clean drawn.glyphs.toList
        rw [Bindings.glyphs_resolveBorder found]
        exact tame
  | addColor name foreground background => rcases makes with rfl | rfl <;> trivial
  | changeAttribute operation look =>
      rcases makes with ⟨native, _, rfl⟩
      trivial
  | draw drawing =>
      cases drawing with
      | line text =>
          rcases List.mem_cons.mp makes with rfl | later
          · exact tame
          · cases List.mem_singleton.mp later
            exact .inl rfl
      | _ =>
          cases List.mem_singleton.mp makes
          exact tame
  | setWindow | unsetWindow | require => cases makes
  | _ =>
      cases makes
      trivial

namespace Live

variable {τ : Type} [Terminal τ] (live : Live τ)

theorem query_live {α : Type} (action : Action) (expected : String) (extract : Outcome → Option α) :
    (live.query action expected extract).2 = (live.perform action).2 := by
  unfold query
  rcases live.perform action with ⟨result, after⟩
  cases result with
  | error failure => rfl
  | ok outcome =>
      dsimp only
      cases extract outcome <;> rfl

theorem addColor_live (name : String) (foreground background : Color) :
    (live.addColor name foreground background).2 =
      (live.perform (.addColor name foreground background)).2 := by
  unfold addColor
  rcases live.perform (.addColor name foreground background) with ⟨result, after⟩
  cases result <;> rfl

end Live

namespace Demo

/-! ## The calls of work in a session -/

section

variable {τ α β : Type} [Terminal τ] {allowed : Call → Prop}

def Asking (allowed : Call → Prop) (work : Work τ α) : Prop :=
  ∀ live, Ends work live
    (fun _ stop => AskedOnly allowed live.machine.host stop.machine.host)
    (fun _ stop => AskedOnly allowed live.machine.host stop.machine.host)

namespace Asking

theorem pure (value : α) : Asking allowed (Pure.pure value : Work τ α) :=
  fun _ => AskedOnly.refl _

theorem bind {work : Work τ α} {next : α → Work τ β} (first : Asking allowed work)
    (second : ∀ value, Asking allowed (next value)) : Asking allowed (work >>= next) := by
  intro live
  rw [ends_bind]
  apply (first live).mono
  · intro value middle before
    exact (second value middle).imp fun _ after => before.trans after
  · intro _ _ asked
    exact asked

theorem imp {permitted : Call → Prop} {work : Work τ α} (asking : Asking allowed work)
    (implies : ∀ call, allowed call → permitted call) : Asking permitted work :=
  fun live => (asking live).imp fun _ asked => asked.imp implies

theorem use {method : Live τ → Except Failure α × Live τ}
    (asked : ∀ live : Live τ,
      AskedOnly allowed live.machine.host (method live).2.machine.host) :
    Asking allowed (Demo.use method) := by
  intro live
  have only := asked live
  unfold Ends Demo.use
  rcases done : method live with ⟨result, after⟩
  rw [done] at only
  cases result with
  | error failure => exact only
  | ok value => exact only

variable {action : Action}
  (makes : ∀ session bindings call, action.Makes session bindings call → allowed call)

include makes

theorem act : Asking allowed (Demo.act action : Work τ Unit) := by
  have performed : Asking allowed (Demo.use fun live => live.perform action : Work τ Outcome) :=
    .use fun live => live.machine.execute_act_askedOnly makes
  exact performed.bind fun _ => .pure _

theorem query (expected : String) (extract : Outcome → Option α) :
    Asking allowed (Demo.use fun live => live.query action expected extract : Work τ α) := by
  apply Asking.use
  intro live
  rw [Live.query_live]
  exact live.machine.execute_act_askedOnly makes

omit makes

theorem note (message : String) : Asking allowed (Demo.note message : Work τ Unit) :=
  fun _ => AskedOnly.refl _

theorem addColor {name : String} {foreground background : Color}
    (makes : ∀ session bindings call,
      (Action.addColor name foreground background).Makes session bindings call → allowed call) :
    Asking allowed (Demo.use fun live => live.addColor name foreground background :
      Work τ RegisteredColor) := by
  apply Asking.use
  intro live
  rw [Live.addColor_live]
  exact live.machine.execute_act_askedOnly makes

theorem read (shape : ReadShape) (reads : ∀ window, allowed (.readInput window)) :
    Asking allowed (Demo.use fun live => live.read shape : Work τ shape.Value) :=
  .use fun live => live.machine.read_askedOnly shape reads

end Asking

end

/-! ## What is shown

A key can be shown whatever its character is, and showing it takes nothing but drawing. -/

open Screen (Clean clean_append clean_singleton clean_replicate)

theorem clean_of_all {text : List Char} (visible : text.all (!Text.isControl ·) = true) :
    Clean text := by
  intro character member
  simpa using List.all_eq_true.mp visible character member

theorem harmless_of_clean {text : List Char} (clean : Clean text) :
    ∀ character ∈ text, Screen.Harmless character :=
  fun character member => .inr (clean character member)

theorem clean_first {text : String} (clean : Clean text.toList) (width : Nat) :
    Clean (Text.first width text).toList := by
  intro character member
  rw [Text.first, String.toList_ofList] at member
  exact clean character (List.mem_of_mem_take member)

theorem clean_alignLeft {text : String} (clean : Clean text.toList) (width : Nat) :
    Clean (Text.alignLeft width text).toList :=
  clean_append clean (clean_replicate (by decide) _)

theorem clean_hexadecimal {character : Char} (control : Text.isControl character = true) :
    Clean (Text.hexadecimal character.toNat).toList := by
  have small : character.toNat < 0xA0 := by
    simp only [Text.isControl, Bool.or_eq_true, Bool.and_eq_true, decide_eq_true_eq] at control
    omega
  have digits : ∀ number < 0xA0, (Nat.toDigits 16 number).all (!Text.isControl ·) = true := by
    decide +kernel
  rw [Text.hexadecimal, String.toList_ofList]
  exact clean_of_all (digits _ small)

theorem clean_label (key : SpecialKey) : Clean key.label.toList := by
  cases key with
  | function number =>
      exact clean_append
        (clean_append (clean_of_all (by decide : "F(".toList.all _ = true))
          (Screen.clean_toString _))
        (clean_of_all (by decide))
  | _ => exact clean_of_all (by decide)

theorem clean_describe (key : Key) : Clean (describe key).toList := by
  cases key with
  | special key => exact clean_append (clean_of_all (by decide)) (clean_label key)
  | char character =>
      have quote : Clean Text.apostrophe.toString.toList := clean_singleton (by decide)
      rw [describe]
      cases control : Text.isControl character with
      | true =>
          exact clean_append (clean_append (clean_of_all (by decide))
            (clean_replicate (by decide) _)) (clean_hexadecimal control)
      | false =>
          exact clean_append (clean_append (clean_append (clean_of_all (by decide)) quote)
            (clean_singleton control)) quote

theorem clean_ofName (name : String) : Clean (BorderGlyphs.ofName name).toList := by
  unfold BorderGlyphs.ofName
  split <;> exact clean_of_all (by decide)

/-! ## What the demonstration asks -/

section

variable {τ : Type} [Terminal τ]

theorem asking_act {action : Action} (tame : action.Tame) :
    Asking Call.Tame (act action : Work τ Unit) :=
  .act fun _ _ _ makes => makes.tame tame

theorem draw_asks (settings : Settings) : Asking Call.Tame (draw settings : Work τ Nat) := by
  have colored : ∀ name foreground background, Asking Call.Tame
      (use fun live => live.addColor name foreground background : Work τ RegisteredColor) :=
    fun name foreground background =>
      .addColor fun _ _ _ makes => @Action.Makes.tame _ _ (.addColor ..) _ makes trivial
  have measured : Asking Call.Tame (use fun live => live.getSize : Work τ Size) :=
    .query (fun _ _ _ makes => @Action.Makes.tame _ _ .getSize _ makes trivial) _ _
  have text : ∀ text : String, Clean text.toList →
      Asking Call.Tame (act (.draw (.text text)) : Work τ Unit) :=
    fun text clean => asking_act (harmless_of_clean clean)
  unfold draw
  refine .bind (asking_act trivial) fun _ => .bind (colored _ _ _) fun title => ?_
  refine .bind (colored _ _ _) fun frame => .bind (asking_act trivial) fun _ => ?_
  refine .bind (text _ (clean_of_all (by decide))) fun _ => .bind (asking_act trivial) fun _ => ?_
  refine .bind (asking_act trivial) fun _ => .bind measured fun screen => ?_
  refine .bind (asking_act (clean_ofName settings.borderStyle)) fun _ => ?_
  refine .bind (asking_act trivial) fun _ => .bind (asking_act trivial) fun _ => ?_
  refine .bind (asking_act trivial) fun _ => .bind (text _ (clean_of_all (by decide))) fun _ => ?_
  exact .bind (asking_act trivial) fun _ => .pure _

/-- To show a key takes nothing but drawing. -/
theorem showKey_asks (width : Nat) (key : Key) :
    Asking (fun call => call.Tame ∧ Screen.Listens call = false)
      (showKey width key : Work τ Unit) := by
  have drawn : ∀ drawing, (Action.draw drawing).Tame →
      Asking (fun call => call.Tame ∧ Screen.Listens call = false)
        (act (.draw drawing) : Work τ Unit) := by
    intro drawing tame
    apply Asking.act
    intro session bindings call makes
    refine ⟨makes.tame tame, ?_⟩
    cases drawing with
    | line text =>
        rcases List.mem_cons.mp makes with rfl | later
        · rfl
        · cases List.mem_singleton.mp later
          rfl
    | _ =>
        cases List.mem_singleton.mp makes
        rfl
  have refreshed : Asking (fun call => call.Tame ∧ Screen.Listens call = false)
      (act .refresh : Work τ Unit) := by
    apply Asking.act
    rintro session bindings _ rfl
    exact ⟨trivial, rfl⟩
  have clean := clean_alignLeft (clean_first (clean_describe key) width) width
  exact .bind (.note _) fun _ => .bind (drawn (.move _) trivial) fun _ =>
    .bind (drawn (.text _) (harmless_of_clean clean)) fun _ => refreshed

theorem showKeys_asks (width reads : Nat) :
    Asking Call.Tame (showKeys width reads : Work τ Unit) := by
  induction reads with
  | zero => exact .pure ()
  | succ reads induction =>
      rw [showKeys]
      refine .bind (.read .maybeKey fun _ => trivial) fun found => ?_
      split
      · exact .pure ()
      · exact .bind ((showKey_asks width _).imp fun _ => And.left) fun _ => induction
      · exact induction

end

theorem converse_asks (settings : Settings) : Asking Call.Tame (converse settings) := by
  apply (draw_asks settings).bind
  intro width live
  exact showKeys_asks width _ live

/-! ## How it goes on -/

/-- Keys are shown until the quit key is read or something fails. Nothing else ends this: there is
no limit to the number of reads. -/
inductive Shows (width : Nat) : Live Screen → EStateM.Result Failure (Live Screen) Unit → Prop
  | unread {live after : Live Screen} {failure : Failure}
      (read : live.read .maybeKey = (.error failure, after)) :
      Shows width live (.error failure after)
  | quit {live after : Live Screen} (read : live.read .maybeKey = (.ok (some (.char 'q')), after)) :
      Shows width live (.ok () after)
  | idle {live after : Live Screen} {result : EStateM.Result Failure (Live Screen) Unit}
      (read : live.read .maybeKey = (.ok none, after)) (later : Shows width after result) :
      Shows width live result
  | undrawn {live middle after : Live Screen} {key : Key} {failure : Failure}
      (read : live.read .maybeKey = (.ok (some key), middle)) (other : key ≠ .char 'q')
      (shown : showKey width key middle = .error failure after) :
      Shows width live (.error failure after)
  | key {live middle after : Live Screen} {key : Key}
      {result : EStateM.Result Failure (Live Screen) Unit}
      (read : live.read .maybeKey = (.ok (some key), middle)) (other : key ≠ .char 'q')
      (shown : showKey width key middle = .ok () after) (later : Shows width after result) :
      Shows width live result

inductive Converses (settings : Settings) (live : Live Screen) :
    EStateM.Result Failure (Live Screen) Unit → Prop
  | undrawn {after : Live Screen} {failure : Failure}
      (drawn : draw settings live = .error failure after) :
      Converses settings live (.error failure after)
  | drawn {width : Nat} {middle : Live Screen} {result : EStateM.Result Failure (Live Screen) Unit}
      (drawn : draw settings live = .ok width middle) (shows : Shows width middle result) :
      Converses settings live result

variable {live middle after : Live Screen} {width reads : Nat} {key : Key}

theorem read_pending {shape : ReadShape} {value : shape.Value}
    (read : live.read shape = (.ok value, after)) :
    after.machine.terminal.pendingReads < live.machine.terminal.pendingReads := by
  have work : ∀ value, (live.machine.read shape).1 = .ok value →
      (live.machine.read shape).2.terminal.pendingReads < live.machine.terminal.pendingReads := by
    apply Machine.read_rule live.machine shape (motive := fun result =>
      ∀ value, result.1 = .ok value →
        result.2.terminal.pendingReads < live.machine.terminal.pendingReads)
    · intro refusal value answered
      cases answered
    · intro session bindings _ _
      rw [Machine.readBound, ends_bind]
      apply Exchange.ends_call
      · intro code terminal notes log replied
        have fewer := Screen.perform_readInput_pending replied
        cases shape.decode code bindings.keys with
        | none =>
            intro value answered
            cases answered
        | some value => exact fun _ _ => fewer
      · intro fault terminal notes log _ value answered
        cases answered
  have whole : live.read shape =
      ((live.machine.read shape).1, ⟨(live.machine.read shape).2⟩) := rfl
  rw [whole] at read
  have parts := Prod.mk.inj read
  rw [← parts.2]
  exact work value parts.1

theorem showKey_pending (shown : showKey width key middle = .ok () after) :
    after.machine.terminal.pendingReads ≤ middle.machine.terminal.pendingReads := by
  have asked := showKey_asks width key middle
  unfold Ends at asked
  rw [shown] at asked
  exact Screen.pendingReads_le_of_asked (asked.imp fun _ => And.right)

/-- Enough reads are as good as no limit. -/
theorem shows_showKeys (enough : live.machine.terminal.pendingReads < reads) :
    Shows width live (showKeys width reads live) := by
  -- A read uses up one of those that are pending, and showing its key gives none back.
  induction reads generalizing live with
  | zero => exact absurd enough (Nat.not_lt_zero _)
  | succ reads induction =>
      rcases read : live.read .maybeKey with ⟨found, middle⟩
      cases found with
      | error failure =>
          have same : showKeys width (reads + 1) live = .error failure middle := by
            simp only [showKeys, bind, EStateM.bind, use, read]
          rw [same]
          exact .unread read
      | ok found =>
          have less : middle.machine.terminal.pendingReads < reads :=
            Nat.lt_of_lt_of_le (read_pending read) (Nat.le_of_lt_succ enough)
          simp only [showKeys, bind, EStateM.bind, use, read]
          split
          · exact .quit read
          · rename_i key other
            have different : key ≠ .char 'q' := by
              rintro rfl
              exact other rfl
            cases shown : showKey width key middle with
            | error failure after =>
                simp only [EStateM.bind, shown]
                exact .undrawn read different shown
            | ok _ after =>
                simp only [EStateM.bind, shown]
                have still := Nat.lt_of_le_of_lt (showKey_pending shown) less
                exact .key read different shown (induction still)
          · exact .idle read (induction less)

theorem converses (settings : Settings) (live : Live Screen) :
    Converses settings live (converse settings live) := by
  cases drawn : draw settings live with
  | error failure after =>
      have same : converse settings live = .error failure after := by
        simp only [converse, bind, EStateM.bind, drawn]
      rw [same]
      exact .undrawn drawn
  | ok width middle =>
      have same : converse settings live =
          showKeys width (middle.machine.terminal.pendingReads + 1) middle := by
        simp only [converse, bind, EStateM.bind, drawn]
        rfl
      rw [same]
      exact .drawn drawn (shows_showKeys (Nat.lt_succ_self _))

end Demo

end TerminalSession
