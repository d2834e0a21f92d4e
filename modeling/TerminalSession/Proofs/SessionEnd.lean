import TerminalSession.Proofs.FailedInit
import TerminalSession.Proofs.OverheardTerminal
import TerminalSession.Proofs.ScreenClosing

/-! # A session is closed once

Until a live session is given up nothing closes its terminal. Then the terminal is asked to close,
and after it has done so it is not asked for anything any more. Only where the first attempt fails,
and the session was to be given back, there is a second one. -/

namespace TerminalSession

variable {τ : Type} [Terminal τ]

/-! ## While a session lives

Between two steps the terminal may change as far as `world` allows. -/

inductive Lived (world : τ → τ → Prop) (start : τ) : Live τ → Prop
  | init (options : SessionOptions) {live : Live τ}
      (started : Live.init { terminal := start } options = .ok live) : Lived world start live
  | act {live : Live τ} (lived : Lived world start live) (action : Action) :
      Lived world start (live.act action).2
  | disturb {live : Live τ} (lived : Lived world start live) {terminal : τ}
      (change : world live.machine.terminal terminal) :
      Lived world start
        ⟨{ live.machine with host := { live.machine.host with terminal } }⟩

namespace Machine

open Exchange

def Unclosed : Call → Prop := fun called => called ≠ .closeSession

theorem openSession_unclosed : AsksOnly Unclosed (openSession : Exchange τ Bindings) := by
  have keys : ∀ screen, AsksOnly Unclosed (do
      let keys ← call .specialKeys
      note .info .machine ("Session started (" ++ toString keys.size ++ " special keys)")
      return .fresh screen keys : Exchange τ Bindings) := by
    intro screen
    exact .bind (.call Call.noConfusion) fun _ => .bind (.note _ _ _) fun _ => .pure _
  apply AsksOnly.bind (.call Call.noConfusion)
  intro screen
  apply AsksOnly.bind (.call Call.noConfusion)
  intro _
  apply AsksOnly.bind (.call Call.noConfusion)
  intro _
  apply AsksOnly.bind (.call Call.noConfusion)
  intro _
  exact keys screen

theorem dispatch_unclosed (phase : Phase) (bindings : Option Bindings) {command : Command}
    (goesOn : command ≠ .deinit) :
    AsksOnly Unclosed
      (dispatch phase bindings command : Exchange τ (Outcome × Option Bindings)) := by
  cases command with
  | init options => exact openSession_unclosed.bind fun _ => .pure _
  | deinit => exact absurd rfl goesOn
  | act action =>
      cases phase with
      | inactive => exact .throw _
      | active session =>
          cases bindings with
          | none => exact .throw _
          | some bindings =>
              have performed : AsksOnly Unclosed
                  (perform session bindings action : Exchange τ (Outcome × Bindings)) := by
                apply (perform_asksOnly session bindings action).imp
                rintro _ allowed rfl
                exact allowed
              exact performed.bind fun _ => .pure _

theorem execute_unclosed (machine : Machine τ) (command : Command) (goesOn : command ≠ .deinit) :
    AskedOnly Unclosed machine.host (machine.execute command).2.host :=
  machine.execute_askedOnly (dispatch_unclosed machine.phase machine.bindings goesOn)

theorem read_unclosed (machine : Machine τ) (shape : ReadShape) :
    AskedOnly Unclosed machine.host (machine.read shape).2.host :=
  machine.read_askedOnly shape fun _ => Call.noConfusion

theorem execute_act_isActive (machine : Machine τ) (action : Action) :
    (machine.execute (.act action)).2.phase.isActive = machine.phase.isActive := by
  apply execute_rule machine (.act action) (motive := fun result =>
    result.2.phase.isActive = machine.phase.isActive)
  · intro refusal _
    rfl
  · intro next log leads
    rcases machine with ⟨host, phase, bindings⟩
    cases leads with
    | act met updated =>
        apply (ends_true _ _).mono
        · intro _ _ _
          rfl
        · intro _ _ _
          rfl

theorem read_phase (machine : Machine τ) (shape : ReadShape) :
    (machine.read shape).2.phase = machine.phase := by
  apply read_rule machine shape (motive := fun result => result.2.phase = machine.phase)
  · intro refusal
    rfl
  · intro session bindings _ _
    apply (ends_true _ _).mono
    · intro _ _ _
      rfl
    · intro _ _ _
      rfl

end Machine

namespace Live

open Machine

theorem act_cases {live : Live τ} (inStep : InStep live.machine.phase live.machine.bindings)
    (action : Action) :
    (live.act action).2.machine = (live.machine.execute (.act action)).2 ∨
      ∃ shape, (live.act action).2.machine = (live.machine.read shape).2 := by
  by_cases typed : ∃ shape, action = .readAs shape
  · rcases typed with ⟨shape, rfl⟩
    exact .inr ⟨shape, rfl⟩
  · rw [act_eq inStep fun shape same => typed ⟨shape, same⟩]
    exact .inl rfl

end Live

namespace Lived

open Machine

variable {world : τ → τ → Prop} {start : τ} {live : Live τ}

theorem of_init {options : SessionOptions}
    (started : Live.init { terminal := start } options = .ok live) :
    ∃ outcome, execute (.new start) (.init options) = (.ok outcome, live.machine) := by
  rw [Live.init_eq] at started
  split at started
  · rename_i outcome machine executed
    cases started
    exact ⟨outcome, executed⟩
  · cases started

theorem reachable (lived : Lived world start live) : live.machine.Reachable world := by
  induction lived with
  | init options started =>
      rcases of_init started with ⟨outcome, executed⟩
      have reached := (Reachable.new start : Reachable world _).execute (.init options)
      rw [executed] at reached
      exact reached
  | act lived action induction =>
      rcases Live.act_cases induction.inStep action with same | ⟨shape, same⟩
      · rw [same]
        exact induction.execute (.act action)
      · rw [same]
        exact induction.read shape
  | disturb lived change induction => exact induction.disturb change

theorem active (lived : Lived world start live) : live.machine.phase.isActive = true := by
  induction lived with
  | init options started =>
      rcases of_init started with ⟨outcome, executed⟩
      have accepted := (accepted_of_executed InStep.inactive executed).1
      rw [← Except.ok.inj accepted]
      rfl
  | act lived action induction =>
      rcases Live.act_cases lived.reachable.inStep action with same | ⟨shape, same⟩
      · rw [same, execute_act_isActive, induction]
      · rw [same, read_phase, induction]
  | disturb lived change induction => exact induction

end Lived

/-! ## Giving a session up

Abandoning a session makes one closing call, and giving it back makes one or two. -/

/-- What giving a session back returns, and the calls it makes, latest first. It succeeds with the
first attempt to close the terminal. If that one fails there is a second, of which only the terminal
knows whether it succeeds. -/
inductive GivenBack : Except Failure Unit → List Asked → Prop
  | closed : GivenBack (.ok ()) [⟨.closeSession, .ok ()⟩]
  | retried (fault : Fault) (answer : Except Fault Unit) :
      GivenBack (.error (.fault fault))
        [⟨.closeSession, answer⟩, ⟨.closeSession, .error fault⟩]

namespace Live

open Machine

theorem abandon_asks (live : Live τ) (active : live.machine.phase.isActive = true) :
    ∃ answer, Asks live.machine.terminal [⟨.closeSession, answer⟩] live.abandon.terminal := by
  rw [terminal_abandon, if_pos active]
  exact ⟨_, Asks.nil.call .closeSession⟩

theorem deinit_asks (live : Live τ) (active : live.machine.phase.isActive = true) :
    ∃ closing, GivenBack live.deinit.1 closing ∧
      Asks live.machine.terminal closing live.deinit.2.terminal := by
  unfold deinit
  rcases execute_deinit_cases live.machine active with
    ⟨host, executed, asks⟩ | ⟨fault, host, executed, asks⟩
  · rw [executed]
    exact ⟨_, .closed, asks⟩
  · rw [executed]
    rcases abandon_asks ⟨{ live.machine with host }⟩ active with ⟨answer, again⟩
    exact ⟨_, .retried fault answer, asks.append again⟩

end Live

/-! ## What was overheard -/

structure ClosesOnce (heard : Live (Overheard τ)) : Prop where
  unclosed : ∀ asked ∈ heard.machine.terminal.asked, asked.call ≠ .closeSession
  abandoned : ∃ answer, heard.abandon.terminal.asked =
    ⟨.closeSession, answer⟩ :: heard.machine.terminal.asked
  givenBack : ∃ closing, GivenBack heard.deinit.1 closing ∧
    heard.deinit.2.terminal.asked = closing ++ heard.machine.terminal.asked

namespace Lived

open Machine Overheard

variable {world : τ → τ → Prop} {start : τ}

variable {heard : Live (Overheard τ)}

theorem unclosed (lived : Lived (Moves world) ⟨start, []⟩ heard) :
    ∀ asked ∈ heard.machine.terminal.asked, asked.call ≠ .closeSession := by
  -- A step adds the calls it makes to those that were overheard, and none of them closes.
  have grown : ∀ {before after : Logged (Overheard τ)}, AskedOnly Unclosed before after →
      (∀ asked ∈ before.terminal.asked, Unclosed asked.call) →
        ∀ asked ∈ after.terminal.asked, Unclosed asked.call := by
    rintro before after ⟨made, asks, fits⟩ quiet asked member
    rw [asked_of_asks asks] at member
    rcases List.mem_append.mp member with later | earlier
    · exact fits asked later
    · exact quiet asked earlier
  induction lived with
  | init options started =>
      rcases of_init started with ⟨outcome, executed⟩
      have opened := execute_unclosed (.new (Overheard.mk start [])) (.init options)
        Command.noConfusion
      rw [executed] at opened
      exact grown opened fun asked member => absurd member List.not_mem_nil
  | @act live lived action induction =>
      rcases Live.act_cases lived.reachable.inStep action with same | ⟨shape, same⟩
      · rw [same]
        exact grown (execute_unclosed live.machine (.act action) Command.noConfusion) induction
      · rw [same]
        exact grown (read_unclosed live.machine shape) induction
  | disturb lived change induction =>
      intro asked member
      exact induction asked (change.2 ▸ member)

theorem closesOnce (lived : Lived (Moves world) ⟨start, []⟩ heard) : ClosesOnce heard where
  unclosed := lived.unclosed
  abandoned := by
    rcases heard.abandon_asks lived.active with ⟨answer, asks⟩
    exact ⟨answer, asked_of_asks asks⟩
  givenBack := by
    rcases heard.deinit_asks lived.active with ⟨closing, ended, asks⟩
    exact ⟨closing, ended, asked_of_asks asks⟩

/-- What was heard along did not change the session. -/
theorem forget (lived : Lived (Moves world) ⟨start, []⟩ heard) :
    Lived world start heard.forget := by
  induction lived with
  | init options started =>
      have plain := Live.init_forget start options
      rw [started] at plain
      exact .init options plain
  | @act live lived action induction =>
      have plain := induction.act action
      rw [Live.act_forget] at plain
      exact plain
  | disturb lived change induction => exact induction.disturb change.1

/-- Every session could have been heard along. -/
theorem overheard {live : Live τ} (lived : Lived world start live) :
    ∃ heard, Lived (Moves world) ⟨start, []⟩ heard ∧ heard.forget = live := by
  induction lived with
  | init options started =>
      rw [Live.init_forget] at started
      cases opened : Live.init { terminal := Overheard.mk start [] } options with
      | ok heard =>
          rw [opened] at started
          exact ⟨heard, .init options opened, Except.ok.inj started⟩
      | error failed =>
          rw [opened] at started
          cases started
  | act lived action induction =>
      rcases induction with ⟨heard, heardLived, rfl⟩
      refine ⟨(heard.act action).2, heardLived.act action, ?_⟩
      rw [Live.act_forget]
  | @disturb _ lived terminal change induction =>
      rcases induction with ⟨heard, heardLived, rfl⟩
      have moved : Moves world heard.machine.terminal ⟨terminal, heard.machine.terminal.asked⟩ :=
        ⟨change, rfl⟩
      exact ⟨_, heardLived.disturb moved, rfl⟩

end Lived

/-! ## Whether a recorder was closed -/

def EndsClosed (made : List Asked) : Prop := ∃ earlier, made = ⟨.closeSession, .ok ()⟩ :: earlier

theorem endsClosed_iff {answer : Except Fault Unit} {earlier : List Asked} :
    EndsClosed (⟨.closeSession, answer⟩ :: earlier) ↔ answer = .ok () := by
  constructor
  · rintro ⟨_, same⟩
    cases same
    rfl
  · rintro rfl
    exact ⟨earlier, rfl⟩

namespace Recorder

variable {start stop : Recorder} {earlier : List Asked} {answer : Except Fault Unit}

theorem isOpen_of_closing (opened : ∀ middle, Asks start earlier middle → middle.isOpen = true)
    (asks : Asks start (⟨.closeSession, answer⟩ :: earlier) stop) :
    stop.isOpen = false ↔ answer = .ok () := by
  rcases asks.last with ⟨middle, notes, before, reply⟩
  cases answer with
  | ok _ => exact iff_of_true (isOpen_closed reply) rfl
  | error fault =>
      have unclosed : stop.isOpen = true := (isOpen_unclosed reply).trans (opened middle before)
      rw [unclosed]
      exact iff_of_false Bool.noConfusion nofun

theorem isOpen_of_nothing (opened : start.isOpen = true) (asks : Asks start [] stop) :
    stop.isOpen = true := by
  cases asks
  exact opened

theorem isOpen_of_givenBack {result : Except Failure Unit} {closing : List Asked}
    (opened : start.isOpen = true) (ended : GivenBack result closing)
    (asks : Asks start closing stop) (before : List Asked) :
    stop.isOpen = false ↔ EndsClosed (closing ++ before) := by
  cases ended with
  | closed =>
      exact (isOpen_of_closing (fun _ => isOpen_of_nothing opened) asks).trans endsClosed_iff.symm
  | retried fault answer =>
      have denied : ∀ middle, Asks start [⟨.closeSession, .error fault⟩] middle →
          middle.isOpen = true := by
        intro middle first
        have still := isOpen_of_closing (fun _ => isOpen_of_nothing opened) first
        simpa using still
      exact (isOpen_of_closing denied asks).trans endsClosed_iff.symm

end Recorder

open Machine Overheard

/-- However a session is used and whatever the terminal makes of it, hearing along shows that it
closes its terminal once. A recorder is closed in the end exactly if the last attempt succeeded. -/
theorem session_closes_once {world : τ → τ → Prop} {start : τ} :
    (∀ live, Lived world start live →
      ∃ heard, Lived (Moves world) ⟨start, []⟩ heard ∧ heard.forget = live) ∧
    (∀ heard, Lived (Moves world) ⟨start, []⟩ heard →
      ClosesOnce heard ∧ Lived world start heard.forget ∧
        heard.forget.deinit = (heard.deinit.1, heard.deinit.2.forget) ∧
        heard.forget.abandon = heard.abandon.forget) ∧
    ∀ (recorder : Recorder) (heard : Live (Overheard Recorder)),
      Lived (Moves Rearmed) ⟨recorder, []⟩ heard →
        (heard.abandon.terminal.terminal.isOpen = false ↔
          EndsClosed heard.abandon.terminal.asked) ∧
        (heard.deinit.2.terminal.terminal.isOpen = false ↔
          EndsClosed heard.deinit.2.terminal.asked) := by
  refine ⟨?_, ?_, ?_⟩
  · intro live lived
    exact lived.overheard
  · intro heard lived
    exact ⟨lived.closesOnce, lived.forget, heard.deinit_forget, heard.abandon_forget⟩
  · intro recorder heard lived
    have opened : heard.machine.terminal.terminal.isOpen = true :=
      lived.forget.reachable.isOpen isOpen_rearmed lived.active
    constructor
    · rcases heard.abandon_asks lived.active with ⟨answer, asks⟩
      rw [asked_of_asks asks]
      have inside := asks_inside asks
      exact (Recorder.isOpen_of_closing (fun _ => Recorder.isOpen_of_nothing opened)
        inside).trans endsClosed_iff.symm
    · rcases heard.deinit_asks lived.active with ⟨closing, ended, asks⟩
      rw [asked_of_asks asks]
      exact Recorder.isOpen_of_givenBack opened ended (asks_inside asks) _

/-- A recorder that fails the first attempt to close it is closed by the second. -/
theorem failed_closing_is_retried :
    let start := Recorder.failAfter default .closeSession 0
    let opened : Live (Overheard Recorder) :=
      ⟨((Machine.new (Overheard.mk start [])).execute (.init {})).2⟩
    let heard := (opened.act (.draw (.text "bye"))).2
    Lived (Moves Rearmed) ⟨start, []⟩ heard ∧
      heard.deinit.1 = .error (.fault (.device .injected)) ∧
      heard.deinit.2.terminal.asked =
        ⟨.closeSession, .ok ()⟩ :: ⟨.closeSession, .error (.device .injected)⟩ ::
          heard.machine.terminal.asked ∧
      heard.deinit.2.terminal.terminal.isOpen = false := by
  intro start opened heard
  have begun : Lived (Moves Rearmed) ⟨start, []⟩ opened := .init {} rfl
  have lived : Lived (Moves Rearmed) ⟨start, []⟩ heard := begun.act (.draw (.text "bye"))
  have closes := @session_closes_once Recorder _ Rearmed start
  have closed := (closes.2.2 start heard lived).2.mpr ⟨_, rfl⟩
  exact ⟨lived, rfl, rfl, closed⟩

end TerminalSession
