import TerminalSession.Proofs.ParallelWork
import TerminalSession.Recorder

/-! # Three ways to read

A machine reads with a shape that is known beforehand, by a command that insists on a shape, or by a
command that takes whatever shape the window has. The first checks the session and the others decode
by the bindings, yet all three come to the same. -/

namespace TerminalSession

namespace ReadShape

variable {shape : ReadShape}

theorem wrap_inj {value other : shape.Value} :
    shape.wrap value = shape.wrap other ↔ value = other := by
  cases shape <;> simp [wrap]

theorem noDelay_ofFlags (noDelay keypad : Bool) : (ofFlags noDelay keypad).noDelay = noDelay := by
  cases noDelay <;> cases keypad <;> rfl

theorem decode_eq_none_iff {delivered : Option Code} {keys : KeyTable} :
    shape.decode delivered keys = none ↔ delivered = none ∧ shape.noDelay = false := by
  cases shape <;> simp [decode, noDelay]

end ReadShape

namespace Machine

open Exchange

variable {τ : Type} [Terminal τ] {machine : Machine τ} {session : Session} {bindings : Bindings}
  {shape : ReadShape}

theorem check_readAs (shape : ReadShape) (session : Session) :
    (Command.act (.readAs shape)).check (.active session) =
      (Requirement.inputMode shape).checkActive session := by
  change (Requirement.checkActive .sessionActive session >>= fun _ =>
    Requirement.checkActive (.inputMode shape) session >>= fun _ => pure ()) = _
  cases Requirement.checkActive (.inputMode shape) session <;> rfl

/-! ## The commands -/

omit [Terminal τ] in
theorem readAs_accepted (running : machine.phase = .active session) (fits : session.shape = shape) :
    (Command.act (.readAs shape)).apply machine.phase = .ok (.active session) := by
  rw [running, Command.apply, check_readAs, Requirement.checkActive, if_pos fits]
  rfl

/-- Taking whatever shape there is comes to insisting on the one there is. -/
theorem getInput_alike (running : machine.phase = .active session) (fits : session.shape = shape) :
    (machine.execute (.act .getInput)).1 = (machine.execute (.act (.readAs shape))).1 ∧
      Alike (machine.execute (.act .getInput)).2 (machine.execute (.act (.readAs shape))).2 := by
  have accepted : (Command.act .getInput).apply machine.phase = .ok (.active session) := by
    rw [running]
    rfl
  rw [execute_accepted accepted, execute_accepted (readAs_accepted running fits), running]
  -- both commands are dispatched to the same work, announced by different notes
  have ended := dispatch_blind (.active session) machine.bindings (.act .getInput)
    (machine.announced (.act .getInput)) (machine.announced (.act (.readAs shape))) rfl
  change Abreast Eq _ (dispatch (.active session) machine.bindings (.act (.readAs shape)) _)
    at ended
  generalize dispatch (.active session) machine.bindings (.act .getInput)
    (machine.announced (.act .getInput)) = left at ended ⊢
  generalize dispatch (.active session) machine.bindings (.act (.readAs shape))
    (machine.announced (.act (.readAs shape))) = right at ended ⊢
  cases ended with
  | ok agreed same =>
      cases agreed
      exact ⟨rfl, same, rfl, rfl⟩
  | error failure same => exact ⟨rfl, same, rfl, rfl⟩

/-- The read and the command leave the same terminal, phase and bindings, and return the same, where
the command wraps the value in its shape. -/
structure ReadsAlike (shape : ReadShape) (typed : Except Failure shape.Value × Machine τ)
    (dynamic : Except Failure Outcome × Machine τ) : Prop where
  alike : Alike typed.2 dynamic.2
  value : ∀ value, typed.1 = .ok value ↔ dynamic.1 = .ok (.input (shape.wrap value))
  failure : ∀ failure, typed.1 = .error failure ↔ dynamic.1 = .error failure

omit [Terminal τ] in
theorem readsAlike_of_map {typed : Except Failure shape.Value × Machine τ}
    {dynamic : Except Failure Outcome × Machine τ}
    (same : typed.1.map (fun value => Outcome.input (shape.wrap value)) = dynamic.1)
    (alike : Alike typed.2 dynamic.2) : ReadsAlike shape typed dynamic := by
  refine ⟨alike, ?_, ?_⟩
  · intro value
    rw [← same]
    cases typed.1 with
    | ok found => simp [Except.map, ReadShape.wrap_inj]
    | error failure => simp [Except.map]
  · intro failure
    rw [← same]
    cases typed.1 with
    | ok found => simp [Except.map]
    | error failure => simp [Except.map]

theorem readAs_readsAlike (inStep : InStep machine.phase machine.bindings) (shape : ReadShape) :
    ReadsAlike shape (machine.read shape) (machine.execute (.act (.readAs shape))) := by
  have same := read_alike inStep ⟨rfl, rfl, rfl⟩ shape
  exact readsAlike_of_map same.1 same.2

theorem getInput_readsAlike (inStep : InStep machine.phase machine.bindings)
    (running : machine.phase = .active session) (fits : session.shape = shape) :
    ReadsAlike shape (machine.read shape) (machine.execute (.act .getInput)) := by
  have insisting := read_alike inStep ⟨rfl, rfl, rfl⟩ shape
  have taking := getInput_alike running fits
  apply readsAlike_of_map (insisting.1.trans taking.1.symm)
  exact
    { terminal := insisting.2.terminal.trans taking.2.terminal.symm
      phase := insisting.2.phase.trans taking.2.phase.symm
      bindings := insisting.2.bindings.trans taking.2.bindings.symm }

/-! ## Why a read fails

A read is refused where no session runs, or where the window delivers another shape. Otherwise it
fails as the terminal does, or because it waits and the terminal has nothing to deliver. -/

inductive ReadFails (machine : Machine τ) (shape : ReadShape) : Failure → Prop
  | notActive (idle : machine.phase = .inactive) : ReadFails machine shape (.refusal .notActive)
  | wrongShape {session : Session} (running : machine.phase = .active session)
      (differs : session.shape ≠ shape) :
      ReadFails machine shape
        (.refusal (.wrongShape session.currentWindow.name shape session.shape))
  | noInput {session : Session} {bindings : Bindings} (running : machine.phase = .active session)
      (fits : session.shape = shape) (bound : machine.bindings = some bindings)
      (waits : shape.noDelay = false)
      (silent :
        (Terminal.perform (.readInput bindings.handle) machine.terminal).answer = .ok none) :
      ReadFails machine shape (.fault .noInput)
  | denied {session : Session} {bindings : Bindings} {fault : Fault}
      (running : machine.phase = .active session) (fits : session.shape = shape)
      (bound : machine.bindings = some bindings)
      (answered : (Terminal.perform (.readInput bindings.handle) machine.terminal).answer =
        .error fault) : ReadFails machine shape (.fault fault)

def readAnswer (shape : ReadShape) (keys : KeyTable) :
    Except Fault (Option Code) → Except Failure shape.Value
  | .error fault => .error (.fault fault)
  | .ok delivered =>
      match shape.decode delivered keys with
      | some value => .ok value
      | none => .error (.fault .noInput)

theorem read_eq_readAnswer (running : machine.phase = .active session)
    (fits : session.shape = shape) (bound : machine.bindings = some bindings) :
    (machine.read shape).1 = readAnswer shape bindings.keys
      (Terminal.perform (.readInput bindings.handle) machine.terminal).answer := by
  have accepted : (Command.act (.readAs shape)).check machine.phase = .ok () := by
    rw [running, check_readAs, Requirement.checkActive, if_pos fits]
  have work : Ends (readBound bindings shape) machine.host
      (fun value _ => .ok value = readAnswer shape bindings.keys
        (Terminal.perform (.readInput bindings.handle) machine.terminal).answer)
      (fun failure _ => .error failure = readAnswer shape bindings.keys
        (Terminal.perform (.readInput bindings.handle) machine.terminal).answer) := by
    simp only [readBound, ends_bind]
    apply ends_call
    · intro delivered _ _ _ reply
      change Terminal.perform (.readInput bindings.handle) machine.terminal = _ at reply
      simp only [reply, readAnswer]
      cases shape.decode delivered bindings.keys <;> rfl
    · intro fault _ _ _ reply
      change Terminal.perform (.readInput bindings.handle) machine.terminal = _ at reply
      simp only [reply, readAnswer]
  rw [read_accepted bound accepted]
  unfold Ends at work
  split at work
  · rename_i ran
    rw [ran]
    exact work
  · rename_i ran
    rw [ran]
    exact work

theorem read_idle (idle : machine.phase = .inactive) (shape : ReadShape) :
    machine.read shape = (.error (.refusal .notActive), machine) := by
  apply read_refused
  rw [idle]
  rfl

theorem read_wrongShape (running : machine.phase = .active session)
    (differs : session.shape ≠ shape) :
    machine.read shape =
      (.error (.refusal (.wrongShape session.currentWindow.name shape session.shape)),
        machine) := by
  apply read_refused
  rw [running, check_readAs, Requirement.checkActive, if_neg differs]

theorem ReadFails.fst_read {failure : Failure} (fails : ReadFails machine shape failure) :
    (machine.read shape).1 = .error failure := by
  cases fails with
  | notActive idle => rw [read_idle idle]
  | wrongShape running differs => rw [read_wrongShape running differs]
  | noInput running fits bound waits silent =>
      rw [read_eq_readAnswer running fits bound, silent, readAnswer,
        ReadShape.decode_eq_none_iff.mpr ⟨rfl, waits⟩]
  | denied running fits bound answered =>
      rw [read_eq_readAnswer running fits bound, answered, readAnswer]

theorem readFails_of_read (inStep : InStep machine.phase machine.bindings) {failure : Failure}
    (failed : (machine.read shape).1 = .error failure) : ReadFails machine shape failure := by
  generalize running : machine.phase = phase at inStep
  generalize bound : machine.bindings = bindings at inStep
  cases inStep with
  | inactive =>
      rw [read_idle running] at failed
      cases failed
      exact .notActive running
  | @active session bindings consistent =>
      by_cases fits : session.shape = shape
      · rw [read_eq_readAnswer running fits bound] at failed
        cases answered :
            (Terminal.perform (.readInput bindings.handle) machine.terminal).answer with
        | error fault =>
            rw [answered] at failed
            cases failed
            exact .denied running fits bound answered
        | ok delivered =>
            rw [answered, readAnswer] at failed
            cases decoded : shape.decode delivered bindings.keys with
            | some value =>
                rw [decoded] at failed
                cases failed
            | none =>
                rw [decoded] at failed
                cases failed
                rcases ReadShape.decode_eq_none_iff.mp decoded with ⟨rfl, waits⟩
                exact .noInput running fits bound waits answered
      · rw [read_wrongShape running fits] at failed
        cases failed
        exact .wrongShape running fits

theorem InStep.shape_eq {bound : Option Bindings} (inStep : InStep (.active session) bound) :
    ∃ bindings, bound = some bindings ∧ bindings.current.window.shape = session.shape := by
  cases inStep with
  | @active _ bindings consistent =>
      refine ⟨bindings, rfl, ?_⟩
      rw [Bindings.current_window_eq consistent]
      rfl

/-- On every machine a read with a known shape comes to the same as the command that insists on it,
and as the command that takes what there is if that has this shape. It fails for the reasons there
are, and for no others. What it decodes by is what was checked. -/
theorem typed_and_dynamic_reads_agree {world : τ → τ → Prop} (reached : machine.Reachable world) :
    (∀ session, machine.phase = .active session →
      ∃ bindings, machine.bindings = some bindings ∧
        bindings.current.window.shape = session.shape) ∧
    (∀ shape, ReadsAlike shape (machine.read shape) (machine.execute (.act (.readAs shape)))) ∧
    (∀ session shape, machine.phase = .active session → session.shape = shape →
      ReadsAlike shape (machine.read shape) (machine.execute (.act .getInput))) ∧
    ∀ shape failure, (machine.read shape).1 = .error failure ↔ ReadFails machine shape failure := by
  have inStep := reached.inStep
  refine ⟨?_, ?_, ?_, ?_⟩
  · intro session running
    rw [running] at inStep
    exact inStep.shape_eq
  · intro shape
    exact readAs_readsAlike inStep shape
  · intro session shape running fits
    exact getInput_readsAlike inStep running fits
  · intro shape failure
    exact ⟨readFails_of_read inStep, ReadFails.fst_read⟩

/-- A recorder with one character typed, read while the window delivers characters and does not
wait. -/
theorem polled_character_agrees :
    let start := Recorder.pushInput default [97]
    let opened := ((new start).execute (.init {})).2
    let polling := (opened.execute (.act (.setNoDelay true))).2
    let machine := (polling.execute (.act (.setKeypad false))).2
    machine.Reachable Eq ∧ (machine.read .maybeChar).1 = .ok (some 'a') ∧
      (machine.execute (.act .getInput)).1 = .ok (.input (.maybeChar (some 'a'))) ∧
      ReadFails machine .char (.refusal (.wrongShape "default" .char .maybeChar)) := by
  intro start opened polling machine
  have begun : (new start : Machine Recorder).Reachable Eq := .new start
  have reached : machine.Reachable Eq :=
    ((begun.execute (.init {})).execute (.act (.setNoDelay true))).execute (.act (.setKeypad false))
  have agree := typed_and_dynamic_reads_agree reached
  have value : (machine.read .maybeChar).1 = .ok (some 'a') := rfl
  have taken := (agree.2.2.1 _ .maybeChar rfl rfl).value (some 'a')
  exact ⟨reached, value, taken.mp value, (agree.2.2.2 .char _).mp rfl⟩

end Machine

end TerminalSession
