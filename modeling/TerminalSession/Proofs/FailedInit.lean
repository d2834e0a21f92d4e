import TerminalSession.Live
import TerminalSession.Proofs.Diary

/-! # Sessions that do not start

A session starts by opening the terminal, and some more calls prepare its screen. If one of those is
denied there is no session, but nothing closes the terminal either. Whether a recorder is open where
no session runs can therefore be read off the diary: it is if a session failed to start after the
recorder had been opened, and none has ended since. -/

namespace TerminalSession

namespace Asked

def opens : Asked → Bool
  | ⟨.openSession, .ok _⟩ => true
  | _ => false

end Asked

namespace Recorder

variable {start stop : Recorder} {notes : List Log.Entry}

theorem isOpen_closed (reply : perform .closeSession start = ⟨.ok (), stop, notes⟩) :
    stop.isOpen = false := by
  rcases perform_cases .closeSession start with failed | ⟨armed, done⟩
  · rw [failed] at reply
    cases reply
  · rw [done] at reply
    cases reply
    rfl

theorem isOpen_unopened {fault : Fault}
    (reply : perform .openSession start = ⟨.error fault, stop, notes⟩) :
    stop.isOpen = start.isOpen := by
  rcases perform_cases .openSession start with failed | ⟨armed, done⟩
  · rw [failed] at reply
    cases reply
    rfl
  · rw [done] at reply
    cases reply

theorem isOpen_of_asks {made : List Asked} (asks : Asks start made stop)
    (unclosed : ∀ asked ∈ made, asked.call ≠ .closeSession) :
    stop.isOpen = (made.any Asked.opens || start.isOpen) := by
  induction asks with
  | nil => rfl
  | @call made terminal before called induction =>
      have earlier := induction fun asked member => unclosed asked (List.mem_cons_of_mem _ member)
      have notClosing : called ≠ .closeSession := unclosed _ List.mem_cons_self
      rw [List.any_cons, Bool.or_assoc, ← earlier]
      cases called with
      | openSession =>
          rcases reply : perform .openSession terminal with ⟨answer, after, notes⟩
          have same : Terminal.perform .openSession terminal = ⟨answer, after, notes⟩ := reply
          rw [same]
          cases answer with
          | ok screen => exact isOpen_opened reply
          | error fault => exact isOpen_unopened reply
      | closeSession => exact absurd rfl notClosing
      | _ => exact isOpen_perform rfl terminal

end Recorder

namespace Machine

/-! ## A session that does not start -/

section

variable {τ : Type} [Terminal τ] {fault : Fault}

/-- The calls of a session that does not start, latest first. The last of them is denied with the
fault, and all before it are answered. None of them closes the terminal. -/
inductive InitFailed (fault : Fault) : List Asked → Prop
  | unopened : InitFailed fault [⟨.openSession, .error fault⟩]
  | modes (screen : Handle) :
      InitFailed fault [⟨.setRawMode true false, .error fault⟩, ⟨.openSession, .ok screen⟩]
  | keypad (screen : Handle) :
      InitFailed fault [⟨.setKeypad screen true, .error fault⟩,
        ⟨.setRawMode true false, .ok ()⟩, ⟨.openSession, .ok screen⟩]
  | noDelay (screen : Handle) :
      InitFailed fault [⟨.setNoDelay screen false, .error fault⟩,
        ⟨.setKeypad screen true, .ok ()⟩, ⟨.setRawMode true false, .ok ()⟩,
        ⟨.openSession, .ok screen⟩]
  | keys (screen : Handle) :
      InitFailed fault [⟨.specialKeys, .error fault⟩, ⟨.setNoDelay screen false, .ok ()⟩,
        ⟨.setKeypad screen true, .ok ()⟩, ⟨.setRawMode true false, .ok ()⟩,
        ⟨.openSession, .ok screen⟩]

theorem InitFailed.unclosed {made : List Asked} (failed : InitFailed fault made) :
    ∀ asked ∈ made, asked.call ≠ .closeSession := by
  cases failed with
  | _ => simp

def NotStarted (start : τ) (failure : Failure) (stop : τ) : Prop :=
  ∃ fault made, failure = .fault fault ∧ InitFailed fault made ∧ Asks start made stop

theorem openSession_notStarted (host : Logged τ) :
    Ends openSession host (fun _ _ => True)
      (fun failure stop => NotStarted host.terminal failure stop.terminal) := by
  simp only [openSession, ends_bind]
  apply Exchange.ends_asked .nil
  · intro screen _ _ opened
    apply Exchange.ends_asked opened
    · intro _ _ _ modes
      apply Exchange.ends_asked modes
      · intro _ _ _ keypad
        apply Exchange.ends_asked keypad
        · intro _ _ _ noDelay
          apply Exchange.ends_asked noDelay
          · intros
            trivial
          · intro fault _ _ denied
            exact ⟨fault, _, rfl, .keys screen, denied⟩
        · intro fault _ _ denied
          exact ⟨fault, _, rfl, .noDelay screen, denied⟩
      · intro fault _ _ denied
        exact ⟨fault, _, rfl, .keypad screen, denied⟩
    · intro fault _ _ denied
      exact ⟨fault, _, rfl, .modes screen, denied⟩
  · intro fault _ _ denied
    exact ⟨fault, _, rfl, .unopened, denied⟩

theorem dispatch_init_notStarted (host : Logged τ) (phase : Phase) (bindings : Option Bindings)
    (options : SessionOptions) :
    Ends (dispatch phase bindings (.init options)) host (fun _ _ => True)
      (fun failure stop => NotStarted host.terminal failure stop.terminal) := by
  simp only [dispatch, bind_pure_comp, ends_map]
  exact openSession_notStarted host

/-- Where a session does not start, the machine is as it was but for what the calls did. -/
theorem execute_init_notStarted {machine : Machine τ} (idle : machine.phase = .inactive)
    (options : SessionOptions) (failure : Failure)
    (failed : (machine.execute (.init options)).1 = .error failure) :
    NotStarted machine.terminal failure (machine.execute (.init options)).2.terminal ∧
      (machine.execute (.init options)).2.phase = .inactive ∧
      (machine.execute (.init options)).2.bindings = machine.bindings := by
  revert failed
  refine execute_rule machine (.init options) ?_ ?_
  · intro refusal refused
    rw [idle] at refused
    cases refused
  · intro next log leads
    apply (dispatch_init_notStarted { machine.host with log } _ _ options).mono
    · intro _ _ _ failed
      cases failed
    · intro _ _ notStarted failed
      cases failed
      exact ⟨notStarted, idle, rfl⟩

theorem init_notStarted (host : Logged τ) (options : SessionOptions) (failure : Failure)
    (left : Logged τ) (failed : Live.init host options = .error (failure, left)) :
    NotStarted host.terminal failure left.terminal := by
  rw [Live.init] at failed
  split at failed
  · cases failed
  · rename_i executed
    cases failed
    have idle : (Machine.mk host .inactive none).phase = .inactive := rfl
    have denied := execute_init_notStarted idle options failure
    rw [executed] at denied
    exact (denied rfl).1

end

end Machine

/-! ## What a diary says about the recorder

A terminal is stranded if it was opened for a session that did not start, and none has ended
since. -/

namespace Entry

def strands (entry : Entry) : Bool :=
  match entry.command with
  | .init _ => !entry.succeeded && entry.made.any Asked.opens
  | _ => false

def closes (entry : Entry) : Bool :=
  match entry.command with
  | .deinit => entry.succeeded
  | _ => false

end Entry

def Diary.stranded (diary : List Entry) : Bool :=
  (diary.takeWhile fun entry => !entry.closes).any Entry.strands

theorem Diary.stranded_cons (entry : Entry) (earlier : List Entry) :
    stranded (entry :: earlier) = (!entry.closes && (entry.strands || stranded earlier)) := by
  rw [stranded, List.takeWhile_cons]
  cases entry.closes with
  | true => rfl
  | false => rfl

namespace Machine

open Recorder

inductive Since (start : Recorder) : List Entry → Machine Recorder → Prop
  | new : Since start [] (.new start)
  | execute {diary : List Entry} {machine : Machine Recorder} (since : Since start diary machine)
      (command : Command) : Since start (machine.entry command :: diary) (machine.execute command).2
  | read {diary : List Entry} {machine : Machine Recorder} (since : Since start diary machine)
      (shape : ReadShape) : Since start (machine.readEntry shape :: diary) (machine.read shape).2
  | disturb {diary : List Entry} {machine : Machine Recorder} (since : Since start diary machine)
      {terminal : Recorder} (change : Rearmed machine.terminal terminal) :
      Since start diary { machine with host := { machine.host with terminal } }

def Told (diary : List Entry) (machine : Machine Recorder) : Prop :=
  machine.phase = .inactive → machine.terminal.isOpen = Diary.stranded diary

variable {diary : List Entry} {machine : Machine Recorder}

theorem told_refused (told : Told diary machine) (command : Command) :
    Told (⟨command, askedSince machine.terminal machine.terminal, false⟩ :: diary) machine := by
  intro idle
  rw [told idle, Diary.stranded_cons, askedSince_eq .nil]
  cases command with
  | init options => rfl
  | deinit => rfl
  | act action => rfl

theorem execute_told (told : Told diary machine) (command : Command) :
    Told (machine.entry command :: diary) (machine.execute command).2 := by
  unfold entry
  refine execute_rule machine command ?_ ?_
  · intro refusal _
    exact told_refused told command
  · intro next log leads
    generalize before : machine.phase = phase at leads
    cases leads with
    | init options =>
        apply (dispatch_init_notStarted { machine.host with log } _ _ options).mono
        · intro _ _ _ idle
          cases idle
        · rintro failure stop ⟨fault, made, _, failed, asks⟩ _
          have opened := isOpen_of_asks asks failed.unclosed
          have calls : askedSince machine.terminal stop.terminal = made := askedSince_eq asks
          change stop.terminal.isOpen = Diary.stranded
            (⟨.init options, askedSince machine.terminal stop.terminal, false⟩ :: diary)
          rw [calls, Diary.stranded_cons, ← told before]
          exact opened
    | deinit session =>
        simp only [dispatch, closeSession, ends_bind, bind_pure_comp, ends_map, Exchange.ends_note]
        apply Exchange.ends_call
        · intro _ terminal notes _ reply _
          exact isOpen_closed reply
        · intro _ _ _ _ _ idle
          cases idle
    | act met updated =>
        apply (ends_true _ _).mono
        · intro _ _ _ idle
          cases idle
        · intro _ _ _ idle
          cases idle

theorem read_told (told : Told diary machine) (shape : ReadShape) :
    Told (machine.readEntry shape :: diary) (machine.read shape).2 := by
  unfold readEntry
  refine read_rule machine shape ?_ ?_
  · intro refusal
    exact told_refused told _
  · intro session bindings running _
    have busy : machine.phase ≠ .inactive := by
      rw [running]
      exact Phase.noConfusion
    apply (ends_true _ _).mono
    · intro _ _ _ idle
      exact absurd idle busy
    · intro _ _ _ idle
      exact absurd idle busy

theorem Since.told {start : Recorder} (closed : start.isOpen = false)
    (since : Since start diary machine) : Told diary machine := by
  induction since with
  | new => exact fun _ => closed
  | execute since command induction => exact execute_told induction command
  | read since shape induction => exact read_told induction shape
  | disturb since change induction =>
      intro idle
      exact (isOpen_rearmed _ _ change).trans (induction idle)

/-- Where a session does not start, the failure is returned without a call that closes the terminal.
So a recorder that was closed at first is open between sessions exactly if one of them did not
start, after the recorder was opened for it, and none has ended since. -/
theorem failed_init_leaves_terminal_open {τ : Type} [Terminal τ] (options : SessionOptions)
    (failure : Failure) :
    (∀ machine : Machine τ, machine.phase = .inactive →
      (machine.execute (.init options)).1 = .error failure →
        NotStarted machine.terminal failure (machine.execute (.init options)).2.terminal ∧
          (machine.execute (.init options)).2.phase = .inactive ∧
          (machine.execute (.init options)).2.bindings = machine.bindings) ∧
    (∀ host left : Logged τ, Live.init host options = .error (failure, left) →
      NotStarted host.terminal failure left.terminal) ∧
    ∀ (start : Recorder) (diary : List Entry) (machine : Machine Recorder),
      start.isOpen = false → Since start diary machine → machine.phase = .inactive →
        machine.terminal.isOpen = Diary.stranded diary ∧
          ((∀ entry ∈ diary, entry.strands = false) → machine.terminal.isOpen = false) := by
  refine ⟨?_, ?_, ?_⟩
  · intro machine idle failed
    exact execute_init_notStarted idle options failure failed
  · intro host left failed
    exact init_notStarted host options failure left failed
  · intro start diary machine closed since idle
    have told := since.told closed idle
    refine ⟨told, ?_⟩
    intro quiet
    rw [told, Diary.stranded, List.any_eq_false]
    intro entry member
    rw [quiet entry ((List.takeWhile_sublist _).subset member)]
    exact Bool.false_ne_true

/-- The modes cannot be set, the recorder stays open, and the next session closes it. -/
theorem retried_init_closes_terminal :
    let start := Recorder.failAfter default .setRawMode 0
    let attempt := (Machine.new start).execute (.init {})
    let retry := attempt.2.execute (.init {})
    let ended := retry.2.execute .deinit
    let diary := [retry.2.entry .deinit, attempt.2.entry (.init {}), entry (.new start) (.init {})]
    start.isOpen = false ∧ Since start diary ended.2 ∧ ended.2.phase = .inactive ∧
      NotStarted start (.fault (.device .injected)) attempt.2.terminal ∧
      attempt.2.terminal.isOpen = true ∧ ended.2.terminal.isOpen = false := by
  intro start attempt retry ended diary
  have first : Since start [entry (.new start) (.init {})] attempt.2 := .execute .new (.init {})
  have since : Since start diary ended.2 := .execute (.execute first (.init {})) .deinit
  have told := @failed_init_leaves_terminal_open Recorder _ {} (.fault (.device .injected))
  have stranded := (told.2.2 start _ _ rfl first rfl).1
  have closed := (told.2.2 start _ _ rfl since rfl).1
  have failed := (told.1 (.new start) rfl rfl).1
  exact ⟨rfl, since, rfl, failed, stranded, closed⟩

/-- A recorder can be open where no session runs, although every call that closes it succeeds. -/
theorem inactive_terminal_is_open :
    ¬ ∀ (start : Recorder) (diary : List Entry) (machine : Machine Recorder),
      start.isOpen = false → Since start diary machine →
        (∀ entry ∈ diary, ∀ asked ∈ entry.made, asked.call = .closeSession →
          asked.answer.isOk = true) →
        machine.phase = .inactive → machine.terminal.isOpen = false := by
  intro always
  have since : Since (Recorder.failAfter default .setRawMode 0) _ _ := .execute .new (.init {})
  have closed := always _ _ _ rfl since
  have calls : ∀ asked ∈ (entry (.new (Recorder.failAfter default .setRawMode 0)) (.init {})).made,
      asked.call ≠ .closeSession := by
    decide
  refine absurd (closed ?_ rfl) (by decide)
  intro entry member asked made closing
  cases List.mem_singleton.mp member
  exact absurd closing (calls asked made)

end Machine

end TerminalSession
