import TerminalSession.Proofs.Diary

/-! # What an armed recorder fails

A recorder that is armed lets so many calls of a kind through and fails the next one of that kind,
and no other. A call that fails, for this reason or because it cannot be carried out, is written
down and changes nothing else. So what a recorder has come to is what the calls that succeeded made
of it. -/

namespace TerminalSession

namespace Recorder

variable {recorder : Recorder} {called : Call}

/-! ## One call

Carrying a call out has nothing to do with the history, nor with what the recorder is armed for. The
special keys can always be asked for. -/

def rewritten (recorder : Recorder) (history : List Call) (armed : Option (Call.Kind × Nat)) :
    Recorder := { recorder with history, armed }

theorem onPane_rewritten {α : Type} (recorder : Recorder) (history : List Call)
    (armed : Option (Call.Kind × Nat)) (window : Handle) (use : Pane → α × Pane) :
    (recorder.rewritten history armed).onPane window use =
      ((recorder.onPane window use).1, (recorder.onPane window use).2.rewritten history armed) := by
  have panes : (recorder.rewritten history armed).panes = recorder.panes := rfl
  unfold onPane
  rw [panes]
  cases recorder.panes.get? window <;> rfl

theorem answer_rewritten (called : Call) (recorder : Recorder) (history : List Call)
    (armed : Option (Call.Kind × Nat)) :
    answer called (recorder.rewritten history armed) =
      ((answer called recorder).1, (answer called recorder).2.rewritten history armed) := by
  cases called with
  | destroyWindow window =>
      simp only [answer, rewritten]
      cases recorder.panes.get? window <;> rfl
  | readInput window =>
      rcases recorder with ⟨screen, _, panes, pairs, input⟩
      simp only [answer, rewritten]
      cases panes.get? window <;> cases input <;> rfl
  | allocatePair foreground background =>
      by_cases room : recorder.pairs.size < pairLimit <;>
        simp only [answer, rewritten, room] <;> rfl
  | openSession | closeSession | setRawMode | setCursor | createWindow | startColor
  | specialKeys => rfl
  | _ =>
      simp only [answer]
      exact onPane_rewritten recorder history armed _ _

theorem onPane_failed {α : Type} {window : Handle} {use : Pane → α × Pane} {fault : Fault}
    (failed : (recorder.onPane window use).1 = .error fault) :
    fault = .invalidHandle ∧ (recorder.onPane window use).2 = recorder := by
  unfold onPane at failed ⊢
  cases found : recorder.panes.get? window with
  | none =>
      rw [found] at failed
      cases failed
      exact ⟨rfl, rfl⟩
  | some pane =>
      rw [found] at failed
      cases failed

theorem answer_failed {fault : Fault} (failed : (answer called recorder).1 = .error fault) :
    (fault = .invalidHandle ∨ fault = .colorPairsExhausted) ∧
      (answer called recorder).2 = recorder := by
  cases called with
  | destroyWindow window =>
      simp only [answer] at failed ⊢
      cases found : recorder.panes.get? window with
      | none =>
          rw [found] at failed
          cases failed
          exact ⟨.inl rfl, rfl⟩
      | some pane =>
          rw [found] at failed
          cases failed
  | readInput window =>
      simp only [answer] at failed ⊢
      cases found : recorder.panes.get? window with
      | none =>
          rw [found] at failed
          cases failed
          exact ⟨.inl rfl, rfl⟩
      | some pane =>
          rw [found] at failed
          cases queued : recorder.input <;> rw [queued] at failed <;> cases failed
  | allocatePair foreground background =>
      simp only [answer] at failed ⊢
      split at failed
      · cases failed
      · rename_i full
        cases failed
        rw [if_neg full]
        exact ⟨.inr rfl, rfl⟩
  | openSession | closeSession | setRawMode | setCursor | createWindow | startColor
  | specialKeys => cases failed
  | _ => exact (onPane_failed failed).imp_left .inl

def isDue (recorder : Recorder) (kind : Call.Kind) : Bool :=
  kind ≠ .specialKeys && (trigger kind recorder.armed).1

def armedAfter (recorder : Recorder) (kind : Call.Kind) : Option (Call.Kind × Nat) :=
  if kind = .specialKeys then recorder.armed else (trigger kind recorder.armed).2

theorem perform_eq (called : Call) (recorder : Recorder) :
    perform called recorder =
      if recorder.isDue called.kind then
        { answer := .error (.device .injected)
          terminal := recorder.rewritten (called :: recorder.history)
            (recorder.armedAfter called.kind) }
      else
        { answer := (answer called recorder).1
          terminal := (answer called recorder).2.rewritten (called :: recorder.history)
            (recorder.armedAfter called.kind) } := by
  have carried : ∀ armed,
      answer called { recorder with history := called :: recorder.history, armed } =
      ((answer called recorder).1,
        (answer called recorder).2.rewritten (called :: recorder.history) armed) :=
    answer_rewritten called recorder (called :: recorder.history)
  by_cases special : called.kind = .specialKeys
  · have done := carried recorder.armed
    simp only [perform, isDue, armedAfter, special, if_true, done]
    rfl
  · simp only [perform, isDue, armedAfter, special, if_false]
    rcases triggered : trigger called.kind recorder.armed with ⟨due, armed⟩
    cases due with
    | true => simp [rewritten, special]
    | false => simp [carried armed, special]

/-- A call that fails is written down and changes nothing else, and there are three reasons for it
to fail. -/
theorem perform_failed {fault : Fault} (failed : (perform called recorder).answer = .error fault) :
    fault ∈ [.device .injected, .invalidHandle, .colorPairsExhausted] ∧
      (perform called recorder).terminal =
        recorder.rewritten (called :: recorder.history) (recorder.armedAfter called.kind) := by
  rw [perform_eq] at failed ⊢
  split at failed
  · rename_i due
    cases failed
    rw [if_pos due]
    exact ⟨List.mem_cons_self, rfl⟩
  · rename_i spared
    rw [if_neg spared]
    rcases answer_failed failed with ⟨cause, same⟩
    refine ⟨?_, by rw [same]⟩
    rcases cause with rfl | rfl <;> simp

theorem injected_iff :
    (perform called recorder).answer = .error (.device .injected) ↔
      recorder.isDue called.kind = true := by
  rw [perform_eq]
  by_cases due : recorder.isDue called.kind = true
  · rw [if_pos due]
    exact iff_of_true rfl due
  · rw [if_neg due]
    refine iff_of_false ?_ due
    intro failed
    rcases (answer_failed failed).1 with other | other <;> cases other

theorem perform_succeeded {answered : called.Answer} (history : List Call)
    (succeeded : (perform called recorder).answer = .ok answered) :
    perform called (recorder.rewritten history none) =
      { answer := .ok answered
        terminal := (perform called recorder).terminal.rewritten (called :: history) none } := by
  rw [perform_eq] at succeeded
  by_cases due : recorder.isDue called.kind = true
  · rw [if_pos due] at succeeded
    cases succeeded
  · rw [if_neg due] at succeeded
    change (answer called recorder).1 = .ok answered at succeeded
    have disarmed : (recorder.rewritten history none).isDue called.kind = false := by
      simp [isDue, rewritten, trigger]
    have disarmedAfter : (recorder.rewritten history none).armedAfter called.kind = none := by
      simp [armedAfter, rewritten, trigger]
    rw [perform_eq called recorder, if_neg due, perform_eq, disarmed, disarmedAfter,
      answer_rewritten, succeeded]
    rfl

theorem armed_perform (called : Call) (recorder : Recorder) :
    (perform called recorder).terminal.armed = recorder.armedAfter called.kind := by
  rw [perform_eq]
  split <;> rfl

/-! ## Any number of calls

What remains of the calls to let through counts down with each call of the kind, until the one that
fails. -/

variable {kind : Call.Kind} {skip : Nat}

def remaining (kind : Call.Kind) (skip count : Nat) : Option (Call.Kind × Nat) :=
  if count ≤ skip then some (kind, skip - count) else none

theorem trigger_remaining (called : Call.Kind) (count : Nat) :
    trigger called (remaining kind skip count) =
      (decide (called = kind ∧ count = skip),
        remaining kind skip (count + if called = kind then 1 else 0)) := by
  by_cases same : kind = called
  · subst same
    rcases Nat.lt_trichotomy count skip with less | equal | more
    · have reached : count ≤ skip := by omega
      have further : count + 1 ≤ skip := by omega
      have different : count ≠ skip := by omega
      have left : skip - count = (skip - (count + 1)) + 1 := by omega
      simp only [remaining, if_pos reached, left, trigger, if_true, if_pos further]
      simp [different]
    · subst equal
      simp [remaining, trigger]
    · have passed : ¬ count ≤ skip := by omega
      have further : ¬ count + 1 ≤ skip := by omega
      have different : count ≠ skip := by omega
      simp [remaining, trigger, passed, further, different]
  · have other : ¬ called = kind := fun equal => same equal.symm
    by_cases within : count ≤ skip <;> simp [remaining, within, trigger, same, other]

theorem replay_cons (start : Recorder) (called : Call) (earlier : List Call) :
    start.replay (called :: earlier) =
      (⟨called, (perform called (start.replay earlier).2).answer⟩ :: (start.replay earlier).1,
        (perform called (start.replay earlier).2).terminal) := rfl

/-- How far the recorder has counted down, unless it is armed for calls that cannot fail. -/
theorem armed_replay (start : Recorder) (fallible : kind ≠ .specialKeys) (calls : List Call) :
    ((start.failAfter kind skip).replay calls).2.armed =
      remaining kind skip (calls.countP (·.kind = kind)) := by
  induction calls with
  | nil => rfl
  | cons called earlier induction =>
      rw [replay_cons, armed_perform, armedAfter, induction, trigger_remaining, List.countP_cons]
      split
      · rename_i special
        have other : ¬ called.kind = kind := fun same => fallible (same.symm.trans special)
        simp [other]
      · simp

theorem armed_replay_specialKeys (start : Recorder) (calls : List Call) :
    ((start.failAfter .specialKeys skip).replay calls).2.armed = some (.specialKeys, skip) := by
  induction calls with
  | nil => rfl
  | cons called earlier induction =>
      rw [replay_cons, armed_perform, armedAfter, induction]
      split
      · rfl
      · rename_i other
        simp [trigger, Ne.symm other]

theorem history_replay (start : Recorder) (calls : List Call) :
    (start.replay calls).2.history = calls ++ start.history := by
  induction calls with
  | nil => rfl
  | cons called earlier induction =>
      rw [replay_cons, history_perform, induction]
      rfl

theorem calls_replay (start : Recorder) (calls : List Call) :
    (start.replay calls).1.map Asked.call = calls := by
  induction calls with
  | nil => rfl
  | cons called earlier induction =>
      rw [replay_cons, List.map_cons, induction]

theorem injected_after_iff (start : Recorder) (kind : Call.Kind) (skip : Nat)
    (earlier : List Call) :
    (perform called ((start.failAfter kind skip).replay earlier).2).answer =
        .error (.device .injected) ↔
      called.kind = kind ∧ kind ≠ .specialKeys ∧ earlier.countP (·.kind = kind) = skip := by
  rw [injected_iff, isDue]
  by_cases fallible : kind = .specialKeys
  · subst fallible
    rw [armed_replay_specialKeys]
    by_cases special : called.kind = .specialKeys
    · simp [special]
    · simp [special, trigger, Ne.symm special]
  · rw [armed_replay start fallible, trigger_remaining]
    by_cases same : called.kind = kind
    · simp [same, fallible]
    · simp [same]

/-! ## Only the calls that succeed matter -/

def succeeded (made : List Asked) : List Asked := made.filter (·.answer.isOk)

theorem replay_succeeded (start : Recorder) (calls : List Call) :
    let made := succeeded (start.replay calls).1
    (start.rewritten start.history none).replay (made.map Asked.call) =
      (made, (start.replay calls).2.rewritten (made.map Asked.call ++ start.history) none) := by
  induction calls with
  | nil => rfl
  | cons called earlier induction =>
      rcases ran : start.replay earlier with ⟨made, recorder⟩
      rw [ran] at induction
      have whole : start.replay (called :: earlier) =
          (⟨called, (perform called recorder).answer⟩ :: made,
            (perform called recorder).terminal) := by
        rw [replay_cons, ran]
      cases outcome : (perform called recorder).answer with
      | error fault =>
          have unchanged := (perform_failed outcome).2
          have dropped : succeeded (⟨called, (perform called recorder).answer⟩ :: made) =
              succeeded made := by
            rw [succeeded, outcome]
            rfl
          rw [whole, dropped, unchanged]
          exact induction
      | ok answered =>
          have kept : succeeded (⟨called, (perform called recorder).answer⟩ :: made) =
              ⟨called, .ok answered⟩ :: succeeded made := by
            rw [succeeded, outcome]
            rfl
          have again := perform_succeeded ((succeeded made).map Asked.call ++ start.history) outcome
          rw [whole, kept]
          change (start.rewritten start.history none).replay
            (called :: (succeeded made).map Asked.call) = _
          rw [replay_cons, induction, again]
          rfl

/-- What failing comes to. Every call is written down. Of the calls after a recorder is armed, the
one that fails because of it is the next of its kind after so many. A call that fails changes
nothing but the history and what the recorder is armed for. And the calls that succeeded succeed
again by themselves, with the same answers, and come to the same recorder. -/
theorem failures_change_nothing (start : Recorder) (calls : List Call) :
    let made := (start.replay calls).1
    let stop := (start.replay calls).2
    stop.calls = start.calls ++ calls.reverse ∧
    made.map Asked.call = calls ∧
    (∀ kind skip called,
      (perform called ((start.failAfter kind skip).replay calls).2).answer =
          .error (.device .injected) ↔
        called.kind = kind ∧ kind ≠ .specialKeys ∧ calls.countP (·.kind = kind) = skip) ∧
    (∀ called fault, (perform called stop).answer = .error fault →
      fault ∈ [.device .injected, .invalidHandle, .colorPairsExhausted] ∧
        ∃ armed, (perform called stop).terminal =
          { stop with history := called :: stop.history, armed }) ∧
    ({ start with armed := none }).replay ((succeeded made).map Asked.call) =
      (succeeded made,
        { stop with
          history := (succeeded made).map Asked.call ++ start.history
          armed := none }) := by
  intro made stop
  refine ⟨?_, calls_replay start calls, ?_, ?_, replay_succeeded start calls⟩
  · rw [Recorder.calls, history_replay, List.reverse_append, Recorder.calls]
  · intro kind skip called
    exact injected_after_iff start kind skip calls
  · intro called fault failed
    rcases perform_failed failed with ⟨reason, unchanged⟩
    exact ⟨reason, stop.armedAfter called.kind, unchanged⟩

/-- The second of two refreshes is made to fail. It is written down and forgotten, and without it
the other calls come to the same. -/
theorem second_refresh_fails :
    let start : Recorder := (default : Recorder).failAfter .refresh 1
    let calls : List Call := [.refresh 0, .openSession]
    let stop := (start.replay calls).2
    (perform (.refresh 0) stop).answer = .error (.device .injected) ∧
    (∃ armed, (perform (.refresh 0) stop).terminal =
      { stop with history := .refresh 0 :: stop.history, armed }) ∧
    (default : Recorder).replay [.refresh 0, .openSession] =
      ([⟨.refresh 0, .ok ()⟩, ⟨.openSession, .ok 0⟩],
        { (start.replay (.refresh 0 :: calls)).2 with
          history := [.refresh 0, .openSession]
          armed := none }) := by
  intro start calls stop
  have failed : (perform (.refresh 0) stop).answer = .error (.device .injected) := rfl
  rcases failures_change_nothing start calls with ⟨_, _, _, changeless, _⟩
  rcases failures_change_nothing start (.refresh 0 :: calls) with ⟨_, _, _, _, repeated⟩
  exact ⟨failed, (changeless _ _ failed).2, repeated⟩

end Recorder

end TerminalSession
