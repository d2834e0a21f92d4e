import TerminalSession.Proofs.Native
import TerminalSession.Recorder

/-! # Recorders are faithful

A call on a recorder either is the one made to fail, and then it is recorded and nothing else
happens, or it is carried out. -/

namespace TerminalSession

namespace Recorder

def native (recorder : Recorder) : Native :=
  ⟨recorder.panes.flags, recorder.cbreak, recorder.echo⟩

def noted (recorder : Recorder) (call : Call) (armed : Option (Call.Kind × Nat)) : Recorder :=
  { recorder with history := call :: recorder.history, armed }

theorem perform_cases (call : Call) (recorder : Recorder) :
    perform call recorder = ⟨.error (.device .injected), recorder.noted call none, []⟩ ∨
      ∃ armed, perform call recorder =
        ⟨(answer call (recorder.noted call armed)).1,
          (answer call (recorder.noted call armed)).2, []⟩ := by
  unfold perform
  by_cases special : call.kind = .specialKeys
  · exact .inr ⟨recorder.armed, by simp [special, noted]⟩
  · simp only [special, if_false]
    cases armed : recorder.armed with
    | none => exact .inr ⟨none, rfl⟩
    | some target =>
        rcases target with ⟨kind, skip⟩
        by_cases same : kind = call.kind
        · cases skip with
          | zero => exact .inl (by simp [trigger, same, noted])
          | succ skip => exact .inr ⟨some (kind, skip), by simp [trigger, same, noted]⟩
        · exact .inr ⟨some (kind, skip), by simp [trigger, same, noted]⟩

def Faithful (recorder : Recorder) (call : Call) :
    Except Fault call.Answer × Recorder → Prop
  | (.ok answer, after) => after.native = recorder.native.after call answer
  | (.error fault, after) =>
      after.native = recorder.native ∧ recorder.native.Explains call fault ∧
        ∀ window, call.window? = some window → recorder.native.flags window = none

section

variable {recorder : Recorder} {call : Call} {window : Handle}

theorem flags_of_get? {pane : Pane} (found : recorder.panes.get? window = some pane) :
    recorder.native.flags window = some pane.inputFlags := Panes.flags_of_get? found

theorem faithful_absent (about : call.window? = some window)
    (absent : recorder.panes.get? window = none) :
    recorder.Faithful call (.error .invalidHandle, recorder) := by
  have flags : recorder.native.flags window = none :=
    (Panes.flags_eq_none_iff recorder.panes window).mpr absent
  refine ⟨rfl, fun _ => ⟨window, about, flags⟩, ?_⟩
  intro other otherAbout
  rw [about] at otherAbout
  cases otherAbout
  exact flags

theorem faithful_onPane (about : call.window? = some window)
    {use : Pane → call.Answer × Pane}
    (used : ∀ pane, recorder.panes.get? window = some pane →
      recorder.native.after call (use pane).1 =
        recorder.native.setFlags window (some (use pane).2.inputFlags)) :
    recorder.Faithful call (recorder.onPane window use) := by
  unfold onPane
  cases found : recorder.panes.get? window with
  | none => exact faithful_absent about found
  | some pane =>
      refine Eq.trans ?_ (used pane found).symm
      simp only [native, Native.setFlags, Panes.flags_set found]

theorem faithful_onPane_quiet (about : call.window? = some window)
    (quiet : ∀ native answer, Native.after native call answer = native)
    {use : Pane → call.Answer × Pane}
    (kept : ∀ pane, (use pane).2.inputFlags = pane.inputFlags) :
    recorder.Faithful call (recorder.onPane window use) := by
  refine faithful_onPane about fun pane found => ?_
  rw [quiet, kept, ← flags_of_get? found, Native.setFlags_self]

end

theorem faithful_answer (call : Call) (recorder : Recorder) :
    recorder.Faithful call (answer call recorder) := by
  cases call with
  | openSession =>
      simp only [Faithful, answer, native, Native.after, Panes.flags_ofScreen]
  | createWindow size position =>
      simp only [Faithful, answer, native, Native.after, Panes.flags_add, Native.setFlags]
      rfl
  | destroyWindow window =>
      simp only [answer]
      cases found : recorder.panes.get? window with
      | none => exact faithful_absent rfl found
      | some pane =>
          simp only [Faithful, native, Native.after, Panes.flags_remove, Native.setFlags]
  | readInput window =>
      simp only [answer]
      cases found : recorder.panes.get? window with
      | none => exact faithful_absent rfl found
      | some pane =>
          cases recorder.input with
          | nil => exact rfl
          | cons code rest => exact rfl
  | allocatePair foreground background =>
      simp only [answer]
      split
      · exact rfl
      · exact ⟨rfl, by simp [Native.Explains], by simp [Call.window?]⟩
  | setKeypad window on =>
      simp only [answer]
      refine faithful_onPane rfl fun pane found => ?_
      simp only [Native.after, flags_of_get? found]
      rfl
  | setNoDelay window on =>
      simp only [answer]
      refine faithful_onPane rfl fun pane found => ?_
      simp only [Native.after, flags_of_get? found]
      rfl
  | closeSession | setRawMode | setCursor | startColor | specialKeys => exact rfl
  | _ =>
      simp only [answer]
      exact faithful_onPane_quiet rfl (fun _ _ => rfl) (fun _ => rfl)

theorem faithful_perform (call : Call) (recorder : Recorder) :
    perform call recorder = ⟨.error (.device .injected), recorder.noted call none, []⟩ ∨
      recorder.Faithful call
        ((perform call recorder).answer, (perform call recorder).terminal) := by
  rcases perform_cases call recorder with failed | ⟨armed, done⟩
  · exact .inl failed
  · rw [done]
    exact .inr (faithful_answer call (recorder.noted call armed))

theorem native_answered {call : Call} {given : call.Answer} {before after : Recorder}
    {notes : List Log.Entry} (reply : perform call before = ⟨.ok given, after, notes⟩) :
    after.native = before.native.after call given := by
  rcases faithful_perform call before with failed | faithful
  · rw [failed] at reply
    cases reply
  · rw [reply] at faithful
    exact faithful

/-- A call that was denied changed nothing, and if it was about a window that is there, it was the
one made to fail. -/
theorem denied_cases {call : Call} {fault : Fault} {before after : Recorder}
    {notes : List Log.Entry} (reply : perform call before = ⟨.error fault, after, notes⟩) :
    after.native = before.native ∧ before.native.Explains call fault ∧
      ∀ window, call.window? = some window → before.native.flags window ≠ none →
        after.armed = none := by
  rcases faithful_perform call before with failed | faithful
  · rw [failed] at reply
    cases reply
    exact ⟨rfl, by simp [Native.Explains], fun _ _ _ => rfl⟩
  · rw [reply] at faithful
    refine ⟨faithful.1, faithful.2.1, ?_⟩
    intro window about there
    exact absurd (faithful.2.2 window about) there

theorem flags_created {size : Size} {position : Position} {window : Handle}
    {before after : Recorder} {notes : List Log.Entry}
    (reply : perform (.createWindow size position) before = ⟨.ok window, after, notes⟩) :
    before.native.flags window = none := by
  rcases perform_cases (.createWindow size position) before with failed | ⟨armed, done⟩
  · rw [failed] at reply
    cases reply
  · rw [done] at reply
    cases reply
    exact Panes.flags_next before.panes

/-- A recorder that is not armed gives back any window it has. -/
theorem destroyed_of_disarmed {recorder : Recorder} {window : Handle}
    (disarmed : recorder.armed = none) (there : recorder.native.flags window ≠ none) :
    ∃ last notes, perform (.destroyWindow window) recorder = ⟨.ok (), last, notes⟩ := by
  cases found : recorder.panes.get? window with
  | none => exact absurd ((Panes.flags_eq_none_iff _ _).mpr found) there
  | some pane => simp [perform, Call.kind, trigger, disarmed, answer, found]

instance : NativeTerminal Recorder where
  native := native
  native_answered := native_answered
  native_denied reply := (denied_cases reply).1
  explains reply := (denied_cases reply).2.1
  flags_created := flags_created
  destroyed about there reply := by
    rcases denied_cases reply with ⟨same, _, disarmed⟩
    exact destroyed_of_disarmed (disarmed _ about there) (same ▸ there)

end Recorder

end TerminalSession
