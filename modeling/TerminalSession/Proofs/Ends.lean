import TerminalSession.Terminal

/-! # How work ends

A piece of work ends with a value or with a failure, and leaves a state behind in both cases. `Ends`
says what holds then. Its rules follow the way work is put together, so a statement about a piece
of work comes down to statements about the calls in it. -/

namespace TerminalSession

variable {ε σ α β : Type}

/-- From `start`, the work either returns a value and leaves a state as `returned` says, or fails
and leaves a state as `failed` says. -/
def Ends (work : EStateM ε σ α) (start : σ) (returned : α → σ → Prop)
    (failed : ε → σ → Prop) : Prop :=
  match work start with
  | .ok value stop => returned value stop
  | .error failure stop => failed failure stop

section

variable {start : σ} {returned : α → σ → Prop} {failed : ε → σ → Prop}

theorem Ends.mono {work : EStateM ε σ α} {returned' : α → σ → Prop} {failed' : ε → σ → Prop}
    (ends : Ends work start returned failed)
    (onReturn : ∀ value stop, returned value stop → returned' value stop)
    (onFailure : ∀ failure stop, failed failure stop → failed' failure stop) :
    Ends work start returned' failed' := by
  unfold Ends at ends ⊢
  cases result : work start with
  | ok value stop =>
      rw [result] at ends
      exact onReturn value stop ends
  | error failure stop =>
      rw [result] at ends
      exact onFailure failure stop ends

theorem Ends.imp {work : EStateM ε σ α} {holds holds' : σ → Prop}
    (ends : Ends work start (fun _ stop => holds stop) (fun _ stop => holds stop))
    (implies : ∀ stop, holds stop → holds' stop) :
    Ends work start (fun _ stop => holds' stop) (fun _ stop => holds' stop) :=
  ends.mono (fun _ => implies) (fun _ => implies)

theorem ends_true (work : EStateM ε σ α) (start : σ) :
    Ends work start (fun _ _ => True) (fun _ _ => True) := by
  unfold Ends
  cases work start with
  | ok value stop => trivial
  | error failure stop => trivial

theorem Ends.and {work : EStateM ε σ α} {returned' : α → σ → Prop} {failed' : ε → σ → Prop}
    (ends : Ends work start returned failed) (ends' : Ends work start returned' failed') :
    Ends work start (fun value stop => returned value stop ∧ returned' value stop)
      (fun failure stop => failed failure stop ∧ failed' failure stop) := by
  unfold Ends at ends ends' ⊢
  cases result : work start with
  | ok value stop =>
      rw [result] at ends ends'
      exact ⟨ends, ends'⟩
  | error failure stop =>
      rw [result] at ends ends'
      exact ⟨ends, ends'⟩

@[simp] theorem ends_pure (value : α) :
    Ends (pure value) start returned failed ↔ returned value start := Iff.rfl

@[simp] theorem ends_throw (failure : ε) :
    Ends (throw failure) start returned failed ↔ failed failure start := Iff.rfl

@[simp] theorem ends_bind (work : EStateM ε σ β) (next : β → EStateM ε σ α) :
    Ends (work >>= next) start returned failed ↔
      Ends work start (fun value stop => Ends (next value) stop returned failed) failed := by
  simp only [Ends, bind, EStateM.bind]
  cases work start <;> rfl

@[simp] theorem ends_map (transform : β → α) (work : EStateM ε σ β) :
    Ends (transform <$> work) start returned failed ↔
      Ends work start (fun value stop => returned (transform value) stop) failed := by
  simp only [Ends, Functor.map, EStateM.map]
  cases work start <;> rfl

@[simp] theorem ends_tryCatch (work : EStateM ε σ α) (recover : ε → EStateM ε σ α) :
    Ends (tryCatch work recover) start returned failed ↔
      Ends work start returned fun failure stop =>
        Ends (recover failure) stop returned failed := by
  have unfolded : tryCatch work recover start = EStateM.tryCatch work recover start := rfl
  unfold Ends
  rw [unfolded]
  delta EStateM.tryCatch
  cases work start <;> rfl

theorem ends_get {returned : σ → σ → Prop} :
    Ends (get : EStateM ε σ σ) start returned failed ↔ returned start start := Iff.rfl

theorem ends_modify {change : σ → σ} {returned : PUnit → σ → Prop} :
    Ends (modify change : EStateM ε σ PUnit) start returned failed ↔
      returned ⟨⟩ (change start) := Iff.rfl

end

namespace Exchange

variable {τ : Type} {host : Logged τ} {failed : Failure → Logged τ → Prop}

/-- A call is answered or denied, and the terminal is in the state its reply says. -/
theorem ends_call [Terminal τ] {call : Call} {returned : call.Answer → Logged τ → Prop}
    (answered : ∀ answer terminal notes log,
      Terminal.perform call host.terminal = ⟨.ok answer, terminal, notes⟩ →
        returned answer ⟨terminal, log⟩)
    (denied : ∀ fault terminal notes log,
      Terminal.perform call host.terminal = ⟨.error fault, terminal, notes⟩ →
        failed (.fault fault) ⟨terminal, log⟩) :
    Ends (Exchange.call call) host returned failed := by
  rcases host with ⟨terminal, log⟩
  rcases reply : Terminal.perform call terminal with ⟨answer, terminal', notes⟩
  simp only [Ends, Exchange.call, reply]
  cases answer with
  | ok answer => exact answered answer terminal' notes _ reply
  | error fault => exact denied fault terminal' notes _ reply

@[simp] theorem ends_note {returned : Unit → Logged τ → Prop} (level : Log.Level)
    (source : Log.Source) (message : String) :
    Ends (note level source message) host returned failed ↔
      returned () { host with log := ⟨level, source, message⟩ :: host.log } := Iff.rfl

@[simp] theorem ends_accept {returned : α → Logged τ → Prop} (checked : Except Refusal α) :
    Ends (accept checked) host returned failed ↔
      match checked with
      | .ok value => returned value host
      | .error refusal => failed (.refusal refusal) host := by
  cases checked <;> rfl

end Exchange

end TerminalSession
