import TerminalSession.Proofs.AskedCalls

/-! # Calls inside a session

`Served` lists the calls between two states of a terminal, and `Confined` says of a piece of work
that it neither starts nor ends a session. That is so of everything that happens inside a
session. -/

namespace TerminalSession

variable {τ : Type} [Terminal τ]

inductive Served (allowed : Call → τ → Prop) (start : τ) : List Call → τ → Prop
  | nil : Served allowed start [] start
  | call {calls : List Call} {terminal : τ} (before : Served allowed start calls terminal)
      (called : Call) (fits : allowed called terminal) :
      Served allowed start (called :: calls) (Terminal.perform called terminal).terminal

namespace Served

variable {allowed : Call → τ → Prop} {start middle stop : τ} {first second : List Call}

theorem append (before : Served allowed start first middle)
    (after : Served allowed middle second stop) : Served allowed start (second ++ first) stop := by
  induction after with
  | nil => exact before
  | call earlier called fits induction => exact .call induction called fits

end Served

def Call.isInner : Call → Bool
  | openSession | closeSession => false
  | _ => true

def InnerCalls (start stop : Logged τ) : Prop :=
  ∃ calls, Served (fun called _ => called.isInner = true) start.terminal calls stop.terminal

def Confined {α : Type} (work : Exchange τ α) : Prop :=
  ∀ start, Ends work start (fun _ stop => InnerCalls start stop)
    (fun _ stop => InnerCalls start stop)

theorem Asks.served {allowed : Call → Prop} {start stop : τ} {made : List Asked}
    (asks : Asks start made stop) (fits : ∀ asked ∈ made, allowed asked.call) :
    Served (fun called _ => allowed called) start (made.map Asked.call) stop := by
  induction asks with
  | nil => exact .nil
  | call before called induction =>
      have earlier := induction fun asked member => fits asked (List.mem_cons_of_mem _ member)
      exact .call earlier called (fits _ List.mem_cons_self)

theorem AsksOnly.confined {α : Type} {allowed : Call → Prop} {work : Exchange τ α}
    (only : AsksOnly allowed work) (inner : ∀ called, allowed called → called.isInner = true) :
    Confined work := by
  have calls : ∀ start stop : Logged τ, AskedOnly allowed start stop → InnerCalls start stop := by
    rintro start stop ⟨made, asks, fits⟩
    exact ⟨_, asks.served fun asked member => inner asked.call (fits asked member)⟩
  intro start
  apply (only start).mono
  · intro _ stop
    exact calls start stop
  · intro _ stop
    exact calls start stop

namespace Machine

/-- No action starts or ends a session. -/
theorem perform_confined (session : Session) (bindings : Bindings) (action : Action) :
    Confined (perform session bindings action : Exchange τ (Outcome × Bindings)) := by
  apply (perform_asksOnly session bindings action).confined
  intro called allowed
  cases called with
  | openSession => cases allowed
  | closeSession => cases allowed
  | _ => rfl

theorem readBound_confined (bindings : Bindings) (shape : ReadShape) :
    Confined (readBound bindings shape : Exchange τ shape.Value) := by
  have only : AsksOnly (fun called => called.isInner = true)
      (readBound bindings shape : Exchange τ shape.Value) := readBound_asksOnly rfl
  exact only.confined fun _ inner => inner

end Machine

end TerminalSession
