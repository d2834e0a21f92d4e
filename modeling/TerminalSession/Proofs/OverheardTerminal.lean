import TerminalSession.Proofs.AskedCalls
import TerminalSession.Proofs.PlayedPrograms

/-! # Hearing a terminal along

An overheard terminal is a terminal that keeps a list of the calls made of it. It answers what the
terminal inside answers, so machines and live sessions do on it what they do on the terminal itself.
But in what they leave behind their calls can be counted. -/

namespace TerminalSession

structure Overheard (τ : Type) where
  terminal : τ
  asked : List Asked := []

variable {τ : Type}

namespace Overheard

instance [Terminal τ] : Terminal (Overheard τ) where
  perform call heard :=
    let reply := Terminal.perform call heard.terminal
    { answer := reply.answer
      terminal :=
        { terminal := reply.terminal, asked := ⟨call, reply.answer⟩ :: heard.asked }
      notes := reply.notes }

def Moves (world : τ → τ → Prop) (before after : Overheard τ) : Prop :=
  world before.terminal after.terminal ∧ after.asked = before.asked

theorem asked_of_asks [Terminal τ] {start stop : Overheard τ} {made : List Asked}
    (asks : Asks start made stop) : stop.asked = made ++ start.asked := by
  induction asks with
  | nil => rfl
  | call before called induction => exact congrArg (List.cons _) induction

theorem asks_inside [Terminal τ] {start stop : Overheard τ} {made : List Asked}
    (asks : Asks start made stop) : Asks start.terminal made stop.terminal := by
  induction asks with
  | nil => exact .nil
  | call before called induction => exact induction.call called

end Overheard

/-! ## Without the list -/

def Logged.forget (host : Logged (Overheard τ)) : Logged τ where
  terminal := host.terminal.terminal
  log := host.log

namespace Machine

def forget (machine : Machine (Overheard τ)) : Machine τ where
  host := machine.host.forget
  phase := machine.phase
  bindings := machine.bindings

end Machine

namespace Live

def forget (live : Live (Overheard τ)) : Live τ := ⟨live.machine.forget⟩

end Live

variable [Terminal τ]

namespace Overheard

open Exchange

def Overhears (heard : Logged (Overheard τ)) (host : Logged τ) : Prop := heard.forget = host

theorem mimics_overhears : Mimics (@Overhears τ) where
  call := by
    rintro called ⟨⟨terminal, asked⟩, log⟩ _ rfl
    simp only [Exchange.call, Logged.forget, Terminal.perform]
    rcases Terminal.perform called terminal with ⟨answer, after, notes⟩
    cases answer with
    | ok answer => exact .ok answer rfl
    | error fault => exact .error _ rfl
  note level source message := by
    rintro heard _ rfl
    exact .ok () rfl

end Overheard

namespace Machine

open Overheard Exchange

omit [Terminal τ] in
theorem Alongside.forget_eq {heard : Machine (Overheard τ)} {machine : Machine τ}
    (along : Alongside Overhears heard machine) : machine = heard.forget := by
  rcases machine with ⟨host, phase, bindings⟩
  rcases along with ⟨same, phase, bindings⟩
  cases same
  cases phase
  cases bindings
  rfl

theorem execute_forget (machine : Machine (Overheard τ)) (command : Command) :
    machine.forget.execute command =
      ((machine.execute command).1, (machine.execute command).2.forget) := by
  have along : Alongside Overhears machine machine.forget := ⟨rfl, rfl, rfl⟩
  have ended := execute_alongside mimics_overhears along command
  exact Prod.ext ended.1.symm ended.2.forget_eq

theorem read_forget (machine : Machine (Overheard τ)) (shape : ReadShape) :
    machine.forget.read shape = ((machine.read shape).1, (machine.read shape).2.forget) := by
  have along : Alongside Overhears machine machine.forget := ⟨rfl, rfl, rfl⟩
  have ended := read_alongside mimics_overhears along shape
  exact Prod.ext ended.1.symm ended.2.forget_eq

end Machine

namespace Live

open Machine

variable (live : Live (Overheard τ))

theorem perform_forget (action : Action) :
    live.forget.perform action = ((live.perform action).1, (live.perform action).2.forget) := by
  simp only [perform, forget, execute_forget]

theorem query_forget {α : Type} (action : Action) (expected : String)
    (extract : Outcome → Option α) :
    live.forget.query action expected extract =
      ((live.query action expected extract).1, (live.query action expected extract).2.forget) := by
  rw [query, query, perform_forget]
  rcases live.perform action with ⟨result, after⟩
  cases result with
  | error failure => rfl
  | ok outcome =>
      dsimp only
      cases extract outcome <;> rfl

theorem addColor_forget (name : String) (foreground background : Color) :
    live.forget.addColor name foreground background =
      ((live.addColor name foreground background).1,
        (live.addColor name foreground background).2.forget) := by
  rw [addColor, addColor, perform_forget]
  rcases live.perform (.addColor name foreground background) with ⟨result, after⟩
  cases result <;> rfl

/-- Every method does what it does on the terminal inside. -/
theorem act_forget (action : Action) :
    live.forget.act action = ((live.act action).1, (live.act action).2.forget) := by
  cases action with
  | addColor name foreground background =>
      simp only [act, addColor_forget]
      rfl
  | getPosition =>
      simp only [act, getPosition, query_forget]
      rfl
  | getSize =>
      simp only [act, getSize, query_forget]
      rfl
  | getInput =>
      simp only [act, readAny, query_forget]
      rfl
  | readAs shape =>
      simp only [act, read, forget, read_forget]
      rfl
  | _ =>
      simp only [act, perform_forget]
      rfl

omit live in
theorem init_eq {σ : Type} [Terminal σ] (start : σ) (options : SessionOptions) :
    init { terminal := start } options =
      match Machine.execute (.new start) (.init options) with
      | (.ok _, machine) => .ok ⟨machine⟩
      | (.error failure, machine) => .error (failure, machine.host) := rfl

theorem init_forget (start : τ) (options : SessionOptions) :
    init { terminal := start } options =
      match init { terminal := Overheard.mk start [] } options with
      | .ok live => .ok live.forget
      | .error (failure, left) => .error (failure, left.forget) := by
  have same : Machine.execute (.new start) (.init options) = _ :=
    execute_forget (.new (Overheard.mk start [])) (.init options)
  rw [init_eq, init_eq, same]
  rcases Machine.execute (.new (Overheard.mk start [])) (.init options) with ⟨result, machine⟩
  cases result <;> rfl

theorem abandon_forget : live.forget.abandon = live.abandon.forget := by
  unfold abandon
  change (if live.machine.phase.isActive then _ else _) = Logged.forget (if _ then _ else _)
  cases live.machine.phase.isActive with
  | false => rfl
  | true =>
      simp only [forget, execute_forget, if_true]
      rcases live.machine.execute .deinit with ⟨result, machine⟩
      cases result <;> rfl

theorem deinit_forget : live.forget.deinit = (live.deinit.1, live.deinit.2.forget) := by
  unfold deinit
  simp only [forget, execute_forget]
  rcases live.machine.execute .deinit with ⟨result, machine⟩
  cases result with
  | ok outcome => rfl
  | error failure => exact congrArg (Prod.mk _) (abandon_forget ⟨machine⟩)

end Live

end TerminalSession
