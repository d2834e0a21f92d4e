import TerminalSession.Machine

/-! # Live sessions

A live session is a machine whose session was started and not yet closed. Programs use it to branch
on what they read. A session that nobody closes is closed when it is abandoned. Where no session can
be started, the failure comes with what has become of the terminal, which no program uses any
more. -/

namespace TerminalSession

structure Live (τ : Type) where
  machine : Machine τ

namespace Live

variable {τ : Type}

def session (live : Live τ) : Except Refusal Session := live.machine.phase.session

def color (live : Live τ) (name : String) : Except Refusal RegisteredColor := do
  (← live.session).color name

def shape (live : Live τ) : Except Refusal ReadShape := live.session.map (·.shape)

variable [Terminal τ]

def init (host : Logged τ) (options : SessionOptions) : Except (Failure × Logged τ) (Live τ) :=
  match Machine.execute { host, phase := .inactive, bindings := none } (.init options) with
  | (.ok _, machine) => .ok ⟨machine⟩
  | (.error failure, machine) => .error (failure, machine.host)

def abandon (live : Live τ) : Logged τ :=
  if live.machine.phase.isActive then
    match live.machine.execute .deinit with
    | (.ok _, machine) => machine.host
    | (.error failure, machine) =>
        let message := "Failed to close terminal session: " ++ failure.message
        { machine.host with log := ⟨.warn, .live, message⟩ :: machine.host.log }
  else
    live.machine.host

/-- Ends the session and gives the terminal back. Where that fails the session is abandoned, which
tries once more. -/
def deinit (live : Live τ) : Except Failure Unit × Logged τ :=
  match live.machine.execute .deinit with
  | (.ok _, machine) => (.ok (), machine.host)
  | (.error failure, machine) => (.error failure, abandon ⟨machine⟩)

def perform (live : Live τ) (action : Action) : Except Failure Outcome × Live τ :=
  let (outcome, machine) := live.machine.execute (.act action)
  (outcome, ⟨machine⟩)

def query {α : Type} (live : Live τ) (action : Action) (expected : String)
    (extract : Outcome → Option α) : Except Failure α × Live τ :=
  match live.perform action with
  | (.error failure, live) => (.error failure, live)
  | (.ok outcome, live) =>
      match extract outcome with
      | some value => (.ok value, live)
      | none => (.error (.refusal (.unexpectedOutcome action.text expected)), live)

def addColor (live : Live τ) (name : String) (foreground background : Color) :
    Except Failure RegisteredColor × Live τ :=
  match live.perform (.addColor name foreground background) with
  | (.error failure, live) => (.error failure, live)
  | (.ok _, live) => ((live.color name).mapError .refusal, live)

def getPosition (live : Live τ) : Except Failure Position × Live τ :=
  live.query .getPosition "a position" Outcome.position?

def getSize (live : Live τ) : Except Failure Size × Live τ :=
  live.query .getSize "a size" Outcome.size?

def read (live : Live τ) (shape : ReadShape) : Except Failure shape.Value × Live τ :=
  let (value, machine) := live.machine.read shape
  (value, ⟨machine⟩)

def readAny (live : Live τ) : Except Failure Input × Live τ :=
  live.query .getInput "input" Outcome.input?

end Live

end TerminalSession
