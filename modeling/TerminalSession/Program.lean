import TerminalSession.Command

/-! # Programs

A program is a list of commands that were checked one after the other, each against the state that
the ones before it lead to. -/

namespace TerminalSession

structure Program where
  commands : List Command
deriving DecidableEq, Repr, Inhabited

namespace Program

/-- The phase after all commands. The first command that is refused is reported with its place,
counted from `index`. -/
def advance (index : Nat) : List Command → Phase → Except Refusal Phase
  | [], phase => .ok phase
  | command :: rest, phase =>
      match command.apply phase with
      | .ok next => advance (index + 1) rest next
      | .error cause => .error (.rejected index command.text cause)

def validateFrom (phase : Phase) (commands : List Command) : Except Refusal (Program × Phase) :=
  (advance 0 commands phase).map fun last => (⟨commands⟩, last)

def validate (commands : List Command) : Except Refusal Program :=
  (validateFrom .inactive commands).map Prod.fst

def length (program : Program) : Nat := program.commands.length

def isEmpty (program : Program) : Bool := program.commands.isEmpty

end Program

/-! ## Drafting a program

A draft grows command by command, and each command is checked when it is added. The type of a draft
says whether its session is running: drawing before `init`, a second `init` or anything after
`deinit` does not typecheck. -/

structure Draft (State : Type) where
  state : State
  commands : List Command
deriving DecidableEq, Repr

namespace Draft

def empty : Draft Unit := ⟨(), []⟩

def init (draft : Draft Unit) (options : SessionOptions) : Draft Session :=
  ⟨.fresh options, .init options :: draft.commands⟩

def deinit (draft : Draft Session) : Draft Unit :=
  ⟨(), .deinit :: draft.commands⟩

/-! A color in a command counts only if this session has registered it, whichever session it was
looked up in. -/

def check (draft : Draft Session) (command : Command) : Except Refusal Unit :=
  command.requirements.forM (·.checkActive draft.state)

def push (draft : Draft Session) (command : Command) : Draft Session :=
  { draft with commands := command :: draft.commands }

def update (draft : Draft Session) (command : Command) (change : Session → Session) :
    Draft Session :=
  ⟨change draft.state, command :: draft.commands⟩

def checked (draft : Draft Session) (command : Command) : Except Refusal (Draft Session) := do
  draft.check command
  return draft.push command

def transition (draft : Draft Session) (command : Command)
    (change : Session → Except Refusal Session) : Except Refusal (Draft Session) := do
  draft.check command
  let session ← change draft.state
  return ⟨session, command :: draft.commands⟩

def insisting (draft : Draft Session) (requirement : Requirement) (command : Command) :
    Except Refusal (Draft Session) := do
  requirement.checkActive draft.state
  return draft.push command

/-- Adds an action. What cannot be refused is not checked, and what only insists on something is
checked for that alone. -/
def add (draft : Draft Session) (action : Action) : Except Refusal (Draft Session) :=
  match action with
  | .addWindow name _ _ _ => draft.transition (.act action) (·.addWindow name)
  | .setWindow name => draft.transition (.act action) (·.setWindow name)
  | .unsetWindow => draft.transition (.act action) (·.unsetWindow)
  | .addColor name _ _ => draft.transition (.act action) (·.addColor name)
  | .changeAttribute _ _ => draft.checked (.act action)
  | .setEcho on => .ok (draft.update (.act action) (·.setEcho on))
  | .setCbreak on => .ok (draft.update (.act action) (·.setCbreak on))
  | .setKeypad on => .ok (draft.update (.act action) (·.setKeypad on))
  | .setNoDelay on => .ok (draft.update (.act action) (·.setNoDelay on))
  | .readAs shape => draft.insisting (.inputMode shape) (.act action)
  | .require requirement => draft.insisting requirement (.act action)
  | .clear | .erase | .refresh | .draw _ | .getPosition | .getSize | .setSize _ | .setCursor _
  | .getInput => .ok (draft.push (.act action))

def color (draft : Draft Session) (name : String) : Except Refusal RegisteredColor :=
  draft.state.color name

def shape (draft : Draft Session) : ReadShape := draft.state.shape

/-! With a session still running, running the program leaves it open. -/

def build {State : Type} (draft : Draft State) : Program := ⟨draft.commands.reverse⟩

end Draft

end TerminalSession
