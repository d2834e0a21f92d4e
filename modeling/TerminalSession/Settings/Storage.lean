import TerminalSession.Files
import TerminalSession.Settings

/-! # Where settings are kept

Settings lie in a directory of their own in the user's home. Reading them always succeeds: a file
that is missing, cannot be read or is not valid means the defaults. The user profile says where the
home is if `home` does not. -/

namespace TerminalSession

structure Environment where
  home : Option Path := none
  userProfile : Option Path := none
  logDirectives : Option String := none
deriving DecidableEq, Repr, Inhabited

def Environment.directory? (environment : Environment) : Option Path :=
  (environment.home <|> environment.userProfile).map (·.join ".termguard")

namespace Settings

variable {m : Type → Type} [Monad m] [FileStore m]

def directory (environment : Environment) : m (Option Path) := do
  let directory := environment.directory?
  directory.forM FileStore.createDirectory
  return directory

def file (environment : Environment) : m (Option Path) :=
  return (← directory environment).map (·.join "config.toml")

def loadFrom (path : Path) : m Settings :=
  return ((← FileStore.readText path).bind parse).getD {}

def load (environment : Environment) : m Settings := do
  match ← file environment with
  | some path => loadFrom path
  | none => return {}

inductive SaveError where
  | noHome
  | unwritable (error : FileError)
deriving DecidableEq, Repr

def SaveError.message : SaveError → String
  | noHome => "Could not determine config path"
  | unwritable error => "Failed to write config: " ++ error.message

def save (environment : Environment) (settings : Settings) : m (Except SaveError Unit) := do
  match ← file environment with
  | some path => return (← FileStore.writeText path settings.render).mapError .unwritable
  | none => return .error .noHome

end Settings

end TerminalSession
