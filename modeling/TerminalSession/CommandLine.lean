import TerminalSession.Demo
import TerminalSession.Log.Filter
import TerminalSession.Settings.Storage

/-! # The command line

What the arguments ask for, and what is said and logged on the way. Arguments are read from left to
right, up to one that asks for help or for the version or is an error. Where the file of the log
cannot be written there is no log. -/

namespace TerminalSession.CommandLine

structure Options where
  settingsFile : Option Path := none
  strict : Bool := false
  dryRun : Bool := false
deriving DecidableEq, Repr, Inhabited

inductive Request where
  | help
  | version
  | demo (options : Options)
deriving DecidableEq, Repr

inductive ArgumentError where
  | missingPath
  | unknown (argument : String)
deriving DecidableEq, Repr

def ArgumentError.message : ArgumentError → String
  | missingPath => "Missing config path"
  | unknown argument => "Unknown argument: " ++ argument ++ ". Use -h for help."

def parse (options : Options) : List String → Except ArgumentError Request
  | [] => .ok (.demo options)
  | argument :: rest =>
      match argument, rest with
      | "-h", _ | "--help", _ => .ok .help
      | "-v", _ | "--version", _ => .ok .version
      | "--config", path :: rest => parse { options with settingsFile := some path } rest
      | "--config", [] => .error .missingPath
      | "--strict", rest => parse { options with strict := true } rest
      | "--dry-run", rest => parse { options with dryRun := true } rest
      | argument, _ => .error (.unknown argument)

def lines (texts : List String) : String := String.join (texts.map (· ++ "\n"))

def title : String := Demo.name ++ " " ++ Demo.version

def helpText : String :=
  lines
    [title ++ " - Session-safe terminal command demo",
      "",
      "Usage: termguard [OPTIONS]",
      "",
      "Options:",
      "  --config <PATH>       Read settings from PATH",
      "  --strict              Reject duplicate window and color names",
      "  --dry-run             Print terminal calls instead of drawing",
      "  -v, --version         Show version",
      "  -h, --help            Show this help",
      "",
      "Demo keys:",
      "  q                     Quit",
      "  (any other key)       Show its decoded value",
      "",
      "Configuration: ~/.termguard/config.toml",
      "Log file:      ~/.termguard/termguard.log"]

def causeLines (causes : List String) : List String :=
  match causes with
  | [] => []
  | [cause] => ["", "Caused by:", "    " ++ cause]
  | causes =>
      "" :: "Caused by:" :: causes.zipIdx.map fun (cause, number) =>
        Text.alignRight 5 (toString number) ++ ": " ++ cause

def problemText (problem : Demo.Problem) : String :=
  match problem.messages with
  | [] => ""
  | message :: causes => lines (("Error: " ++ message) :: causeLines causes)

structure Report where
  code : UInt32 := 0
  output : String := ""
  errors : String := ""
deriving DecidableEq, Repr

def callList (calls : List Call) : String :=
  lines (calls.zipIdx.map fun (call, number) =>
    Text.alignRight 3 (toString number) ++ "  " ++ call.text)

def demonstrate (options : Options) (settings : Settings) (device : Screen.Device) :
    Report × List Log.Entry :=
  let (result, output, log) :=
    if options.dryRun then
      let (result, host) := Demo.dryRun settings
      (result, if result.isOk then callList host.terminal.calls else "", host.log)
    else
      let (result, host) := Demo.run settings { terminal := .interactive device }
      (result, host.terminal.device.output.text, host.log)
  let report : Report :=
    match result with
    | .ok _ => { output }
    | .error problem => { code := 1, output, errors := problemText problem }
  (report, ⟨.info, .demo, title ++ " starting"⟩ :: log.reverse)

def logFile (directory : Option Path) : Path :=
  match directory with
  | some directory => directory.join "termguard.log"
  | none => "termguard.log"

section

variable {m : Type → Type} [Monad m] [FileStore m]

def openLog (environment : Environment) (settings : Settings) :
    m (Option (Path × Log.Filter) × List String) := do
  let path := logFile (← Settings.directory environment)
  if ← FileStore.appendText path "" then
    let (filter, warnings) := Log.Filter.choose environment.logDirectives settings.logLevel
    return (some (path, filter), warnings)
  return (none, [])

def runDemo (environment : Environment) (options : Options) (device : Screen.Device) :
    m Report := do
  let settings ←
    match options.settingsFile with
    | some path => Settings.loadFrom path
    | none => Settings.load environment
  let settings :=
    if options.strict then { settings with uniqueNames := true } else settings
  let (log, warnings) ← openLog environment settings
  let (report, entries) := demonstrate options settings device
  if let some (path, filter) := log then
    let _ ← FileStore.appendText path
      (lines ((entries.filter filter.admits).map Log.Entry.line))
  return { report with errors := lines warnings ++ report.errors }

def run (environment : Environment) (arguments : List String) (device : Screen.Device) :
    m Report := do
  match parse {} arguments with
  | .ok .help => return { errors := helpText }
  | .ok .version => return { errors := lines [title] }
  | .ok (.demo options) => runDemo environment options device
  | .error error =>
      let advice := "Use --help for usage information"
      return { code := 1, errors := lines ["Error: " ++ error.message, advice] }

end

end TerminalSession.CommandLine
