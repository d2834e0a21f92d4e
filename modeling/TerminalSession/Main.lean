import TerminalSession.CommandLine

/-! # The program

Real files and the real environment. No terminal can be switched to raw input from here, so the
demonstration is refused as it is where there is no terminal; its calls can be listed. -/

namespace TerminalSession

def FileError.ofSystem : IO.Error → FileError
  | .inappropriateType _ 20 _ => .notDirectory
  | .inappropriateType _ _ _ => .isDirectory
  | .invalidArgument _ 36 _ => .nameTooLong
  | _ => .missing

def attempt {α : Type} (work : IO α) : IO (Except FileError α) := do
  try
    return .ok (← work)
  catch error =>
    return .error (.ofSystem error)

instance : FileStore IO where
  readText path := return (← attempt (IO.FS.readFile path)).toOption
  writeText path text := attempt (IO.FS.writeFile path text)
  appendText path text := do
    let written ← attempt do
      let file ← IO.FS.Handle.mk path .append
      file.putStr text
    return written.isOk
  createDirectory path := do
    let _ ← attempt (IO.FS.createDirAll path)

end TerminalSession

open TerminalSession

def main (arguments : List String) : IO UInt32 := do
  let environment : Environment :=
    { home := ← IO.getEnv "HOME"
      userProfile := ← IO.getEnv "USERPROFILE"
      logDirectives := ← IO.getEnv "RUST_LOG" }
  let report ← CommandLine.run environment arguments {}
  (← IO.getStdout).putStr report.output
  (← IO.getStderr).putStr report.errors
  return report.code
