/-! # Files

What the program needs of the files around it. It may run among real files or in a tree of files
that is only a value. The texts of the errors are those of the operating system. -/

namespace TerminalSession

inductive FileError where
  | missing
  | notDirectory
  | isDirectory
  | nameTooLong
deriving DecidableEq, Repr

def FileError.message : FileError → String
  | missing => "No such file or directory (os error 2)"
  | notDirectory => "Not a directory (os error 20)"
  | isDirectory => "Is a directory (os error 21)"
  | nameTooLong => "File name too long (os error 36)"

abbrev Path := String

def Path.join (directory : Path) (name : String) : Path :=
  if directory.isEmpty || directory.toList.getLast? = some '/' then directory ++ name
  else directory ++ "/" ++ name

class FileStore (m : Type → Type) where
  /-- The text of a file, if it can be read and is one. -/
  readText (path : Path) : m (Option String)
  /-- Replaces a file, or makes it. -/
  writeText (path : Path) (text : String) : m (Except FileError Unit)
  /-- Adds to a file, or makes it, and tells whether that was possible. -/
  appendText (path : Path) (text : String) : m Bool
  /-- Makes a directory and those it lies in. Where that is not possible nothing is said. -/
  createDirectory (path : Path) : m Unit

end TerminalSession
