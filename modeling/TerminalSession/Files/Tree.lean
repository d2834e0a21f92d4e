import TerminalSession.Files
import TerminalSession.Text.Decoding

/-! # Files as a value

A tree of directories and files. Everything that can be done with real files can be done with it.
Relative paths start at one directory, which lies some way inside the tree. -/

namespace TerminalSession

inductive FileTree where
  | file (content : ByteArray)
  | directory (entries : List (String × FileTree))

namespace FileTree

instance : Inhabited FileTree := ⟨directory []⟩

def put (name : String) (tree : FileTree) (entries : List (String × FileTree)) :
    List (String × FileTree) :=
  (name, tree) :: entries.filter (·.1 ≠ name)

def find : List String → FileTree → Except FileError FileTree
  | [], tree => .ok tree
  | _ :: _, file _ => .error .notDirectory
  | name :: place, directory entries =>
      match entries.lookup name with
      | some tree => find place tree
      | none => .error .missing

def edit (change : ByteArray → ByteArray) : List String → FileTree → Except FileError FileTree
  | [], file content => .ok (file (change content))
  | [], directory _ => .error .isDirectory
  | _ :: _, file _ => .error .notDirectory
  | name :: place, directory entries =>
      match entries.lookup name, place with
      | some tree, place =>
          (edit change place tree).map fun tree => directory (put name tree entries)
      | none, [] => .ok (directory (put name (file (change .empty)) entries))
      | none, _ :: _ => .error .missing

def makePlace : List String → FileTree → FileTree
  | [], tree => tree
  | _ :: _, file content => file content
  | name :: place, directory entries =>
      directory (put name (makePlace place ((entries.lookup name).getD default)) entries)

/-! ## Paths

The steps of a path lead from directory to directory: to one inside, to the same one, or to the one
around. Nothing is around the tree, and a step out of it stays there. Names and paths must not be
too long. A slash at the end asks for a directory. Idle steps are those to the same directory. -/

/-- The place where relative paths start. The directories on the way to it have no names that a step
could give, so that a path that has left this place does not find back. -/
def here : List String := ["", "", ""]

def bare : FileTree := makePlace here default

def pathLimit : Nat := 4095

def nameLimit : Nat := 255

def steps (path : Path) : List String := path.splitOn "/"

def isIdle (step : String) : Bool := step = "" || step = "."

def trimmed (steps : List String) : List String := (steps.reverse.dropWhile isIdle).reverse

def parent (path : Path) : List String := trimmed (trimmed (steps path)).dropLast

def follow (place : List String) (step : String) : Except FileError (List String) :=
  if isIdle step then .ok place
  else if step = ".." then .ok place.dropLast
  else if nameLimit < step.utf8ByteSize then .error .nameTooLong
  else .ok (place ++ [step])

def enter (tree : FileTree) (place : List String) (step : String) :
    Except FileError (List String) := do
  match ← find place tree with
  | directory _ => follow place step
  | file _ => .error .notDirectory

def start (path : Path) : Except FileError (List String) :=
  if path.contains '\x00' then .error .missing
  else if pathLimit < path.utf8ByteSize then .error .nameTooLong
  else .ok (if path.startsWith "/" then [] else here)

def locate (tree : FileTree) (path : Path) : Except FileError (List String) := do
  (steps path).foldlM tree.enter (← start path)

/-- The steps to a directory that is to be made. A name with a dot behind it asks for a directory
that is there already, and is not made. -/
def wanted (path : Path) : List String :=
  if ((steps path).reverse.takeWhile isIdle).contains "." then parent path else steps path

def makeDirectory (path : Path) (tree : FileTree) : FileTree :=
  let (tree, _) := (wanted path).foldl
    (fun (tree, place) step =>
      match place.bind fun place => (tree.enter place step).toOption with
      | some place => (makePlace place tree, some place)
      | none => (tree, none))
    (tree, (start path).toOption)
  tree

def lookup (tree : FileTree) (path : Path) : Except FileError FileTree := do
  find (← tree.locate path) tree

def isDirectory (tree : FileTree) (path : Path) : Bool :=
  match tree.lookup path with
  | .ok (directory _) => true
  | _ => false

def isPresent (tree : FileTree) (path : Path) : Bool := (tree.lookup path).isOk

def read (tree : FileTree) (path : Path) : Option ByteArray :=
  match tree.lookup path with
  | .ok (file content) => some content
  | _ => none

def change (edited : ByteArray → ByteArray) (path : Path) (tree : FileTree) :
    Except FileError FileTree := do
  edit edited (← tree.locate path) tree

def write (tree : FileTree) (path : Path) (content : ByteArray) : Except FileError FileTree :=
  tree.change (fun _ => content) path

def append (tree : FileTree) (path : Path) (content : ByteArray) : Except FileError FileTree :=
  tree.change (· ++ content) path

def readText (tree : FileTree) (path : Path) : Option String :=
  (tree.read path).bind String.fromUTF8?

def decoded (tree : FileTree) (path : Path) : Option String :=
  (tree.read path).map fun content => String.ofList (Text.decode content.toList)

/-- Writes a file after making the directories it lies in. Where that is not possible the tree keeps
what is there. -/
def place (tree : FileTree) (path : Path) (content : ByteArray) : FileTree :=
  let tree := tree.makeDirectory ("/".intercalate (parent path))
  (tree.write path content).toOption.getD tree

instance : FileStore (StateM FileTree) where
  readText path := return (← get).readText path
  writeText path text := do
    match (← get).write path text.toUTF8 with
    | .ok tree =>
        set tree
        return .ok ()
    | .error error => return .error error
  appendText path text := do
    match (← get).append path text.toUTF8 with
    | .ok tree =>
        set tree
        return true
    | .error _ => return false
  createDirectory path := modify (makeDirectory path)

end FileTree

end TerminalSession
