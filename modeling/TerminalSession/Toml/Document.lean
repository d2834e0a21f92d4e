import TerminalSession.Toml.Value

/-! # Documents

A document is a list of lines. Each has a statement, a comment, both or neither. A header starts a
section; the assignments in front of the first header belong to the document itself. -/

namespace TerminalSession.Toml

open Reader

inductive Statement where
  | table (key : Key)
  | series (key : Key)
  | assign (assignment : Assignment)
deriving Repr

namespace Statement

def header : Reader Statement := do
  expect '['
  if ← accept '[' then
    let key ← key
    expect ']'
    expect ']'
    return .series key
  let key ← key
  expect ']'
  return .table key

def read (size : Nat) : Reader Statement :=
  header <|> do
    let assignment ← assignment (value size (depthLimit - 1))
    return .assign assignment

end Statement

def isBare : List Char → Bool
  | [] => true
  | character :: _ => character = '#' || character = '\n' || character = '\r'

def lineEnd : Reader Unit
  | [] => some ((), [])
  | characters => (newline? characters).map fun rest => ((), rest)

def line (size : Nat) : Reader (Option Statement) := do
  spaces
  let statement ← if isBare (← get) then pure none else some <$> Statement.read size
  spaces
  comment
  lineEnd
  return statement

def lines (size : Nat) : (turns : Nat) → (found : List Statement) → List Char →
    Option (List Statement)
  | _, found, [] => some found
  | 0, _, _ => none
  | turns + 1, found, characters => do
      let (statement, rest) ← line size characters
      lines size turns (statement.toList ++ found) rest

/-! A mark of the encoding may stand in front of a document. Its statements are read with the latest
of them first. -/

def statements (text : List Char) : Option (List Statement) :=
  let text :=
    match text with
    | '\uFEFF' :: rest => rest
    | text => text
  lines text.length text.length [] text

structure Section where
  key : Key
  isSeries : Bool
  assignments : List Assignment
deriving Repr

def addStatement (behind : List Assignment × List Section) (statement : Statement) :
    List Assignment × List Section :=
  let (assignments, others) := behind
  match statement with
  | .assign assignment => (assignment :: assignments, others)
  | .table key => ([], { key, isSeries := false, assignments } :: others)
  | .series key => ([], { key, isSeries := true, assignments } :: others)

def sections (statements : List Statement) : List Assignment × List Section :=
  statements.foldl addStatement ([], [])

def addSection (root : Data.Entries) (part : Section) : Option Data.Entries :=
  if part.isSeries then Table.addToSeries part.key part.assignments root
  else Table.addTable part.key part.assignments root

def assemble (statements : List Statement) : Option Data := do
  let (first, others) := sections statements
  let root ← Table.fill first []
  let root ← others.foldlM addSection root
  return .record .header root

def parse (text : String) : Option Data := do
  let statements ← statements text.toList
  assemble statements

/-! ## Writing

Documents are written for settings only, which are texts and truth values in named groups. -/

inductive Scalar where
  | bool (on : Bool)
  | text (content : String)
deriving DecidableEq, Repr

def Scalar.data : Scalar → Data
  | bool on => .bool on
  | text content => .text content

def Scalar.written : Scalar → List Char
  | bool on => (toString on).toList
  | text content => Quoting.write content.toList

structure Group where
  name : String
  entries : List (String × Scalar)
deriving DecidableEq, Repr

def Group.written (group : Group) : List Char :=
  '[' :: group.name.toList ++ [']', '\n'] ++
    group.entries.flatMap fun (name, scalar) =>
      name.toList ++ [' ', '=', ' '] ++ scalar.written ++ ['\n']

def write (groups : List Group) : String :=
  String.ofList (['\n'].intercalate (groups.map Group.written))

end TerminalSession.Toml
