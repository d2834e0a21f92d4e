import TerminalSession.Toml.Number
import TerminalSession.Toml.Quoting
import TerminalSession.Toml.Table

/-! # Values

What may stand behind an equals sign. Lists may go over several lines, records between braces may
not. -/

namespace TerminalSession.Toml

open Reader

/-- Lists and records may be nested less deep than this, and a key may have fewer parts. -/
def depthLimit : Nat := 80

def quotedText : Reader Data
  | characters => (Quoting.text characters).map fun (content, rest) =>
      (.text (String.ofList content), rest)

def isKeyCharacter (character : Char) : Bool :=
  character.isAlphanum || character = '-' || character = '_'

def keyPart : Reader String
  | characters =>
    match characters with
    | [] => none
    | first :: rest =>
        if first = '"' || first = Text.apostrophe then
          (Quoting.line first rest).map fun (content, rest) => (String.ofList content, rest)
        else
          let letters := characters.takeWhile isKeyCharacter
          if letters.isEmpty then none
          else some (String.ofList letters, characters.dropWhile isKeyCharacter)

def keyParts : Nat → Reader (List String)
  | 0 => pure []
  | turns + 1 => do
      if ← accept '.' then
        spaces
        let part ← keyPart
        spaces
        let others ← keyParts turns
        return part :: others
      return []

def key : Reader Key := do
  spaces
  let first ← keyPart
  spaces
  let others ← keyParts depthLimit
  let parts := first :: others
  guard (parts.length < depthLimit)
  return { path := parts.dropLast, name := parts.getLast?.getD first }

def assignment (value : Reader Data) : Reader Assignment := do
  let key ← key
  expect '='
  spaces
  let data ← value
  spaces
  return { key, data }

/-! The items of a list and the entries of a record are counted down from the number of characters
of the document, as each of them takes a character at least. -/

def items (value : Reader Data) : Nat → Reader (List Data)
  | 0 => failure
  | turns + 1 => do
      blank
      if ← accept ']' then return []
      let first ← value
      blank
      if ← accept ',' then
        let others ← items value turns
        return first :: others
      expect ']'
      return [first]

def entries (value : Reader Data) : Nat → Reader (List Assignment)
  | 0 => failure
  | turns + 1 => do
      let first ← assignment value
      if ← accept ',' then
        let others ← entries value turns
        return first :: others
      expect '}'
      return [first]

def list (value : Reader Data) (size : Nat) : Reader Data := do
  expect '['
  let found ← items value size
  return .list found

def record (value : Reader Data) (size : Nat) : Reader Data := do
  expect '\x7b'
  spaces
  if ← accept '\x7d' then return .record .braces []
  let found ← entries value size
  let inner ← Table.fill found []
  return .record .braces inner

def boolean : Reader Data :=
  (do word "true".toList
      return .bool true) <|> do
    word "false".toList
    return .bool false

def number : Reader Data := do
  Number.numeral
  return .number

def moment : Reader Data := do
  Number.moment
  return .moment

def value (size : Nat) : (depth : Nat) → Reader Data
  | 0 => quotedText <|> boolean <|> moment <|> number
  | depth + 1 =>
      quotedText <|> boolean <|> moment <|> number <|>
        list (value size depth) size <|> record (value size depth) size

end TerminalSession.Toml
