/-! # Data that tell their own kind

What a configuration file or a message in a self-describing format says, before it is known what it
should say. A reading function takes from it what it needs and answers with nothing where the kind
is wrong. -/

namespace TerminalSession

namespace Data

/-! How a record came about decides what may be added to it: one between braces is complete, one
made by keys with dots can be named by such keys again, one with a header has its own assignments
behind it, and one that is only implied by the headers of the records inside it may still get a
header. -/

inductive Origin where
  | braces
  | dotted
  | header
  | implied
deriving DecidableEq, Repr

end Data

inductive Data where
  | null
  | bool (on : Bool)
  | number
  | moment
  | text (content : String)
  | list (items : List Data)
  | record (origin : Data.Origin) (entries : List (String × Data))
  | series (records : List (List (String × Data)))
deriving Repr

namespace Data

instance : Inhabited Data := ⟨null⟩

/-! Entries stand in the order they were written, the records of a series latest first. Nothing that
is read here is a number, so the values of numbers are not kept; and a date or a time is a record
that none of its readers has a field for. -/

abbrev Entries := List (String × Data)

/-! Formats differ in two ways: whether a record may be given as a list with more items than it has
fields, and what may stand beside the name of a choice that has no parts. In messages that is null;
in configuration files it is an empty record or an empty list. -/

structure Dialect where
  allowsSurplus : Bool
  isUnit : Data → Bool

def Dialect.messages : Dialect where
  allowsSurplus := false
  isUnit
    | null => true
    | _ => false

def Dialect.configuration : Dialect where
  allowsSurplus := true
  isUnit
    | record _ [] | list [] => true
    | _ => false

def bool? : Data → Option Bool
  | bool on => some on
  | _ => none

def text? : Data → Option String
  | text content => some content
  | _ => none

def char? : Data → Option Char
  | text content =>
      match content.toList with
      | [character] => some character
      | _ => none
  | _ => none

def positional? (dialect : Dialect) (fields : List String) (items : List Data) :
    Option (String → Option Data) :=
  if dialect.allowsSurplus || items.length ≤ fields.length then
    some fun field => items[fields.idxOf field]?
  else
    none

/-- What a record says about each of its fields. A list gives the fields in order, and a record may
have entries that are no field; a date has only such entries. -/
def fields? (dialect : Dialect) (fields : List String) : Data → Option (String → Option Data)
  | record _ entries => some fun field => entries.lookup field
  | list items => positional? dialect fields items
  | series records => positional? dialect fields (records.reverse.map (record .header))
  | moment => some fun _ => none
  | _ => none

def orElse {α : Type} (missing : α) (read : Data → Option α) : Option Data → Option α
  | none => some missing
  | some data => read data

def choice? (dialect : Dialect) : Data → Option String
  | text name => some name
  | record _ [(name, payload)] => if dialect.isUnit payload then some name else none
  | _ => none

end Data

end TerminalSession
