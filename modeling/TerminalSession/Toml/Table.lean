import TerminalSession.Data

/-! # Building tables

A document says where each entry goes. A key with dots makes the records on its way, and so does a
header; but what was written in one place stays as it is, and nothing is said twice. Of a series a
path goes through the latest record. -/

namespace TerminalSession.Toml

structure Key where
  path : List String
  name : String
deriving DecidableEq, Repr

structure Assignment where
  key : Key
  data : Data
deriving Repr

namespace Table

open Data (Entries Origin)

/-- Whether a path that makes records of origin `made` may go through a record of origin `through`.
Keys with dots go only through records that have no header of their own. -/
def mayEnter (made through : Origin) : Bool :=
  match made, through with
  | _, .braces => false
  | .dotted, .header => false
  | _, _ => true

def replace (name : String) (data : Data) : Entries → Entries
  | [] => []
  | (other, old) :: rest =>
      if other = name then (other, data) :: rest else (other, old) :: replace name data rest

def update (made : Origin) (change : Origin → Entries → Option Entries) :
    List String → Origin → Entries → Option Entries
  | [], here, entries => change here entries
  | name :: path, _, entries =>
      match entries.lookup name with
      | none => do
          let inner ← update made change path made []
          return entries ++ [(name, .record made inner)]
      | some (.record origin inner) => do
          guard (mayEnter made origin)
          let inner ← update made change path origin inner
          return replace name (.record origin inner) entries
      | some (.series (latest :: records)) => do
          let latest ← update made change path .header latest
          return replace name (.series (latest :: records)) entries
      | some _ => none

def insert (name : String) (data : Data) (entries : Entries) : Option Entries :=
  if (entries.lookup name).isSome then none else some (entries ++ [(name, data)])

def assign (entries : Entries) (assignment : Assignment) : Option Entries :=
  let ⟨⟨path, name⟩, data⟩ := assignment
  if path.isEmpty then
    insert name data entries
  else
    update .dotted (fun here inner => if here = .dotted then insert name data inner else none)
      path .header entries

def fill (assignments : List Assignment) (entries : Entries) : Option Entries :=
  assignments.foldlM assign entries

/-- Adds a record under a header. A record that only the headers of its own records named before
gets what it lacked. -/
def addTable (key : Key) (assignments : List Assignment) (root : Entries) : Option Entries :=
  update .implied
    (fun _ entries => do
      let start ←
        match entries.lookup key.name with
        | none => some []
        | some (.record .implied inner) => some inner
        | some _ => none
      let inner ← fill assignments start
      return entries.filter (·.1 ≠ key.name) ++ [(key.name, .record .header inner)])
    key.path .header root

def addToSeries (key : Key) (assignments : List Assignment) (root : Entries) : Option Entries :=
  update .implied
    (fun _ entries => do
      let inner ← fill assignments []
      match entries.lookup key.name with
      | none => return entries ++ [(key.name, .series [inner])]
      | some (.series records) => return replace key.name (.series (inner :: records)) entries
      | some _ => none)
    key.path .header root

end Table

end TerminalSession.Toml
