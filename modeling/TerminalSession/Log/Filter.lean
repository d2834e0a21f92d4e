import TerminalSession.Log.Directive

/-! # Which entries are written

The directives of a log select its entries by their level and by where they come from. Without any
directive the standard one holds, and what no directive is about is not written. -/

namespace TerminalSession.Log

structure Filter where
  directives : List Directive
deriving DecidableEq, Repr

namespace Filter

def ofDirectives (directives : List Directive) : Filter :=
  ⟨if directives.isEmpty then [.standard] else directives⟩

def pieces (text : String) : List String :=
  (text.splitOn ",").filter fun piece => !piece.isEmpty

def parse (text : String) : Except DirectiveError Filter :=
  ofDirectives <$> (pieces text).mapM fun piece => Directive.parse piece.toList

def parseValid (text : String) : Filter × List String :=
  let read := (pieces text).map fun piece => (piece, Directive.parse piece.toList)
  let warnings := read.filterMap fun (piece, result) =>
    match result with
    | .ok _ => none
    | .error error =>
        some ("ignoring " ++ grave ++ piece ++ grave ++ ": " ++ error.message)
  (ofDirectives (read.filterMap fun (_, result) => result.toOption), warnings)
where
  grave : String := (Char.ofNat 0x60).toString

/-- The filter of the given directives, if they are given and all of them are valid; else the filter
of the settings, with its warnings. -/
def choose (directives : Option String) (settings : String) : Filter × List String :=
  match directives.map parse with
  | some (.ok filter) => (filter, [])
  | _ => parseValid settings

/-- The directive that decides about a source: the one that says most, and of two that say as much
the later one. -/
def deciding? (filter : Filter) (source : Source) : Option Directive :=
  (filter.directives.filter (·.concerns source)).foldl
    (fun best directive =>
      match best with
      | some found => if directive.isAsSpecific found then some directive else best
      | none => some directive)
    none

def admits (filter : Filter) (entry : Entry) : Bool :=
  match filter.deciding? entry.source with
  | some directive => directive.threshold.admits entry.level
  | none => false

end Filter

end TerminalSession.Log
