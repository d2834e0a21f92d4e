import TerminalSession.Text.Quoted
import TerminalSession.Toml.Reader

/-! # Texts between quotes

A text stands between double quotes, where a backslash starts an escape, or between apostrophes,
where it is just a backslash. Between three quotes on either side a text may go over several lines,
and a line end right after the first three is not part of it.

A text is written as plainly as it can be, with escapes only where no kind of quote does without. -/

namespace TerminalSession.Toml.Quoting

open Text (apostrophe)

/-! ## Reading -/

def numbered (digits : Nat) (characters : List Char) : Option (Char × List Char) :=
  match Reader.number 16 digits characters with
  | some (number, rest) => if number.isValidChar then some (Char.ofNat number, rest) else none
  | none => none

def escaped : List Char → Option (Char × List Char)
  | 'b' :: rest => some ('\x08', rest)
  | 't' :: rest => some ('\t', rest)
  | 'n' :: rest => some ('\n', rest)
  | 'f' :: rest => some ('\x0C', rest)
  | 'r' :: rest => some ('\r', rest)
  | '"' :: rest => some ('"', rest)
  | '\\' :: rest => some ('\\', rest)
  | 'u' :: rest => numbered 4 rest
  | 'U' :: rest => numbered 8 rest
  | _ => none

theorem length_of_numbered {digits : Nat} {characters rest : List Char} {character : Char}
    (read : numbered digits characters = some (character, rest)) :
    rest.length ≤ characters.length := by
  rw [numbered] at read
  split at read
  · rename_i found
    split at read
    · cases read
      exact Reader.length_of_appendDigits found
    · simp at read
  · simp at read

theorem length_of_escaped {characters rest : List Char} {character : Char}
    (read : escaped characters = some (character, rest)) :
    rest.length < characters.length := by
  unfold escaped at read
  split at read
  case h_8 =>
    have shorter := length_of_numbered read
    simp only [List.length_cons]
    omega
  case h_9 =>
    have shorter := length_of_numbered read
    simp only [List.length_cons]
    omega
  all_goals
    cases read
    try simp

def before (character : Char) : Option (List Char × List Char) → Option (List Char × List Char) :=
  Option.map fun (content, rest) => (character :: content, rest)

def line (quote : Char) (characters : List Char) : Option (List Char × List Char) :=
  match characters with
  | [] => none
  | character :: rest =>
      if character = quote then
        some ([], rest)
      else if character = '\\' && quote = '"' then
        match found : escaped rest with
        | some (meant, others) =>
            have := length_of_escaped found
            before meant (line quote others)
        | none => none
      else if Reader.isPlain character then
        before character (line quote rest)
      else
        none
termination_by characters.length

def continuation? (characters : List Char) : Option (List Char) :=
  match Reader.newline? (characters.dropWhile Reader.isSpace) with
  | some rest => some (dropBlank rest)
  | none => none
where
  dropBlank : List Char → List Char
    | ' ' :: rest | '\t' :: rest | '\n' :: rest | '\r' :: '\n' :: rest => dropBlank rest
    | characters => characters

theorem length_dropBlank (characters : List Char) :
    (continuation?.dropBlank characters).length ≤ characters.length := by
  fun_induction continuation?.dropBlank characters with
  | case1 rest induction => exact Nat.le_succ_of_le induction
  | case2 rest induction => exact Nat.le_succ_of_le induction
  | case3 rest induction => exact Nat.le_succ_of_le induction
  | case4 rest induction => exact Nat.le_succ_of_le (Nat.le_succ_of_le induction)
  | case5 characters => exact Nat.le_refl _

theorem length_of_continuation? {characters rest : List Char}
    (read : continuation? characters = some rest) : rest.length < characters.length := by
  unfold continuation? at read
  split at read
  · rename_i next found
    cases read
    have shorter := Reader.length_of_newline? found
    have dropped := length_dropBlank next
    have suffix : (characters.dropWhile Reader.isSpace).length ≤ characters.length :=
      (List.dropWhile_suffix _).length_le
    omega
  · simp at read

/-- How many of the quotes at the front end a text of several lines: three of them do, and up to two
more are the last characters of the text. -/
def closing? (quote : Char) (characters : List Char) : Option Nat :=
  let run := (characters.takeWhile (· = quote)).length
  if 3 ≤ run then some (min run 5) else none

def block (quote : Char) (characters : List Char) : Option (List Char × List Char) :=
  match characters with
  | [] => none
  | character :: rest =>
      match closing? quote (character :: rest) with
      | some quotes =>
          some (List.replicate (quotes - 3) quote, (character :: rest).drop quotes)
      | none =>
          if character = '\\' && quote = '"' then
            match hidden : continuation? rest with
            | some others =>
                have := length_of_continuation? hidden
                block quote others
            | none =>
                match found : escaped rest with
                | some (meant, others) =>
                    have := length_of_escaped found
                    before meant (block quote others)
                | none => none
          else
            match ended : Reader.newline? (character :: rest) with
            | some others =>
                have : others.length < rest.length + 1 := Reader.length_of_newline? ended
                before '\n' (block quote others)
            | none =>
                if Reader.isPlain character then before character (block quote rest) else none
termination_by characters.length

def text (characters : List Char) : Option (List Char × List Char) :=
  match characters with
  | first :: second :: third :: rest =>
      if first ≠ '"' && first ≠ apostrophe then none
      else if second = first && third = first then
        block first ((Reader.newline? rest).getD rest)
      else
        line first (second :: third :: rest)
  | first :: rest => if first = '"' || first = apostrophe then line first rest else none
  | [] => none

/-! ## Writing -/

def longestRun (wanted : Char) (characters : List Char) : Nat :=
  (characters.foldl
    (fun (run, longest) character =>
      if character = wanted then (run + 1, max longest (run + 1)) else (0, longest))
    (0, 0)).2

def needsEscape (character : Char) : Bool := !Reader.isPlain character && character ≠ '\n'

def controlDigits (character : Char) : List Char :=
  let digits := (Nat.toDigits 16 character.toNat).map Char.toUpper
  List.replicate (4 - digits.length) '0' ++ digits

def escape (severalLines : Bool) (character : Char) : List Char :=
  match character with
  | '\x08' => ['\\', 'b']
  | '\t' => ['\\', 't']
  | '\n' => if severalLines then ['\n'] else ['\\', 'n']
  | '\x0C' => ['\\', 'f']
  | '\r' => ['\\', 'r']
  | '"' => ['\\', '"']
  | '\\' => ['\\', '\\']
  | character =>
      if needsEscape character then '\\' :: 'u' :: controlDigits character else [character]

/-- A text between double quotes, where `allowed` more double quotes may follow as they are. In a
text of several lines two may follow each other, as they do not end it. -/
def escapeAll (severalLines : Bool) : Nat → List Char → List Char
  | _, [] => []
  | allowed, character :: rest =>
      let most := if severalLines then 2 else 0
      if character = '"' then
        match allowed with
        | 0 => escape severalLines '"' ++ escapeAll severalLines most rest
        | allowed + 1 => '"' :: escapeAll severalLines allowed rest
      else
        escape severalLines character ++ escapeAll severalLines most rest

inductive Style where
  | doubleQuotes (severalLines : Bool)
  | apostrophes (severalLines : Bool)
deriving DecidableEq, Repr

/-- The plainest way to quote a text. Escapes are only for control characters, and where both kinds
of quote are part of the text. -/
def Style.choose (content : List Char) : Style :=
  let isTame := !content.any needsEscape
  let severalLines := content.contains '\n'
  let isEasy := isTame && !content.contains '\\'
  if isEasy && !content.contains '"' && !severalLines then .doubleQuotes false
  else if isTame && !content.contains apostrophe && !severalLines then .apostrophes false
  else if isEasy && longestRun '"' content ≤ 2 then .doubleQuotes true
  else if isTame && longestRun apostrophe content ≤ 2 then .apostrophes true
  else .doubleQuotes severalLines

def enclose (quote : Char) (severalLines startsLine : Bool) (written : List Char) : List Char :=
  let quotes := List.replicate (if severalLines then 3 else 1) quote
  quotes ++ (if severalLines && startsLine then ['\n'] else []) ++ written ++ quotes

def write (content : List Char) : List Char :=
  let startsLine := content.contains '\n'
  match Style.choose content with
  | .doubleQuotes severalLines =>
      enclose '"' severalLines startsLine
        (escapeAll severalLines (if severalLines then 2 else 0) content)
  | .apostrophes severalLines => enclose apostrophe severalLines startsLine content

end TerminalSession.Toml.Quoting
