import TerminalSession.Text.CharacterClass

/-! # Reading characters

A reader takes characters from the front of a text and leaves the rest, or fails. -/

namespace TerminalSession.Toml

abbrev Reader := StateT (List Char) Option

namespace Reader

open Text (digit?)

def accept (wanted : Char) : Reader Bool
  | [] => some (false, [])
  | character :: rest =>
      if character = wanted then some (true, rest) else some (false, character :: rest)

def expect (wanted : Char) : Reader Unit
  | [] => none
  | character :: rest => if character = wanted then some ((), rest) else none

def word (letters : List Char) : Reader Unit
  | characters =>
      if letters.isPrefixOf characters then some ((), characters.drop letters.length) else none

def takeWhile (belongs : Char → Bool) : Reader (List Char)
  | characters => some (characters.takeWhile belongs, characters.dropWhile belongs)

def isSpace (character : Char) : Bool := character = ' ' || character = '\t'

def spaces : Reader Unit
  | characters => some ((), characters.dropWhile isSpace)

def newline? : List Char → Option (List Char)
  | '\n' :: rest => some rest
  | '\r' :: '\n' :: rest => some rest
  | _ => none

theorem length_of_newline? {characters rest : List Char}
    (read : newline? characters = some rest) : rest.length < characters.length := by
  unfold newline? at read
  split at read
  · cases read
    simp
  · cases read
    simp only [List.length_cons]
    omega
  · simp at read

def isPlain (character : Char) : Bool :=
  character = '\t' || (0x20 ≤ character.toNat && character.toNat ≠ 0x7F)

def comment : Reader Unit
  | '#' :: rest => some ((), rest.dropWhile isPlain)
  | characters => some ((), characters)

def blank : Reader Unit
  | characters => some ((), skip false characters)
where
  skip (inComment : Bool) : List Char → List Char
    | [] => []
    | '\n' :: rest | '\r' :: '\n' :: rest => skip false rest
    | character :: rest =>
        if inComment then if isPlain character then skip true rest else character :: rest
        else if character = '#' then skip true rest
        else if isSpace character then skip false rest
        else character :: rest

def appendDigits (base : Nat) : Nat → Nat → Reader Nat
  | 0, number, characters => some (number, characters)
  | _ + 1, _, [] => none
  | count + 1, number, next :: rest =>
      match digit? base next with
      | some value => appendDigits base count (base * number + value) rest
      | none => none

theorem length_of_appendDigits {base count start number : Nat} {characters rest : List Char}
    (read : appendDigits base count start characters = some (number, rest)) :
    rest.length ≤ characters.length := by
  induction count generalizing start characters with
  | zero =>
      simp only [appendDigits, Option.some.injEq, Prod.mk.injEq] at read
      exact Nat.le_of_eq (congrArg List.length read.2.symm)
  | succ count induction =>
      match characters with
      | [] => simp [appendDigits] at read
      | next :: others =>
          rw [appendDigits] at read
          split at read
          · exact Nat.le_succ_of_le (induction read)
          · simp at read

def number (base count : Nat) : Reader Nat := appendDigits base count 0

end Reader

end TerminalSession.Toml
