import TerminalSession.Toml.Reader

/-! # Numbers and dates

Their values are of no use here, but a text with a number out of range or a date that does not exist
is no document. So a number is checked and then left behind. -/

namespace TerminalSession.Toml.Number

open Reader
open Text (digit?)

def moreDigits (base : Nat) : Reader (List Nat)
  | [] => some ([], [])
  | '_' :: [] => none
  | '_' :: next :: rest =>
      match digit? base next with
      | some value => (moreDigits base rest).map fun (values, rest) => (value :: values, rest)
      | none => none
  | next :: rest =>
      match digit? base next with
      | some value => (moreDigits base rest).map fun (values, rest) => (value :: values, rest)
      | none => some ([], next :: rest)

def digits (base : Nat) : Reader (List Nat)
  | [] => none
  | next :: rest =>
      match digit? base next with
      | some value => (moreDigits base rest).map fun (values, rest) => (value :: values, rest)
      | none => none

def ofDigits (base : Nat) (values : List Nat) : Nat :=
  values.foldl (fun number value => base * number + value) 0

def sign : Reader Bool := do
  if ← accept '-' then return true
  let _ ← accept '+'
  return false

def whole : Reader (List Nat) := do
  if ← accept '0' then return [0]
  digits 10

def fits (negative : Bool) (number : Nat) : Bool :=
  if negative then number ≤ Nat.pow 2 63 else number < Nat.pow 2 63

/-! A whole number has sixty-four bits. It may be written in a base that a letter behind a zero
tells. -/

def based (letter : Char) (base : Nat) : Reader Unit := do
  expect '0'
  expect letter
  guard (fits false (ofDigits base (← digits base)))

def decimal : Reader Unit := do
  let negative ← sign
  guard (fits negative (ofDigits 10 (← whole)))

def integer : Reader Unit :=
  based 'x' 16 <|> based 'o' 8 <|> based 'b' 2 <|> decimal

/-- Whether digits times a power of ten round to a number with a fraction of fifty-three bits and an
exponent below one thousand and twenty-four. -/
def isFinite (values : List Nat) (negativePower : Bool) (power : Nat) : Bool :=
  let digits := values.dropWhile (· = 0)
  let number := ofDigits 10 digits
  let limit := Nat.pow 2 1024 - Nat.pow 2 970
  if number = 0 then true
  else if negativePower then
    if digits.length ≤ power then true else number < limit * Nat.pow 10 power
  else if 400 < digits.length + power then false
  else number * Nat.pow 10 power < limit

def exponent : Reader (Bool × List Nat) := do
  unless ← accept 'e' do expect 'E'
  let negative ← sign
  return (negative, ← digits 10)

def shifted (negative : Bool) (power places : Nat) : Bool × Nat :=
  if negative then (true, power + places)
  else if places ≤ power then (false, power - places)
  else (true, places - power)

/-! A number with a fraction or an exponent may be too small but not too large; only below zero it
may be that too. -/

def fractional : Reader Unit := do
  let negative ← sign
  let front ← whole
  let places ← (do expect '.'; digits 10) <|> pure []
  let (negativePower, power) ←
    if places.isEmpty then exponent else exponent <|> pure (false, [])
  let (negativePower, power) := shifted negativePower (ofDigits 10 power) places.length
  guard (negative || isFinite (front ++ places) negativePower power)

def unusual : Reader Unit := do
  let _ ← sign
  word ['i', 'n', 'f'] <|> word ['n', 'a', 'n']

/-! ## Dates and times

A minute may have a leap second. Only with both a date and a time there can be an offset. -/

def pair (first last : Nat) : Reader Nat := do
  let found ← number 10 2
  guard (first ≤ found && found ≤ last)
  return found

def daysIn (year month : Nat) : Nat :=
  match month with
  | 2 => if year % 4 = 0 && (year % 100 ≠ 0 || year % 400 = 0) then 29 else 28
  | 4 | 6 | 9 | 11 => 30
  | _ => 31

def date : Reader Unit := do
  let year ← number 10 4
  expect '-'
  let month ← pair 1 12
  expect '-'
  let day ← pair 1 31
  guard (day ≤ daysIn year month)

def time : Reader Unit := do
  let _ ← pair 0 23
  expect ':'
  let _ ← pair 0 59
  expect ':'
  let _ ← pair 0 60
  (do expect '.'
      let _ ← number 10 1
      let _ ← takeWhile Char.isDigit) <|> pure ()

def offset : Reader Unit :=
  expect 'Z' <|> expect 'z' <|> do
    unless ← accept '-' do expect '+'
    let _ ← pair 0 23
    expect ':'
    let _ ← pair 0 59

def moment : Reader Unit :=
  (do date
      (do expect 'T' <|> expect 't' <|> expect ' '
          time
          offset <|> pure ()) <|> pure ()) <|> time

def numeral : Reader Unit := fractional <|> integer <|> unusual

end TerminalSession.Toml.Number
