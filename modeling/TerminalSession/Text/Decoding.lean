/-! # Bytes as text

A character is written as one to four bytes. Bytes that are not the writing of a text can be read
all the same: a piece that is no character is read as a sign that stands for it. A piece is as long
as it could still have become a character. The main statement is that what was written is read
unchanged. -/

namespace TerminalSession.Text

def replacement : Char := '\uFFFD'

structure Incomplete where
  number : Nat
  after : Nat
  least : Nat := 0x80
  greatest : Nat := 0xBF
deriving DecidableEq, Repr

/-- What the first byte of a longer character tells. The bounds of the next byte leave out numbers
that could be written shorter, halves of pairs, and numbers beyond the last character. -/
def Incomplete.ofFirst? (byte : Nat) : Option Incomplete :=
  if byte < 0xC2 then none
  else if byte < 0xE0 then some { number := byte - 0xC0, after := 0 }
  else if byte < 0xF0 then
    some { number := byte - 0xE0, after := 1,
           least := if byte = 0xE0 then 0xA0 else 0x80,
           greatest := if byte = 0xED then 0x9F else 0xBF }
  else if byte < 0xF5 then
    some { number := byte - 0xF0, after := 2,
           least := if byte = 0xF0 then 0x90 else 0x80,
           greatest := if byte = 0xF4 then 0x8F else 0xBF }
  else none

structure Decoding where
  found : List Char := []
  incomplete : Option Incomplete := none
deriving DecidableEq, Repr

namespace Decoding

def first (found : List Char) (byte : Nat) : Decoding :=
  if byte < 0x80 then { found := Char.ofNat byte :: found }
  else
    match Incomplete.ofFirst? byte with
    | some incomplete => { found, incomplete }
    | none => { found := replacement :: found }

/-! A byte out of bounds ends the character and starts the next one. -/

def next (found : List Char) (incomplete : Incomplete) (byte : Nat) : Decoding :=
  if incomplete.least ≤ byte ∧ byte ≤ incomplete.greatest then
    let number := 64 * incomplete.number + (byte - 0x80)
    match incomplete.after with
    | 0 => { found := Char.ofNat number :: found }
    | after + 1 => { found, incomplete := some { number, after } }
  else
    first (replacement :: found) byte

def take (decoding : Decoding) (byte : UInt8) : Decoding :=
  match decoding.incomplete with
  | none => first decoding.found byte.toNat
  | some incomplete => next decoding.found incomplete byte.toNat

def text (decoding : Decoding) : List Char :=
  match decoding.incomplete with
  | none => decoding.found.reverse
  | some _ => (replacement :: decoding.found).reverse

end Decoding

def decode (bytes : List UInt8) : List Char := (bytes.foldl Decoding.take {}).text

namespace Decoding

theorem take_of_bounds {found : List Char} {incomplete : Incomplete} {byte : Nat}
    (least : incomplete.least ≤ byte) (greatest : byte ≤ incomplete.greatest)
    (small : byte < 0x100) :
    take { found, incomplete := some incomplete } (UInt8.ofNat byte) =
      match incomplete.after with
      | 0 => { found := Char.ofNat (64 * incomplete.number + (byte - 0x80)) :: found }
      | after + 1 =>
          { found, incomplete := some { number := 64 * incomplete.number + (byte - 0x80), after } }
      := by
  have same : (UInt8.ofNat byte).toNat = byte := by
    rw [UInt8.toNat_ofNat']
    omega
  simp only [take, next, same, least, greatest, and_self, if_true]

theorem take_ofFirst? {found : List Char} {incomplete : Incomplete} {byte : Nat}
    (opens : Incomplete.ofFirst? byte = some incomplete) (large : 0x80 ≤ byte)
    (small : byte < 0x100) :
    take { found } (UInt8.ofNat byte) = { found, incomplete := some incomplete } := by
  have same : (UInt8.ofNat byte).toNat = byte := by
    rw [UInt8.toNat_ofNat']
    omega
  simp only [take, first, same, opens]
  rw [if_neg (by omega)]

theorem foldl_take_utf8EncodeChar (found : List Char) (character : Char) :
    (String.utf8EncodeChar character).foldl take { found } = { found := character :: found } := by
  have valid : character.val.toNat < 0xD800 ∨
      0xDFFF < character.val.toNat ∧ character.val.toNat < 0x110000 := character.valid
  have whole {number : Nat} (same : number = character.val.toNat) :
      Char.ofNat number = character := by
    rw [same]
    exact Char.ofNat_toNat character
  rw [String.utf8EncodeChar]
  generalize character.val.toNat = number at valid whole
  split
  · have same : (UInt8.ofNat number).toNat = number := by
      rw [UInt8.toNat_ofNat']
      omega
    simp only [List.foldl_cons, List.foldl_nil, take, first, same]
    rw [if_pos (by omega), whole rfl]
  split
  · have opens : Incomplete.ofFirst? (number / 64 % 32 + 192) =
        some { number := number / 64, after := 0 } := by
      rw [Incomplete.ofFirst?, if_neg (by omega), if_pos (by omega)]
      simp only [Option.some.injEq, Incomplete.mk.injEq, and_true]
      omega
    rw [List.foldl_cons, take_ofFirst? opens (by omega) (by omega), List.foldl_cons,
      take_of_bounds (by dsimp only; omega) (by dsimp only; omega) (by omega)]
    simp only [List.foldl_nil]
    rw [whole (by omega)]
  split
  · have opens : Incomplete.ofFirst? (number / 4096 % 16 + 224) =
        some { number := number / 4096, after := 1,
               least := if number / 4096 = 0 then 0xA0 else 0x80,
               greatest := if number / 4096 = 0xD then 0x9F else 0xBF } := by
      rw [Incomplete.ofFirst?, if_neg (by omega), if_neg (by omega), if_pos (by omega)]
      simp only [Option.some.injEq, Incomplete.mk.injEq, true_and]
      grind
    rw [List.foldl_cons, take_ofFirst? opens (by omega) (by omega), List.foldl_cons,
      take_of_bounds (by grind) (by grind) (by omega), List.foldl_cons,
      take_of_bounds (by dsimp only; omega) (by dsimp only; omega) (by omega)]
    simp only [List.foldl_nil]
    rw [whole (by omega)]
  · have opens : Incomplete.ofFirst? (number / 262144 % 8 + 240) =
        some { number := number / 262144, after := 2,
               least := if number / 262144 = 0 then 0x90 else 0x80,
               greatest := if number / 262144 = 4 then 0x8F else 0xBF } := by
      rw [Incomplete.ofFirst?, if_neg (by omega), if_neg (by omega), if_neg (by omega),
        if_pos (by omega)]
      simp only [Option.some.injEq, Incomplete.mk.injEq, true_and]
      grind
    rw [List.foldl_cons, take_ofFirst? opens (by omega) (by omega), List.foldl_cons,
      take_of_bounds (by grind) (by grind) (by omega), List.foldl_cons,
      take_of_bounds (by dsimp only; omega) (by dsimp only; omega) (by omega), List.foldl_cons,
      take_of_bounds (by dsimp only; omega) (by dsimp only; omega) (by omega)]
    simp only [List.foldl_nil]
    rw [whole (by omega)]

theorem foldl_take_flatMap (text found : List Char) :
    (text.flatMap String.utf8EncodeChar).foldl take { found } =
      { found := text.reverse ++ found } := by
  induction text generalizing found with
  | nil => rfl
  | cons character rest induction =>
      rw [List.flatMap_cons, List.foldl_append, foldl_take_utf8EncodeChar, induction]
      simp

end Decoding

/-- What was written is read unchanged. -/
theorem decode_flatMap (text : List Char) :
    decode (text.flatMap String.utf8EncodeChar) = text := by
  rw [decode, Decoding.foldl_take_flatMap]
  simp [Decoding.text]

end TerminalSession.Text
