import TerminalSession.Keyboard
import TerminalSession.Proofs.Display
import TerminalSession.Proofs.KeyCodes

/-! # What is read for a key press

A special key is one code to a window that tells special keys apart. To other windows, and for all
other keys, it is the characters that a classic terminal sends, and these are never taken for a
special key. But for a character that was typed as it is, they are all ASCII. -/

namespace TerminalSession.KeyPress

/-! ## What a classic terminal sends

A typed character is sent as it is, unless the control key folds it, and whatever is not ASCII was
typed. -/

def Ascii (sent : List Char) : Prop := ∀ character ∈ sent, character.toNat < 0x80

theorem ascii_nil : Ascii [] := List.forall_mem_nil _

theorem ascii_cons {first : Char} {rest : List Char} :
    Ascii (first :: rest) ↔ first.toNat < 0x80 ∧ Ascii rest := List.forall_mem_cons

theorem ascii_append {first second : List Char} :
    Ascii (first ++ second) ↔ Ascii first ∧ Ascii second := List.forall_mem_append

theorem ascii_singleton {character : Char} (plain : character.toNat < 0x80) : Ascii [character] :=
  ascii_cons.mpr ⟨plain, ascii_nil⟩

theorem toNat_ofNat_of_lt {code : Nat} (plain : code < 0x80) : (Char.ofNat code).toNat = code :=
  Code.toNat_ofNat (.inl (Nat.lt_trans plain (by decide)))

theorem ascii_number (number : Nat) : Ascii (toString number).toList := by
  intro character member
  have digit := Screen.Instruction.isDigit_of_mem_toString member
  simp only [Char.isDigit, Bool.and_eq_true, decide_eq_true_eq, UInt32.le_iff_toNat_le] at digit
  exact Nat.lt_of_le_of_lt digit.2 (by decide)

theorem ascii_controlSequence {last : Char} (plain : last.toNat < 0x80) (parameter : Option Nat)
    (held : Modifiers) : Ascii (controlSequence parameter last held) := by
  unfold controlSequence
  rw [List.cons_append, List.cons_append, ascii_cons, ascii_cons, ascii_append]
  refine ⟨by decide, by decide, ?_, ascii_singleton plain⟩
  split
  · exact ascii_nil
  · exact ascii_number _
  · rw [String.toList_append, String.toList_append, ascii_append, ascii_append]
    exact ⟨⟨ascii_number _, ascii_singleton (by decide)⟩, ascii_number _⟩

theorem ascii_functionSequence (number : Nat) (held : Modifiers) :
    Ascii (functionSequence number held) := by
  unfold functionSequence
  split
  · rename_i early
    have last : (Char.ofNat ('O'.toNat + number)).toNat < 0x80 := by
      simp only [Bool.and_eq_true, decide_eq_true_eq] at early
      rw [toNat_ofNat_of_lt]
      all_goals
        simp only [Char.reduceToNat]
        omega
    simp only
    split
    · exact ascii_cons.mpr ⟨by decide, ascii_cons.mpr ⟨by decide, ascii_singleton last⟩⟩
    · exact ascii_controlSequence last _ held
  · split
    · split
      · exact ascii_controlSequence (by decide) _ held
      · exact ascii_nil
    · exact ascii_nil

/-! While the control key is held, a letter or one of the signs beside the letters in the table of
characters, in either case, becomes the control character with the same last five bits. So do the
space, the question mark and the tilde. -/

def Foldable (character : Char) : Prop :=
  '@' ≤ character ∧ character ≤ 'z' ∨ character = ' ' ∨ character = '?' ∨ character = '~'

instance (character : Char) : Decidable (Foldable character) :=
  inferInstanceAs (Decidable (_ ∨ _))

theorem toLower_of_foreign {character : Char} (foreign : ¬ character.toNat < 0x80) :
    character.toLower = character := by
  apply dif_neg
  intro letter
  have last : character.toNat ≤ 'Z'.toNat := letter.2
  exact foreign (Nat.lt_of_le_of_lt last (by decide))

theorem controlOf?_eq (character : Char) :
    controlOf? character =
      if Foldable character then some (Char.ofNat (character.toNat % 32)) else none := by
  by_cases plain : character.toNat < 0x80
  · have all : ∀ code < 0x80, controlOf? (Char.ofNat code) =
        if Foldable (Char.ofNat code) then some (Char.ofNat ((Char.ofNat code).toNat % 32))
        else none := by
      decide +kernel
    have one := all character.toNat plain
    rwa [Char.ofNat_toNat] at one
  · have above : ∀ {last : Char}, last.toNat < 0x80 → ¬ character ≤ last :=
      fun low within => plain (Nat.lt_of_le_of_lt within low)
    have other : ∀ {sign : Char}, sign.toNat < 0x80 → character ≠ sign := by
      rintro sign low rfl
      exact plain low
    have apart : ¬ Foldable character := by
      rintro (⟨_, last⟩ | same | same | same)
      · exact above (by decide) last
      · exact other (by decide) same
      · exact other (by decide) same
      · exact other (by decide) same
    have letter : ('a' ≤ character && character ≤ 'z') = false := by
      rw [Bool.and_eq_false_iff]
      exact .inr (decide_eq_false (above (by decide)))
    rw [if_neg apart, controlOf?, toLower_of_foreign plain]
    simp only [letter, Bool.false_eq_true, if_false]
    split
    case h_10 => exact if_neg (by omega)
    all_goals exact absurd rfl (other (by decide))

theorem toNat_folded (code : Nat) : (Char.ofNat (code % 32)).toNat = code % 32 :=
  toNat_ofNat_of_lt (Nat.lt_trans (Nat.mod_lt code (by decide)) (by decide))

theorem toNat_controlOf? {character folded : Char} (found : controlOf? character = some folded) :
    folded.toNat < 0x80 := by
  rw [controlOf?_eq] at found
  split at found
  · cases found
    rw [toNat_folded]
    omega
  · cases found

theorem ascii_or_typed {character sent : Char} {held : Modifiers}
    (member : sent ∈ typed character held) : sent.toNat < 0x80 ∨ sent = character := by
  have folded : ∀ last, last = (if held.control then (controlOf? character).getD character
      else character) → last.toNat < 0x80 ∨ last = character := by
    rintro last rfl
    split
    · cases found : controlOf? character with
      | some control => exact .inl (toNat_controlOf? found)
      | none => exact .inr rfl
    · exact .inr rfl
  simp only [typed] at member
  split at member
  · rcases List.mem_cons.mp member with rfl | last
    · exact .inl (by decide)
    · exact folded sent (List.mem_singleton.mp last)
  · exact folded sent (List.mem_singleton.mp member)

theorem ascii_sequence {press : KeyPress} (untyped : ∀ character, press.cap ≠ .char character) :
    Ascii press.sequence := by
  rcases press with ⟨cap, held⟩
  cases cap with
  | char character => exact absurd rfl (untyped character)
  | function number => exact ascii_functionSequence number.toNat held
  | silent => exact ascii_nil
  | enter | escape => exact ascii_singleton (by decide)
  | backspace =>
      simp only [sequence]
      split
      · exact ascii_cons.mpr ⟨by decide, ascii_singleton (by decide)⟩
      · exact ascii_singleton (by decide)
  | tab =>
      simp only [sequence]
      split
      · apply ascii_controlSequence
        decide
      · exact ascii_singleton (by decide)
  | _ =>
      simp only [sequence]
      apply ascii_controlSequence
      decide

theorem cap_of_not_ascii {press : KeyPress} {character : Char} (member : character ∈ press.sequence)
    (foreign : ¬ character.toNat < 0x80) : press.cap = .char character := by
  by_cases typed : ∃ other, press.cap = .char other
  · rcases typed with ⟨other, cap⟩
    rw [sequence, cap] at member
    rcases ascii_or_typed member with plain | same
    · exact absurd plain foreign
    · rw [cap, same]
  · have plain := ascii_sequence fun other cap => typed ⟨other, cap⟩
    exact absurd (plain character member) foreign

/-! ## What is read -/

theorem codes_keypad_off (press : KeyPress) :
    press.codes false = press.sequence.map Char.toNat := rfl

theorem codes_keypad_on (press : KeyPress) :
    press.codes true =
      match press.special? with
      | some key => [key.code]
      | none => press.codes false := by
  cases special : press.special? with
  | some key => simp only [codes, special]
  | none => simp only [codes, special]

theorem decode_codes (press : KeyPress) :
    (press.codes true).map KeyTable.standard.decode =
      match press.special? with
      | some key => [.special key]
      | none => press.sequence.map .char := by
  rw [codes_keypad_on]
  cases press.special? with
  | some key => rw [List.map_singleton, KeyTable.decode_special]
  | none =>
      rw [codes_keypad_off, List.map_map]
      exact List.map_congr_left fun character _ => KeyTable.decode_toNat character

/-- The alternate key puts an escape in front of what is typed, and the control key folds it if it
can be folded. No other key that is held matters, and neither does the keypad. -/
theorem codes_typed {press : KeyPress} {character : Char} (cap : press.cap = .char character)
    (keypad : Bool) :
    press.codes keypad =
      (if press.held.alt then [0x1B] else []) ++
        [if press.held.control ∧ Foldable character then character.toNat % 32
          else character.toNat] := by
  have ordinary : press.special? = none := by rw [special?, cap]
  have folded : (if press.held.control then (controlOf? character).getD character
      else character).toNat =
        if press.held.control ∧ Foldable character then character.toNat % 32
          else character.toNat := by
    cases press.held.control with
    | false => simp
    | true =>
        rw [controlOf?_eq]
        by_cases foldable : Foldable character
        · simp [foldable, toNat_folded]
        · simp [foldable]
  have same : press.codes keypad = press.sequence.map Char.toNat := by
    cases keypad with
    | false => rfl
    | true => rw [codes_keypad_on, ordinary, codes_keypad_off]
  rw [same, sequence, cap]
  simp only [typed]
  rw [← folded]
  cases press.held.alt <;> rfl

/-- Keys decode to what was pressed. A window that tells special keys apart reads one code for a
special key, and else what any window reads. That is characters only, which a read that does not
tell special keys apart returns as they are, and a replacement character only if it was typed. A
typed character is read as itself, folded by the control key and behind an escape for the alternate
key. -/
theorem presses_are_decoded (press : KeyPress) :
    press.codes true =
      (match press.special? with
        | some key => [key.code]
        | none => press.codes false) ∧
    (∀ code ∈ press.codes false, code.isValidChar ∧ code.isSpecial = false ∧
      ∃ character : Char, character.toNat = code ∧
        (∀ (shape : ReadShape) (keys : KeyTable), shape.keypad = false →
          ∃ value, shape.decode (some code) keys = some value ∧
            (shape.wrap value).pressed? = some (.char character)) ∧
        (character = '\uFFFD' → press.cap = .char '\uFFFD')) ∧
    (press.codes true).map KeyTable.standard.decode =
      (match press.special? with
        | some key => [.special key]
        | none => press.sequence.map .char) ∧
    (∀ key, .special key ∈ (press.codes true).map KeyTable.standard.decode ↔
      press.special? = some key) ∧
    ∀ character keypad, press.cap = .char character →
      press.codes keypad =
        (if press.held.alt then [0x1B] else []) ++
          [if press.held.control ∧ Foldable character then character.toNat % 32
            else character.toNat] := by
  refine ⟨codes_keypad_on press, ?_, decode_codes press, ?_,
    fun _ keypad cap => codes_typed cap keypad⟩
  · intro code member
    rcases List.mem_map.mp member with ⟨character, sent, rfl⟩
    have below := Code.lt_specialBase (Code.valid_toNat character)
    refine ⟨Code.valid_toNat character, ?_, character, rfl, ?_, ?_⟩
    · exact decide_eq_false (Nat.not_le.mpr below)
    · intro shape keys plain
      exact ReadShape.decode_plain plain character keys
    · rintro rfl
      exact cap_of_not_ascii sent (by decide)
  · intro key
    rw [decode_codes]
    cases press.special? with
    | some other => simp [eq_comm]
    | none => simp

/-- The control key held with an arrow makes a longer sequence, and the same special key. -/
theorem control_left_is_decoded :
    let press : KeyPress := { cap := .left, held := { control := true } }
    press.sequence = [escape, '[', '1', ';', '5', 'D'] ∧ 'D'.toNat ∈ press.codes false ∧
      Nat.isValidChar 'D'.toNat ∧
      (press.codes true).map KeyTable.standard.decode = [.special .left] := by
  intro press
  have sequence : press.sequence = [escape, '[', '1', ';', '5', 'D'] := by decide +kernel
  have member : 'D'.toNat ∈ press.codes false := by decide +kernel
  have decoded := presses_are_decoded press
  exact ⟨sequence, member, (decoded.2.1 _ member).1, decoded.2.2.1⟩

end TerminalSession.KeyPress
