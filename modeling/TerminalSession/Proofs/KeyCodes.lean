import Mathlib.Data.List.Nodup
import TerminalSession.Input

/-! # Codes stand for keys

Codes come in three bands: the code points, above them the codes of the special keys with names, and
above those the function keys. No two keys share a code, so a key can be told from its code. -/

namespace TerminalSession

/-! ## The codes of keys -/

namespace SpecialKey

theorem named_or_function (key : SpecialKey) :
    key ∈ named ∨ ∃ number, key = function number := by
  cases key with
  | function number => exact .inr ⟨number, rfl⟩
  | _ => exact .inl (by decide)

theorem mem_all (key : SpecialKey) : key ∈ all := by
  rw [all, List.mem_append]
  rcases key.named_or_function with member | ⟨number, rfl⟩
  · exact .inl member
  · apply Or.inr
    apply List.mem_map.mpr
    exact ⟨number.toNat, List.mem_range.mpr number.toNat_lt, by rw [UInt8.ofNat_toNat]⟩

theorem code_of_named :
    ∀ key ∈ named, Code.specialBase ≤ key.code ∧ key.code < Code.functionBase := by
  decide +kernel

theorem functionBase_le (number : UInt8) : Code.functionBase ≤ (function number).code :=
  Nat.le_add_right _ _

theorem code_bounds (key : SpecialKey) :
    Code.specialBase ≤ key.code ∧ key.code < Code.functionBase + 256 := by
  rcases key.named_or_function with member | ⟨number, rfl⟩
  · have bounds := code_of_named key member
    exact ⟨bounds.1, Nat.lt_add_right 256 bounds.2⟩
  · have base : Code.specialBase ≤ Code.functionBase := Nat.le_add_right _ _
    exact ⟨Nat.le_trans base (functionBase_le number), Nat.add_lt_add_left number.toNat_lt _⟩

theorem code_injective : Function.Injective code := by
  intro first second same
  rcases first.named_or_function with member | ⟨number, rfl⟩
  · rcases second.named_or_function with member' | ⟨number', rfl⟩
    · have distinct : (named.map code).Nodup := by decide +kernel
      exact List.inj_on_of_nodup_map distinct member member' same
    · have below := (code_of_named first member).2
      exact absurd (same ▸ functionBase_le number') (Nat.not_le.mpr below)
  · rcases second.named_or_function with member' | ⟨number', rfl⟩
    · have below := (code_of_named second member').2
      exact absurd (same ▸ functionBase_le number) (Nat.not_le.mpr below)
    · have numbers : number.toNat = number'.toNat := Nat.add_left_cancel same
      exact congrArg function (UInt8.toNat_inj.mp numbers)

end SpecialKey

theorem Code.toNat_ofNat {code : Code} (valid : code.isValidChar) :
    (Char.ofNat code).toNat = code := by
  rw [Char.ofNat, dif_pos valid]
  rfl

theorem Code.character_of_valid {code : Code} (valid : code.isValidChar) :
    code.character.toNat = code := by
  rw [character, if_pos valid, toNat_ofNat valid]

theorem Code.character_of_invalid {code : Code} (invalid : ¬ code.isValidChar) :
    code.character = '\uFFFD' := if_neg invalid

theorem Code.lt_specialBase {code : Code} (valid : code.isValidChar) : code < specialBase := by
  rcases valid with low | high
  · exact Nat.lt_trans low (by decide)
  · exact high.2

theorem Code.valid_toNat (character : Char) : Nat.isValidChar character.toNat := character.valid

theorem Code.character_toNat (character : Char) : Code.character character.toNat = character := by
  rw [Code.character, if_pos (valid_toNat character), Char.ofNat_toNat]

theorem SpecialKey.code_invalid (key : SpecialKey) : ¬ key.code.isValidChar := by
  intro valid
  exact Nat.not_le.mpr (Code.lt_specialBase valid) key.code_bounds.1

theorem SpecialKey.toNat_ne_code (key : SpecialKey) (character : Char) :
    character.toNat ≠ key.code := by
  intro same
  have valid := Code.valid_toNat character
  rw [same] at valid
  exact key.code_invalid valid

theorem Key.code_lt (key : Key) : key.code < UInt32.size := by
  cases key with
  | char character =>
      exact Nat.lt_trans (Code.lt_specialBase (Code.valid_toNat character)) (by decide)
  | special key => exact Nat.lt_trans key.code_bounds.2 (by decide)

/-! ## Looking codes up

The last entry for a code counts, and the standard table has every special key under its own code
and nothing else. -/

namespace KeyTable

theorem lookup_filter_of_ne {code other : Code} (different : other ≠ code)
    (entries : List (Code × SpecialKey)) :
    (entries.filter (·.1 ≠ code)).lookup other = entries.lookup other := by
  induction entries with
  | nil => rfl
  | cons entry rest induction =>
      by_cases replaced : entry.1 = code
      · have passed : (other == entry.1) = false := by simpa [replaced] using different
        rw [List.filter_cons_of_neg (by simpa using replaced), induction, List.lookup_cons, passed]
      · rw [List.filter_cons_of_pos (by simpa using replaced), List.lookup_cons, List.lookup_cons,
          induction]

theorem lookup_insert (table : KeyTable) (code other : Code) (key : SpecialKey) :
    (table.insert code key).lookup other =
      if other = code then some key else table.lookup other := by
  by_cases same : other = code
  · rw [if_pos same, same]
    exact List.lookup_cons_self
  · have passed : (other == code) = false := by simpa using same
    rw [if_neg same, lookup, insert, List.lookup_cons, passed]
    exact lookup_filter_of_ne same table.entries

theorem lookup_ofList (entries : List (Code × SpecialKey)) (code : Code) :
    (ofList entries).lookup code = entries.reverse.lookup code := by
  have extended : ∀ table : KeyTable,
      (entries.foldl (fun table entry => table.insert entry.1 entry.2) table).lookup code =
        (entries.reverse.lookup code).or (table.lookup code) := by
    induction entries with
    | nil => exact fun table => rfl
    | cons entry rest induction =>
        intro table
        rw [List.foldl_cons, induction, lookup_insert, List.reverse_cons, List.lookup_append,
          Option.or_assoc, List.lookup_cons]
        by_cases same : code = entry.1
        · simp [same]
        · have passed : (code == entry.1) = false := by simpa using same
          simp [same, passed]
  exact (extended empty).trans Option.or_none

theorem lookup_map_code (keys : List SpecialKey) (code : Code) (key : SpecialKey) :
    (keys.map fun key => (key.code, key)).lookup code = some key ↔ key ∈ keys ∧ code = key.code := by
  induction keys with
  | nil => simp
  | cons first rest induction =>
      rw [List.map_cons, List.lookup_cons, List.mem_cons]
      by_cases same : code = first.code
      · subst same
        simp only [beq_self_eq_true, Option.some.injEq]
        constructor
        · intro equal
          exact ⟨.inl equal.symm, congrArg SpecialKey.code equal⟩
        · intro found
          exact SpecialKey.code_injective found.2
      · have passed : (code == first.code) = false := by simpa using same
        rw [passed, induction]
        constructor
        · intro found
          exact ⟨.inr found.1, found.2⟩
        · rintro ⟨rfl | later, equal⟩
          · exact absurd equal same
          · exact ⟨later, equal⟩

theorem lookup_standard (code : Code) (key : SpecialKey) :
    standard.lookup code = some key ↔ code = key.code := by
  rw [standard, lookup_ofList, ← List.map_reverse, lookup_map_code]
  exact and_iff_right (List.mem_reverse.mpr key.mem_all)

theorem lookup_standard_eq_none_iff (code : Code) :
    standard.lookup code = none ↔ ∀ key : SpecialKey, code ≠ key.code := by
  rw [Option.eq_none_iff_forall_ne_some]
  exact forall_congr' fun key => not_congr (lookup_standard code key)

theorem decode_special (key : SpecialKey) : standard.decode key.code = .special key := by
  rw [decode, (lookup_standard key.code key).mpr rfl]

theorem decode_of_unassigned {code : Code} (unassigned : ∀ key : SpecialKey, code ≠ key.code) :
    standard.decode code = .char code.character := by
  rw [decode, (lookup_standard_eq_none_iff code).mpr unassigned]

theorem decode_toNat (character : Char) : standard.decode character.toNat = .char character := by
  have unassigned := fun key : SpecialKey => key.toNat_ne_code character
  rw [decode_of_unassigned unassigned, Code.character_toNat]

theorem decode_code (key : Key) : standard.decode key.code = key := by
  cases key with
  | char character => exact decode_toNat character
  | special key => exact decode_special key

theorem decode_eq_special_iff {code : Code} {key : SpecialKey} :
    standard.decode code = .special key ↔ code = key.code := by
  constructor
  · intro decoded
    rw [decode] at decoded
    split at decoded
    · rename_i found
      cases decoded
      exact (lookup_standard code key).mp found
    · cases decoded
  · rintro rfl
    exact decode_special key

/-- A code is decoded to a character that has this code exactly if it is a code point. -/
theorem decode_eq_char_iff {code : Code} :
    (∃ character, standard.decode code = .char character ∧ (Key.char character).code = code) ↔
      code.isValidChar := by
  constructor
  · rintro ⟨character, _, rfl⟩
    exact character.valid
  · intro valid
    have same := Code.character_of_valid valid
    refine ⟨code.character, ?_, same⟩
    rw [← decode_toNat, same]

end KeyTable

/-! ## What reads make of a character -/

theorem ReadShape.decode_plain {shape : ReadShape} (plain : shape.keypad = false)
    (character : Char) (keys : KeyTable) :
    ∃ value, shape.decode (some character.toNat) keys = some value ∧
      (shape.wrap value).pressed? = some (.char character) := by
  have same := Code.character_toNat character
  cases shape with
  | char => exact ⟨character, congrArg some same, rfl⟩
  | maybeChar => exact ⟨some character, congrArg (some ∘ some) same, rfl⟩
  | key | maybeKey => cases plain

theorem ReadShape.decode_toNat (shape : ReadShape) (character : Char) :
    ∃ value, shape.decode (some character.toNat) .standard = some value ∧
      (shape.wrap value).pressed? = some (.char character) := by
  have same := KeyTable.decode_toNat character
  cases shape with
  | char | maybeChar => exact decode_plain rfl character .standard
  | key => exact ⟨.char character, congrArg some same, rfl⟩
  | maybeKey => exact ⟨some (.char character), congrArg (some ∘ some) same, rfl⟩

/-- Keys and codes stand for each other without loss. Every code that no key has, be it half of a
pair of surrogates or a number above the code points, shows as the replacement character. A character
is read as itself whatever the shape of the read, and never taken for a special key. -/
theorem codes_stand_for_keys :
    (∀ key : Key, KeyTable.standard.decode key.code = key ∧ key.code < UInt32.size) ∧
    Function.Injective Key.code ∧
    (∀ code : Code,
      (∀ key, KeyTable.standard.decode code = .special key ↔ code = key.code) ∧
      ((∃ character, KeyTable.standard.decode code = .char character ∧
        (Key.char character).code = code) ↔ code.isValidChar) ∧
      ((∀ key : Key, code ≠ key.code) → KeyTable.standard.decode code = .char '\uFFFD')) ∧
    ∀ (character : Char) (shape : ReadShape),
      ∃ value, shape.decode (some (Key.char character).code) .standard = some value ∧
        shape.resolve (some (Key.char character).code) .standard = some (shape.wrap value) ∧
        (shape.wrap value).pressed? = some (.char character) := by
  refine ⟨?_, Function.LeftInverse.injective KeyTable.decode_code, ?_, ?_⟩
  · intro key
    exact ⟨KeyTable.decode_code key, key.code_lt⟩
  · intro code
    refine ⟨fun key => KeyTable.decode_eq_special_iff, KeyTable.decode_eq_char_iff, ?_⟩
    intro foreign
    have invalid : ¬ code.isValidChar := by
      intro valid
      exact foreign (.char code.character) (Code.character_of_valid valid).symm
    rw [KeyTable.decode_of_unassigned fun key => foreign (.special key),
      Code.character_of_invalid invalid]
  · intro character shape
    rcases shape.decode_toNat character with ⟨value, decoded, pressed⟩
    exact ⟨value, decoded, congrArg (Option.map shape.wrap) decoded, pressed⟩

/-- The first number above the code points belongs to no key. -/
theorem first_special_code_is_replaced :
    (∀ key : Key, Code.specialBase ≠ key.code) ∧
      KeyTable.standard.decode Code.specialBase = .char '\uFFFD' := by
  have unnamed : ∀ key ∈ SpecialKey.named, Code.specialBase ≠ key.code := by decide +kernel
  have foreign : ∀ key : Key, Code.specialBase ≠ key.code := by
    intro key
    cases key with
    | char character => exact Nat.ne_of_gt (Code.lt_specialBase (Code.valid_toNat character))
    | special key =>
        rcases key.named_or_function with member | ⟨number, rfl⟩
        · exact unnamed key member
        · exact Nat.ne_of_lt (Nat.lt_of_lt_of_le (by decide) (SpecialKey.functionBase_le number))
  exact ⟨foreign, (codes_stand_for_keys.2.2.1 Code.specialBase).2.2 foreign⟩

end TerminalSession
