import TerminalSession.Toml.Document

/-! # Texts are read back from between their quotes

What stands between quotes spells a text character by character: as it is, or by an escape. Reading
follows the spelling. The quotes that are part of the text are the difficulty: there may be so few
of them in a row only that the quotes behind the text are the first to end it. -/

namespace TerminalSession.Toml.Quoting

open Text (apostrophe)

/-! ## Runs of quotes -/

def leading (quote : Char) (characters : List Char) : Nat :=
  (characters.takeWhile (· = quote)).length

variable {quote character : Char} {severalLines : Bool} {content written rest : List Char}

theorem leading_cons_self (written : List Char) :
    leading quote (quote :: written) = leading quote written + 1 := by
  simp [leading]

theorem leading_cons_of_ne (different : character ≠ quote) (written : List Char) :
    leading quote (character :: written) = 0 := by
  simp [leading, different]

theorem leading_le_length (quote : Char) (written : List Char) :
    leading quote written ≤ written.length :=
  (List.takeWhile_prefix _).length_le

theorem eq_replicate_of_leading (every : leading quote written = written.length) :
    written = List.replicate written.length quote := by
  induction written with
  | nil => rfl
  | cons character written induction =>
      by_cases same : character = quote
      · subst same
        rw [leading_cons_self, List.length_cons, Nat.add_right_cancel_iff] at every
        rw [List.length_cons, List.replicate_succ, ← induction every]
      · rw [leading_cons_of_ne same] at every
        cases every

theorem leading_append_of_lt (fewer : leading quote written < written.length) (rest : List Char) :
    leading quote (written ++ rest) = leading quote written := by
  induction written with
  | nil => cases fewer
  | cons character written induction =>
      by_cases same : character = quote
      · subst same
        rw [List.cons_append, leading_cons_self, leading_cons_self,
          induction (by simpa [leading_cons_self] using fewer)]
      · rw [List.cons_append, leading_cons_of_ne same, leading_cons_of_ne same]

theorem leading_replicate_append (fresh : ∀ next ∈ rest.head?, next ≠ quote) (count : Nat) :
    leading quote (List.replicate count quote ++ rest) = count := by
  induction count with
  | zero =>
      cases rest with
      | nil => rfl
      | cons next rest => exact leading_cons_of_ne (fresh next rfl) rest
  | succ count induction =>
      rw [List.replicate_succ, List.cons_append, leading_cons_self, induction]

theorem closing?_eq (quote : Char) (characters : List Char) :
    closing? quote characters =
      if 3 ≤ leading quote characters then some (min (leading quote characters) 5) else none :=
  rfl

/-! ## Spelling

The letter of an escape is not blank, so its line goes on. -/

def most (severalLines : Bool) : Nat := if severalLines then 2 else 0

/-- What stands between quotes of this kind and the text that it is read as. -/
inductive Spells (quote : Char) (severalLines : Bool) : List Char → List Char → Prop
  | nil : Spells quote severalLines [] []
  | plain {character : Char} {content written : List Char}
      (plain : Reader.isPlain character = true) (straight : character = '\\' → quote ≠ '"')
      (few : leading quote (character :: written) ≤ most severalLines)
      (spells : Spells quote severalLines content written) :
      Spells quote severalLines (character :: content) (character :: written)
  | newline {content written : List Char} (several : severalLines = true)
      (spells : Spells quote severalLines content written) :
      Spells quote severalLines ('\n' :: content) ('\n' :: written)
  | escape {character : Char} {content written letters : List Char} (double : quote = '"')
      (stands : ∀ rest, escaped (letters ++ rest) = some (character, rest))
      (spells : Spells quote severalLines content written) :
      Spells quote severalLines (character :: content) ('\\' :: (letters ++ written))

def IsQuote (quote : Char) : Prop := quote = '"' ∨ quote = apostrophe

theorem IsQuote.ne_newline (known : IsQuote quote) : '\n' ≠ quote := by
  rcases known with rfl | rfl <;> decide

theorem IsQuote.ne_backslash (known : IsQuote quote) : '\\' ≠ quote := by
  rcases known with rfl | rfl <;> decide

theorem line_quote (quote : Char) (rest : List Char) :
    line quote (quote :: rest) = some ([], rest) := by
  rw [line, if_pos rfl]

theorem line_escape {letters : List Char}
    (stands : escaped letters = some (character, rest)) :
    line '"' ('\\' :: letters) = before character (line '"' rest) := by
  rw [line, if_neg (by decide), if_pos (by decide)]
  split
  · rename_i meant others found
    rw [stands] at found
    cases found
    rfl
  · rename_i missing
    rw [stands] at missing
    cases missing

theorem line_plain (different : character ≠ quote) (plain : Reader.isPlain character = true)
    (straight : character = '\\' → quote ≠ '"') (rest : List Char) :
    line quote (character :: rest) = before character (line quote rest) := by
  have unescaped : ¬ (character = '\\' && quote = '"') = true := by
    simpa using straight
  rw [line, if_neg different, if_neg unescaped, if_pos plain]

/-- A text on one line ends with the first quote that is not part of an escape. -/
theorem line_of_spells (spells : Spells quote false content written) (rest : List Char) :
    line quote (written ++ quote :: rest) = some (content, rest) := by
  induction spells with
  | nil => exact line_quote quote rest
  | @plain character content written plain straight few spells induction =>
      have different : character ≠ quote := by
        rintro rfl
        rw [leading_cons_self] at few
        cases few
      rw [List.cons_append, line_plain different plain straight, induction]
      rfl
  | newline several => cases several
  | escape double stands spells induction =>
      subst double
      rw [List.cons_append, List.append_assoc, line_escape (stands _), induction]
      rfl

/-! ## Several lines

As long as no more than two quotes follow each other, there are never enough to end a text. The last
of the quotes end it, and those before them are part of it. -/

theorem leading_le_most (known : IsQuote quote)
    (spells : Spells quote severalLines content written) :
    leading quote written ≤ most severalLines := by
  cases spells with
  | nil => exact Nat.zero_le _
  | plain plain straight few spells => exact few
  | newline several spells =>
      rw [leading_cons_of_ne known.ne_newline]
      exact Nat.zero_le _
  | escape double stands spells =>
      rw [leading_cons_of_ne known.ne_backslash]
      exact Nat.zero_le _

theorem content_of_leading (known : IsQuote quote)
    (spells : Spells quote severalLines content written)
    (every : leading quote written = written.length) : content = written := by
  induction spells with
  | nil => rfl
  | @plain character content written plain straight few spells induction =>
      by_cases same : character = quote
      · subst same
        rw [leading_cons_self, List.length_cons, Nat.add_right_cancel_iff] at every
        rw [induction every]
      · rw [leading_cons_of_ne same] at every
        cases every
  | newline several spells =>
      rw [leading_cons_of_ne known.ne_newline] at every
      cases every
  | escape double stands spells =>
      rw [leading_cons_of_ne known.ne_backslash] at every
      cases every

theorem isPlain_newline : Reader.isPlain '\n' = false := by decide

theorem isPlain_return : Reader.isPlain '\r' = false := by decide

theorem newline?_cons_of_ne (other : character ≠ '\n') (visible : character ≠ '\r')
    (rest : List Char) : Reader.newline? (character :: rest) = none := by
  unfold Reader.newline?
  split
  · rename_i same
    cases same
    exact absurd rfl other
  · rename_i same
    cases same
    exact absurd rfl visible
  · rfl

theorem newline?_cons_of_isPlain (plain : Reader.isPlain character = true) (rest : List Char) :
    Reader.newline? (character :: rest) = none := by
  apply newline?_cons_of_ne
  · rintro rfl
    rw [isPlain_newline] at plain
    cases plain
  · rintro rfl
    rw [isPlain_return] at plain
    cases plain

theorem continuation?_of_escaped {letters : List Char}
    (stands : escaped letters = some (character, rest)) : continuation? letters = none := by
  unfold escaped at stands
  split at stands
  case h_10 => cases stands
  all_goals rfl

theorem block_plain (unended : closing? quote (character :: rest) = none)
    (plain : Reader.isPlain character = true) (straight : character = '\\' → quote ≠ '"') :
    block quote (character :: rest) = before character (block quote rest) := by
  have unescaped : ¬ (character = '\\' && quote = '"') = true := by
    simpa using straight
  rw [block, unended]
  dsimp only
  rw [if_neg unescaped]
  split
  · rename_i others ended
    rw [newline?_cons_of_isPlain plain] at ended
    cases ended
  · rw [if_pos plain]

theorem block_newline (unended : closing? quote ('\n' :: rest) = none) :
    block quote ('\n' :: rest) = before '\n' (block quote rest) := by
  rw [block, unended]
  dsimp only
  rw [if_neg (by simp)]
  rfl

theorem block_escape {letters : List Char}
    (stands : escaped letters = some (character, rest)) :
    block '"' ('\\' :: letters) = before character (block '"' rest) := by
  have unended : closing? '"' ('\\' :: letters) = none := by
    rw [closing?_eq, leading_cons_of_ne (by decide)]
    rfl
  rw [block, unended]
  dsimp only
  rw [if_pos (by decide)]
  split
  · rename_i others hidden
    rw [continuation?_of_escaped stands] at hidden
    cases hidden
  · split
    · rename_i meant others found
      rw [stands] at found
      cases found
      rfl
    · rename_i missing
      rw [stands] at missing
      cases missing

theorem closing?_of_lt (fewer : leading quote written < written.length)
    (few : leading quote written ≤ 2) (rest : List Char) :
    closing? quote (written ++ rest) = none := by
  rw [closing?_eq, leading_append_of_lt fewer, if_neg (by omega)]

theorem block_quotes (fresh : ∀ next ∈ rest.head?, next ≠ quote) {count : Nat} (few : count ≤ 2) :
    block quote (List.replicate (count + 3) quote ++ rest) =
      some (List.replicate count quote, rest) := by
  have ended : closing? quote (List.replicate (count + 3) quote ++ rest) = some (count + 3) := by
    rw [closing?_eq, leading_replicate_append fresh, if_pos (by omega), Nat.min_eq_left (by omega)]
  have dropped : (List.replicate (count + 3) quote ++ rest).drop (count + 3) = rest :=
    List.drop_left' List.length_replicate
  have first : List.replicate (count + 3) quote ++ rest =
      quote :: (List.replicate (count + 2) quote ++ rest) := rfl
  rw [first] at ended dropped ⊢
  rw [block, ended]
  dsimp only
  rw [dropped, Nat.add_sub_cancel]

/-- A text of several lines ends with the first three quotes that no quote follows. -/
theorem block_of_spells (known : IsQuote quote) (spells : Spells quote true content written)
    (fresh : ∀ next ∈ rest.head?, next ≠ quote) :
    block quote (written ++ (List.replicate 3 quote ++ rest)) = some (content, rest) := by
  induction spells with
  | nil => exact block_quotes fresh (Nat.zero_le 2)
  | @plain character content written plain straight few spells induction =>
      have whole : Spells quote true (character :: content) (character :: written) :=
        .plain plain straight few spells
      rcases Nat.lt_or_eq_of_le (leading_le_length quote (character :: written)) with fewer | every
      · have unended := closing?_of_lt fewer few (List.replicate 3 quote ++ rest)
        rw [List.cons_append] at unended ⊢
        rw [block_plain unended plain straight, induction]
        rfl
      · -- The quotes at the end of the text run on into those behind it.
        rw [content_of_leading known whole every, eq_replicate_of_leading every, ← List.append_assoc,
          List.replicate_append_replicate]
        rw [every] at few
        exact block_quotes fresh few
  | @newline content written several spells induction =>
      have unended :
          closing? quote ('\n' :: (written ++ (List.replicate 3 quote ++ rest))) = none := by
        rw [closing?_eq, leading_cons_of_ne known.ne_newline]
        rfl
      rw [List.cons_append, block_newline unended, induction]
      rfl
  | escape double stands spells induction =>
      subst double
      rw [List.cons_append, List.append_assoc, block_escape (stands _), induction]
      rfl

/-! ## Between the quotes

One quote starts a text on one line, unless two more follow it. The line end behind three first
quotes is needed only if the text itself starts with one. -/

theorem text_line (known : IsQuote quote) {characters : List Char}
    (single : ¬ [quote, quote] <+: characters) :
    text (quote :: characters) = line quote characters := by
  have isQuote : quote = '"' ∨ quote = apostrophe := known
  match characters with
  | [] => simp [text, isQuote]
  | [second] => simp [text, isQuote]
  | second :: third :: rest =>
      have apart : ¬ (second = quote ∧ third = quote) := by
        rintro ⟨rfl, rfl⟩
        exact single ⟨rest, rfl⟩
      have accepted : ¬ (quote ≠ '"' && quote ≠ apostrophe) = true := by
        rcases known with rfl | rfl <;> decide
      rw [text, if_neg accepted, if_neg (by simpa using apart)]

theorem text_block (known : IsQuote quote) (characters : List Char) :
    text (quote :: quote :: quote :: characters) =
      block quote ((Reader.newline? characters).getD characters) := by
  have accepted : ¬ (quote ≠ '"' && quote ≠ apostrophe) = true := by
    rcases known with rfl | rfl <;> decide
  rw [text, if_neg accepted, if_pos (by simp)]

def Fresh (rest : List Char) : Prop := ∀ next ∈ rest.head?, next ≠ '"' ∧ next ≠ apostrophe

theorem Fresh.ne (fresh : Fresh rest) (known : IsQuote quote) :
    ∀ next ∈ rest.head?, next ≠ quote := by
  intro next first
  rcases known with rfl | rfl
  · exact (fresh next first).1
  · exact (fresh next first).2

theorem text_of_spells_line (known : IsQuote quote) (spells : Spells quote false content written)
    (startsLine : Bool) (fresh : Fresh rest) :
    text (enclose quote false startsLine written ++ rest) = some (content, rest) := by
  have shape : enclose quote false startsLine written ++ rest =
      quote :: (written ++ quote :: rest) := by simp [enclose]
  have single : ¬ [quote, quote] <+: written ++ quote :: rest := by
    rintro ⟨others, same⟩
    have few : leading quote written ≤ 0 := leading_le_most known spells
    cases written with
    | nil =>
        have next : quote ∈ rest.head? := by
          rw [← (List.cons.inj same).2]
          rfl
        exact fresh.ne known quote next rfl
    | cons character written =>
        rw [← (List.cons.inj same).1, leading_cons_self] at few
        cases few
  rw [shape, text_line known single, line_of_spells spells]

theorem newline?_of_spells (known : IsQuote quote) (spells : Spells quote true content written)
    (single : '\n' ∉ content) (rest : List Char) :
    Reader.newline? (written ++ quote :: rest) = none := by
  cases spells with
  | nil =>
      apply newline?_cons_of_ne known.ne_newline.symm
      rcases known with rfl | rfl <;> decide
  | plain plain => exact newline?_cons_of_isPlain plain _
  | newline => exact absurd List.mem_cons_self single
  | escape => exact newline?_cons_of_ne (by decide) (by decide) _

theorem text_of_spells_block (known : IsQuote quote) (spells : Spells quote true content written)
    {startsLine : Bool} (starts : '\n' ∈ content → startsLine = true) (fresh : Fresh rest) :
    text (enclose quote true startsLine written ++ rest) = some (content, rest) := by
  have read := block_of_spells known spells (fresh.ne known)
  cases startsLine with
  | true =>
      have shape : enclose quote true true written ++ rest =
          quote :: quote :: quote :: '\n' :: (written ++ (List.replicate 3 quote ++ rest)) := by
        simp [enclose, List.replicate]
      rw [shape, text_block known]
      exact read
  | false =>
      have single : '\n' ∉ content := fun member => nomatch starts member
      have shape : enclose quote true false written ++ rest =
          quote :: quote :: quote :: (written ++ (List.replicate 3 quote ++ rest)) := by
        simp [enclose, List.replicate]
      have inLine : Reader.newline? (written ++ (List.replicate 3 quote ++ rest)) = none :=
        newline?_of_spells known spells single _
      rw [shape, text_block known, inLine]
      exact read

/-! ## What is written between the quotes

More letters may follow a number of so many digits. -/

theorem appendDigits_append {base count start number : Nat} {letters : List Char}
    (read : Reader.appendDigits base count start letters = some (number, rest))
    (more : List Char) :
    Reader.appendDigits base count start (letters ++ more) = some (number, rest ++ more) := by
  induction count generalizing start letters with
  | zero =>
      cases read
      rfl
  | succ count induction =>
      cases letters with
      | nil => cases read
      | cons next letters =>
          rw [Reader.appendDigits] at read
          rw [List.cons_append, Reader.appendDigits]
          split at read
          · exact induction read
          · cases read

theorem toNat_lt_of_not_isPlain (control : Reader.isPlain character = false) :
    character.toNat < 128 := by
  simp only [Reader.isPlain, Bool.or_eq_false_iff, Bool.and_eq_false_iff,
    decide_eq_false_iff_not, Decidable.not_not] at control
  omega

theorem controlDigits_read : ∀ code < 128,
    Reader.number 16 4 (controlDigits (Char.ofNat code)) = some (code, []) := by
  decide +kernel

theorem escaped_control (control : Reader.isPlain character = false) (rest : List Char) :
    escaped ('u' :: controlDigits character ++ rest) = some (character, rest) := by
  have digits := controlDigits_read character.toNat (toNat_lt_of_not_isPlain control)
  rw [Char.ofNat_toNat] at digits
  have read : Reader.number 16 4 (controlDigits character ++ rest) =
      some (character.toNat, rest) := appendDigits_append digits rest
  rw [List.cons_append, escaped, numbered, read]
  have valid : character.toNat.isValidChar := character.valid
  dsimp only
  rw [if_pos valid, Char.ofNat_toNat]

theorem spells_letter {letter : Char}
    (stands : ∀ rest, escaped (letter :: rest) = some (character, rest))
    (spells : Spells '"' severalLines content written) :
    Spells '"' severalLines (character :: content) (['\\', letter] ++ written) :=
  have behind : ∀ rest, escaped ([letter] ++ rest) = some (character, rest) := stands
  .escape rfl behind spells

theorem spells_escape (different : character ≠ '"')
    (spells : Spells '"' severalLines content written) :
    Spells '"' severalLines (character :: content) (escape severalLines character ++ written) := by
  unfold escape
  split
  case h_3 =>
    cases severalLines with
    | true => exact .newline rfl spells
    | false => exact spells_letter (fun _ => rfl) spells
  case h_6 => exact absurd rfl different
  case h_8 backspace tab newline feed carriage double backslash =>
    by_cases control : needsEscape character = true
    · have hidden : Reader.isPlain character = false := by
        simp only [needsEscape, Bool.and_eq_true, Bool.not_eq_true'] at control
        exact control.1
      rw [if_pos control]
      exact .escape rfl (escaped_control hidden) spells
    · have plain : Reader.isPlain character = true := by
        cases shown : Reader.isPlain character with
        | true => rfl
        | false =>
            have other : character ≠ '\n' := newline
            exact absurd (by simp [needsEscape, shown, other]) control
      rw [if_neg control]
      refine .plain plain (fun same => absurd same backslash) ?_ spells
      rw [leading_cons_of_ne different]
      exact Nat.zero_le _
  all_goals exact spells_letter (fun _ => rfl) spells

theorem leading_escape (different : character ≠ '"') (written : List Char) :
    leading '"' (escape severalLines character ++ written) = 0 := by
  unfold escape
  split
  case h_3 => cases severalLines <;> exact leading_cons_of_ne (by decide) _
  case h_6 => exact absurd rfl different
  case h_8 =>
    split
    · exact leading_cons_of_ne (by decide) _
    · exact leading_cons_of_ne different _
  all_goals exact leading_cons_of_ne (by decide) _

/-- Between double quotes every text can be written. -/
theorem spells_escapeAll (severalLines : Bool) (content : List Char) {allowed : Nat}
    (few : allowed ≤ most severalLines) :
    Spells '"' severalLines content (escapeAll severalLines allowed content) ∧
      leading '"' (escapeAll severalLines allowed content) ≤ allowed := by
  induction content generalizing allowed with
  | nil => exact ⟨.nil, Nat.zero_le _⟩
  | cons character content induction =>
      have others := induction (Nat.le_refl (most severalLines))
      by_cases double : character = '"'
      · subst double
        cases allowed with
        | zero =>
            rw [escapeAll, if_pos rfl]
            refine ⟨spells_letter (fun _ => rfl) others.1, ?_⟩
            exact Nat.le_of_eq (leading_cons_of_ne (by decide) _)
        | succ allowed =>
            rw [escapeAll, if_pos rfl]
            have next := induction (Nat.le_of_succ_le few)
            have bound : leading '"' ('"' :: escapeAll severalLines allowed content) ≤
                allowed + 1 := by
              rw [leading_cons_self]
              exact Nat.succ_le_succ next.2
            exact ⟨.plain (by decide) (by decide) (Nat.le_trans bound few) next.1, bound⟩
      · have escaped : escapeAll severalLines allowed (character :: content) =
            escape severalLines character ++ escapeAll severalLines (most severalLines) content := by
          cases allowed <;> rw [escapeAll, if_neg double] <;> rfl
        rw [escaped]
        refine ⟨spells_escape double others.1, ?_⟩
        rw [leading_escape double]
        exact Nat.zero_le _

/-! ## Texts that stand for themselves

Apostrophes are chosen only where they work: no run of them is longer than the longest. -/

theorem spells_self
    (tame : ∀ character ∈ content,
      Reader.isPlain character = true ∨ severalLines = true ∧ character = '\n')
    (few : ∀ suffix, suffix <:+ content → leading apostrophe suffix ≤ most severalLines) :
    Spells apostrophe severalLines content content := by
  induction content with
  | nil => exact .nil
  | cons character content induction =>
      rw [List.forall_mem_cons] at tame
      have spells := induction tame.2 fun suffix behind =>
        few suffix (behind.trans (List.suffix_cons character content))
      rcases tame.1 with plain | ⟨several, rfl⟩
      · have straight : character = '\\' → apostrophe ≠ '"' := fun _ => by decide
        exact .plain plain straight (few _ (List.suffix_refl _)) spells
      · exact .newline several spells

def lengthen (wanted : Char) : Nat × Nat → Char → Nat × Nat :=
  fun (run, longest) character =>
    if character = wanted then (run + 1, max longest (run + 1)) else (0, longest)

theorem longestRun_eq (wanted : Char) (content : List Char) :
    longestRun wanted content = (content.foldl (lengthen wanted) (0, 0)).2 := rfl

variable {wanted : Char} {runs : Nat × Nat}

theorem lengthen_self : lengthen wanted runs wanted = (runs.1 + 1, max runs.2 (runs.1 + 1)) :=
  if_pos rfl

theorem lengthen_of_ne (different : character ≠ wanted) :
    lengthen wanted runs character = (0, runs.2) := if_neg different

theorem run_le_longest (wanted : Char) (content : List Char) (least : runs.1 ≤ runs.2) :
    (content.foldl (lengthen wanted) runs).1 ≤ (content.foldl (lengthen wanted) runs).2 := by
  induction content generalizing runs with
  | nil => exact least
  | cons character content induction =>
      rw [List.foldl_cons]
      apply induction
      by_cases same : character = wanted
      · subst same
        rw [lengthen_self]
        exact Nat.le_max_right _ _
      · rw [lengthen_of_ne same]
        exact Nat.zero_le _

theorem le_foldl_lengthen (wanted : Char) (content : List Char) (least : runs.1 ≤ runs.2) :
    max runs.2 (runs.1 + leading wanted content) ≤
      (content.foldl (lengthen wanted) runs).2 := by
  induction content generalizing runs with
  | nil => exact Nat.max_le.mpr ⟨Nat.le_refl _, least⟩
  | cons character content induction =>
      rw [List.foldl_cons]
      by_cases same : character = wanted
      · subst same
        have further := @induction (runs.1 + 1, max runs.2 (runs.1 + 1)) (Nat.le_max_right _ _)
        rw [leading_cons_self, lengthen_self]
        omega
      · have further := @induction (0, runs.2) (Nat.zero_le _)
        rw [leading_cons_of_ne same, lengthen_of_ne same]
        omega

theorem leading_le_longestRun (wanted : Char) {suffix : List Char} (behind : suffix <:+ content) :
    leading wanted suffix ≤ longestRun wanted content := by
  rcases behind with ⟨front, rfl⟩
  have least := run_le_longest wanted front (Nat.le_refl (0, 0).1)
  have reached := le_foldl_lengthen wanted suffix least
  rw [longestRun_eq, List.foldl_append]
  exact Nat.le_trans (Nat.le_add_left _ _) (Nat.le_trans (Nat.le_max_right _ _) reached)

/-! ## Reading what was written -/

theorem isPlain_of_not_needsEscape (tame : content.any needsEscape = false)
    {character : Char} (member : character ∈ content) :
    Reader.isPlain character = true ∨ character = '\n' := by
  have shown := List.any_eq_false.mp tame character member
  simp only [needsEscape, Bool.and_eq_true, Bool.not_eq_true', decide_eq_true_eq, not_and,
    Decidable.not_not] at shown
  cases plain : Reader.isPlain character with
  | true => exact .inl rfl
  | false => exact .inr (shown plain)

/-- Apostrophes are chosen only where they work. -/
theorem tame_of_choose (chosen : Style.choose content = .apostrophes severalLines) :
    content.any needsEscape = false ∧
      if severalLines then longestRun apostrophe content ≤ 2
      else '\n' ∉ content ∧ apostrophe ∉ content := by
  unfold Style.choose at chosen
  dsimp only at chosen
  split at chosen
  · cases chosen
  · split at chosen
    · rename_i oneLine
      cases chosen
      simp only [Bool.and_eq_true, Bool.not_eq_true'] at oneLine
      rcases oneLine with ⟨⟨tame, unquoted⟩, single⟩
      exact ⟨tame, by simpa using single, by simpa using unquoted⟩
    · split at chosen
      · cases chosen
      · split at chosen
        · rename_i several
          cases chosen
          simpa using several
        · cases chosen

theorem leading_of_not_mem (absent : quote ∉ content) : leading quote content = 0 := by
  cases content with
  | nil => rfl
  | cons character content =>
      rw [List.mem_cons, not_or] at absent
      exact leading_cons_of_ne (Ne.symm absent.1) content

theorem spells_of_choose (chosen : Style.choose content = .apostrophes severalLines) :
    Spells apostrophe severalLines content content := by
  rcases tame_of_choose chosen with ⟨tame, few⟩
  cases severalLines with
  | false =>
      apply spells_self
      · intro character member
        rcases isPlain_of_not_needsEscape tame member with plain | rfl
        · exact .inl plain
        · exact absurd member few.1
      · intro suffix behind
        have absent : apostrophe ∉ suffix := fun member => few.2 (behind.subset member)
        exact Nat.le_of_eq (leading_of_not_mem absent)
  | true =>
      apply spells_self
      · intro character member
        exact (isPlain_of_not_needsEscape tame member).imp_right fun same => ⟨rfl, same⟩
      · intro suffix behind
        exact Nat.le_trans (leading_le_longestRun apostrophe behind) few

theorem text_of_spells (known : IsQuote quote) (spells : Spells quote severalLines content written)
    (fresh : Fresh rest) :
    text (enclose quote severalLines (content.contains '\n') written ++ rest) =
      some (content, rest) := by
  cases severalLines with
  | false => exact text_of_spells_line known spells _ fresh
  | true => exact text_of_spells_block known spells List.contains_iff_mem.mpr fresh

/-- A text is read back as it was, however it was written. -/
theorem text_write (content : List Char) (fresh : Fresh rest) :
    text (write content ++ rest) = some (content, rest) := by
  unfold write
  dsimp only
  split
  · rename_i severalLines chosen
    exact text_of_spells (.inl rfl)
      (spells_escapeAll severalLines content (Nat.le_refl (most severalLines))).1 fresh
  · rename_i severalLines chosen
    exact text_of_spells (.inr rfl) (spells_of_choose chosen) fresh

end TerminalSession.Toml.Quoting
