import TerminalSession.Proofs.Display
import TerminalSession.Proofs.TameOutput

/-! # Control sequences in the output

No control sequence is the beginning of another, and only its first character is a control
character. So the sequences in an output are those that were sent: none comes about where a text
meets a sequence, and none is overlooked. -/

namespace TerminalSession.Screen

/-! ## Counting

Where a text stands, it stands without its first character one place later. -/

def occurrences (part : List Char) : List Char → Nat
  | [] => if part.isEmpty then 1 else 0
  | character :: rest =>
      (if part.isPrefixOf (character :: rest) then 1 else 0) + occurrences part rest

variable {part whole rest : List Char} {character : Char}

theorem occurrences_nil (nonempty : part ≠ []) : occurrences part [] = 0 := by
  rw [occurrences, if_neg (by simpa using nonempty)]

theorem occurrences_of_present (stands : part <+: character :: rest) :
    occurrences part (character :: rest) = occurrences part rest + 1 := by
  rw [occurrences, if_pos (List.isPrefixOf_iff_prefix.mpr stands), Nat.add_comm]

theorem occurrences_of_absent (other : ¬ part <+: character :: rest) :
    occurrences part (character :: rest) = occurrences part rest := by
  rw [occurrences, if_neg (fun stands => other (List.isPrefixOf_iff_prefix.mp stands)),
    Nat.zero_add]

theorem occurrences_le_cons (part : List Char) (character : Char) (rest : List Char) :
    occurrences part rest ≤ occurrences part (character :: rest) := by
  rw [occurrences]
  exact Nat.le_add_left _ _

theorem occurrences_cons_cons_le (first : Char) (part : List Char) (character : Char)
    (rest : List Char) :
    occurrences (first :: part) (character :: rest) ≤ occurrences part rest := by
  induction rest generalizing character with
  | nil =>
      by_cases stands : first :: part <+: [character]
      · have empty : part = [] := List.prefix_nil.mp (List.cons_prefix_cons.mp stands).2
        subst empty
        rw [occurrences_of_present stands, occurrences_nil (List.cons_ne_nil _ _)]
        exact Nat.le_refl 1
      · rw [occurrences_of_absent stands, occurrences_nil (List.cons_ne_nil _ _)]
        exact Nat.zero_le _
  | cons next rest induction =>
      have later := induction next
      by_cases stands : first :: part <+: character :: next :: rest
      · rw [occurrences_of_present stands,
          occurrences_of_present (List.cons_prefix_cons.mp stands).2]
        exact Nat.succ_le_succ later
      · rw [occurrences_of_absent stands]
        exact Nat.le_trans later (occurrences_le_cons part next rest)

theorem occurrences_append_le (front part whole : List Char) :
    occurrences (front ++ part) whole ≤ occurrences part whole := by
  induction front with
  | nil => exact Nat.le_refl _
  | cons first front induction =>
      refine Nat.le_trans ?_ induction
      cases whole with
      | nil =>
          rw [List.cons_append, occurrences_nil (List.cons_ne_nil _ _)]
          exact Nat.zero_le _
      | cons character whole =>
          exact Nat.le_trans (occurrences_cons_cons_le first (front ++ part) character whole)
            (occurrences_le_cons _ character whole)

theorem occurrences_pos (nonempty : part ≠ []) (stands : part <:+: whole) :
    0 < occurrences part whole := by
  rcases stands with ⟨front, rest, rfl⟩
  induction front with
  | nil =>
      cases part with
      | nil => exact absurd rfl nonempty
      | cons first part =>
          rw [List.nil_append, List.cons_append, occurrences_of_present ⟨rest, rfl⟩]
          exact Nat.succ_pos _
  | cons first front induction =>
      exact Nat.lt_of_lt_of_le induction (occurrences_le_cons part first _)

/-! ## Sequences -/

structure IsSequence (letters : List Char) (parameters : List Char) (final : Char) : Prop where
  letters : letters = [Display.escape, '['] ++ parameters ++ [final]
  parameters : ∀ character ∈ parameters, Display.isParameter character = true
  final : Display.isParameter final = false

theorem isSequence_of_sequence? {instruction : Instruction} {parameters : String} {final : Char}
    (sent : instruction.sequence? = some (parameters, final)) :
    IsSequence instruction.text.toList parameters.toList final :=
  ⟨Instruction.toList_text_of_sequence sent, Instruction.isParameter_of_sequence sent,
    Instruction.isParameter_final sent⟩

theorem parameters_unique {first second more others : List Char} {final last : Char}
    (inFirst : ∀ character ∈ first, Display.isParameter character = true)
    (inSecond : ∀ character ∈ second, Display.isParameter character = true)
    (ends : Display.isParameter final = false) (stops : Display.isParameter last = false)
    (same : first ++ final :: more = second ++ last :: others) : first = second ∧ final = last := by
  induction first generalizing second with
  | nil =>
      cases second with
      | nil => exact ⟨rfl, (List.cons.inj same).1⟩
      | cons character second =>
          have wrong := inSecond character List.mem_cons_self
          rw [← (List.cons.inj same).1, ends] at wrong
          cases wrong
  | cons character first induction =>
      cases second with
      | nil =>
          have wrong := inFirst character List.mem_cons_self
          rw [(List.cons.inj same).1, stops] at wrong
          cases wrong
      | cons other second =>
          rw [List.forall_mem_cons] at inFirst inSecond
          have rest := induction inFirst.2 inSecond.2 (List.cons.inj same).2
          exact ⟨by rw [(List.cons.inj same).1, rest.1], rest.2⟩

/-- A sequence with which a text starts is the one that was sent first. -/
theorem IsSequence.eq_of_present {letters others parameters more : List Char} {final last : Char}
    (sequence : IsSequence letters parameters final) (sent : IsSequence others more last)
    (stands : letters <+: others ++ rest) : parameters = more ∧ final = last := by
  rcases stands with ⟨behind, same⟩
  rw [sequence.letters, sent.letters] at same
  have inner : parameters ++ final :: behind = more ++ last :: rest := by simpa using same
  exact parameters_unique sequence.parameters sent.parameters sequence.final sent.final inner

/-! ## Control characters

Only the first character of a sequence is a control character, and what prints prints none. -/

def Instruction.Neat (instruction : Instruction) : Prop :=
  ∀ text, instruction = .print text → Clean text.toList

theorem Instruction.Tame.neat {instruction : Instruction} (tame : instruction.Tame) :
    instruction.Neat := by
  rintro text rfl
  exact tame

def textOf (instructions : List Instruction) : List Char :=
  instructions.flatMap fun instruction => instruction.text.toList

theorem textOf_append (first second : List Instruction) :
    textOf (first ++ second) = textOf first ++ textOf second := List.flatMap_append

theorem toList_text_of_written {output : Output} {instructions : List Instruction}
    (written : output.written = (instructions.map Written.whole).reverse) :
    output.text.toList = textOf instructions := by
  simp only [Output.text, written, List.reverse_reverse, String.toList_join, List.flatMap_map]
  rfl

theorem isControl_of_isParameter (proper : Display.isParameter character = true) :
    Text.isControl character = false := by
  simp only [Display.isParameter, Bool.and_eq_true, decide_eq_true_eq] at proper
  simp only [Text.isControl, Bool.or_eq_false_iff, Bool.and_eq_false_iff, decide_eq_false_iff_not]
  omega

theorem clean_toString (number : Nat) : Clean (toString number).toList :=
  fun _ member => isControl_of_isParameter (Instruction.isParameter_toString number _ member)

theorem text_of_sequence? {instruction : Instruction} {parameters : String} {final : Char}
    (sent : instruction.sequence? = some (parameters, final)) :
    ∃ others, instruction.text.toList = Display.escape :: others ∧ Clean others := by
  refine ⟨'[' :: (parameters.toList ++ [final]), ?_, ?_⟩
  · rw [Instruction.toList_text_of_sequence sent]
    rfl
  · intro character member
    have last : Text.isControl final = false := by
      cases instruction <;> cases sent <;> decide
    rcases List.mem_cons.mp member with rfl | later
    · decide
    · rcases List.mem_append.mp later with inside | atEnd
      · exact isControl_of_isParameter
          (Instruction.isParameter_of_sequence sent character inside)
      · rw [List.mem_singleton.mp atEnd]
        exact last

theorem sequence?_or_print (instruction : Instruction) :
    (∃ text, instruction = .print text) ∨
      ∃ parameters final, instruction.sequence? = some (parameters, final) := by
  cases instruction with
  | print text => exact .inl ⟨text, rfl⟩
  | _ => exact .inr ⟨_, _, rfl⟩

/-- A control character is the first of a sequence that was sent in its place. -/
theorem control_starts_sequence {instructions : List Instruction}
    (neat : ∀ instruction ∈ instructions, instruction.Neat) {front : List Char}
    (same : textOf instructions = front ++ character :: rest)
    (control : Text.isControl character = true) :
    character = Display.escape ∧ ∃ earlier instruction later parameters final,
      instructions = earlier ++ instruction :: later ∧ textOf earlier = front ∧
        IsSequence instruction.text.toList parameters final := by
  induction instructions generalizing front with
  | nil => simp [textOf] at same
  | cons first instructions induction =>
      rw [List.forall_mem_cons] at neat
      have parts : first.text.toList ++ textOf instructions = front ++ character :: rest := same
      have further (left : List Char) (before : front = first.text.toList ++ left)
          (behind : textOf instructions = left ++ character :: rest) :
          character = Display.escape ∧ ∃ earlier instruction later parameters final,
            first :: instructions = earlier ++ instruction :: later ∧ textOf earlier = front ∧
              IsSequence instruction.text.toList parameters final := by
        rcases induction neat.2 behind with
          ⟨start, earlier, instruction, later, parameters, final, split, rfl, sequence⟩
        exact ⟨start, first :: earlier, instruction, later, parameters, final, by rw [split]; rfl,
          before.symm, sequence⟩
      rcases List.append_eq_append_iff.mp parts with ⟨left, before, behind⟩ | ⟨inside, here, behind⟩
      · exact further left before behind
      · cases inside with
        | nil => exact further [] (by simpa using here.symm) behind.symm
        | cons found others =>
            cases (List.cons.inj behind).1
            have among : character ∈ first.text.toList := by
              rw [here]
              simp
            rcases sequence?_or_print first with ⟨text, rfl⟩ | ⟨parameters, final, sent⟩
            · rw [neat.1 text rfl character among] at control
              cases control
            · rcases text_of_sequence? sent with ⟨tail, shape, clean⟩
              cases front with
              | nil =>
                  exact ⟨(List.cons.inj (here.symm.trans shape)).1, [], first, instructions,
                    parameters.toList, final, rfl, rfl, isSequence_of_sequence? sent⟩
              | cons _ front =>
                  have within : front ++ character :: others = tail :=
                    (List.cons.inj (here.symm.trans shape)).2
                  rw [clean character (within ▸ by simp)] at control
                  cases control

/-! ## Counting sequences -/

theorem occurrences_clean_append {others : List Char} (clean : Clean others) (part : List Char)
    (rest : List Char) :
    occurrences (Display.escape :: part) (others ++ rest) =
      occurrences (Display.escape :: part) rest := by
  induction others with
  | nil => rfl
  | cons character others induction =>
      have visible := clean character List.mem_cons_self
      have different : ¬ Display.escape :: part <+: character :: (others ++ rest) := by
        intro stands
        rw [← (List.cons_prefix_cons.mp stands).1] at visible
        exact absurd visible (by decide)
      rw [List.cons_append, occurrences_of_absent different]
      exact induction fun other member => clean other (List.mem_cons_of_mem _ member)

/-- A sequence stands in the output as often as it was sent. -/
theorem occurrences_textOf {sent : Instruction} {parameters : String} {final : Char}
    (sequence : sent.sequence? = some (parameters, final)) {instructions : List Instruction}
    (neat : ∀ instruction ∈ instructions, instruction.Neat) :
    occurrences sent.text.toList (textOf instructions) =
      instructions.countP (·.sequence? = some (parameters, final)) := by
  rcases text_of_sequence? sequence with ⟨part, shape, _⟩
  induction instructions with
  | nil =>
      rw [shape]
      exact occurrences_nil (List.cons_ne_nil _ _)
  | cons first instructions induction =>
      rw [List.forall_mem_cons] at neat
      have whole : textOf (first :: instructions) = first.text.toList ++ textOf instructions := rfl
      rw [whole, List.countP_cons, ← induction neat.2]
      rcases sequence?_or_print first with ⟨text, rfl⟩ | ⟨more, last, known⟩
      · rw [shape]
        exact occurrences_clean_append (neat.1 text rfl) part _
      · rcases text_of_sequence? known with ⟨others, start, clean⟩
        by_cases same : first.sequence? = some (parameters, final)
        · have alike : first.text.toList = sent.text.toList := by
            rw [Instruction.toList_text_of_sequence same,
              Instruction.toList_text_of_sequence sequence]
          have stands : Display.escape :: part <+:
              Display.escape :: (others ++ textOf instructions) := by
            have tail : others = part := (List.cons.inj (start.symm.trans (alike.trans shape))).2
            rw [tail]
            exact ⟨textOf instructions, rfl⟩
          rw [if_pos (decide_eq_true same), start, shape, List.cons_append,
            occurrences_of_present stands, occurrences_clean_append clean]
        · have other : ¬ sent.text.toList <+: first.text.toList ++ textOf instructions := by
            intro stands
            have equal := (isSequence_of_sequence? sequence).eq_of_present
              (isSequence_of_sequence? known) stands
            rw [String.toList_inj] at equal
            apply same
            rw [known, equal.1, equal.2]
          rw [start, List.cons_append] at other ⊢
          rw [if_neg (by simpa using same), Nat.add_zero, occurrences_of_absent other, shape]
          exact occurrences_clean_append clean part _

end TerminalSession.Screen
