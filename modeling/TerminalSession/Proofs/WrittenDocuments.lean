import TerminalSession.Proofs.QuotedTexts

/-! # Documents are read back

A document is read line by line, and what its lines say is put together at the end. For groups of
settings every line can be followed: blank, the header of a group, or one of its settings. It does
not matter how many blank lines there are, nor where. -/

namespace TerminalSession.Toml

/-! ## One reader after another -/

namespace Reader

variable {α β : Type} {reader first second : Reader α} {characters rest : List Char} {value : α}

theorem bind_of_read (read : reader characters = some (value, rest)) (next : α → Reader β) :
    (reader >>= next) characters = next value rest := by
  change (reader characters >>= fun found => next found.1 found.2) = _
  rw [read]
  rfl

theorem bind_of_none (failed : reader characters = none) (next : α → Reader β) :
    (reader >>= next) characters = none := by
  change (reader characters >>= fun found => next found.1 found.2) = _
  rw [failed]
  rfl

theorem map_of_read (read : reader characters = some (value, rest)) (change : α → β) :
    (change <$> reader) characters = some (change value, rest) := by
  have bound := bind_of_read read fun found => (pure (change found) : Reader β)
  rw [map_eq_pure_bind]
  exact bound

theorem orElse_of_read (read : first characters = some (value, rest)) :
    (first <|> second) characters = some (value, rest) := by
  change (first characters <|> second characters) = _
  rw [read]
  rfl

theorem orElse_of_none (failed : first characters = none) :
    (first <|> second) characters = second characters := by
  change (first characters <|> second characters) = _
  rw [failed]
  rfl

def Stops (belongs : Char → Bool) (rest : List Char) : Prop :=
  ∀ next ∈ rest.head?, belongs next = false

theorem Stops.cons {belongs : Char → Bool} {next : Char} (other : belongs next = false)
    (rest : List Char) : Stops belongs (next :: rest) := by
  intro found first
  cases first
  exact other

theorem takeWhile_of_stops {belongs : Char → Bool} {letters : List Char}
    (every : ∀ letter ∈ letters, belongs letter = true) (stops : Stops belongs rest) :
    (letters ++ rest).takeWhile belongs = letters ∧ (letters ++ rest).dropWhile belongs = rest := by
  rw [List.takeWhile_append_of_pos every, List.dropWhile_append_of_pos every]
  cases rest with
  | nil => exact ⟨List.append_nil _, rfl⟩
  | cons next rest =>
      have other := stops next rfl
      rw [List.takeWhile_cons_of_neg (by simp [other]),
        List.dropWhile_cons_of_neg (by simp [other])]
      exact ⟨List.append_nil _, rfl⟩

theorem spaces_of_stops (stops : Stops isSpace rest) : spaces rest = some ((), rest) := by
  have same := (takeWhile_of_stops (List.forall_mem_nil _) stops).2
  rw [List.nil_append] at same
  rw [spaces, same]

theorem spaces_cons (rest : List Char) : spaces (' ' :: rest) = spaces rest := rfl

theorem accept_of_ne {wanted : Char} (other : rest.head? ≠ some wanted) :
    accept wanted rest = some (false, rest) := by
  cases rest with
  | nil => rfl
  | cons next rest => rw [accept, if_neg (fun same => other (congrArg some same))]

theorem expect_of_ne {wanted : Char} (other : rest.head? ≠ some wanted) :
    expect wanted rest = none := by
  cases rest with
  | nil => rfl
  | cons next rest => rw [expect, if_neg (fun same => other (congrArg some same))]

theorem expect_self (wanted : Char) (rest : List Char) :
    expect wanted (wanted :: rest) = some ((), rest) := by
  rw [expect, if_pos rfl]

end Reader

open Reader

/-! ## Keys -/

structure Bare (name : List Char) : Prop where
  nonempty : name ≠ []
  letters : ∀ letter ∈ name, isKeyCharacter letter = true

variable {name rest : List Char}

theorem Bare.exists_cons (bare : Bare name) :
    ∃ letter letters, name = letter :: letters ∧ isKeyCharacter letter = true := by
  cases name with
  | nil => exact absurd rfl bare.nonempty
  | cons letter letters => exact ⟨letter, letters, rfl, bare.letters letter List.mem_cons_self⟩

theorem ne_of_isKeyCharacter {letter other : Char} (belongs : isKeyCharacter letter = true)
    (outside : isKeyCharacter other = false) : letter ≠ other := by
  rintro rfl
  rw [belongs] at outside
  cases outside

theorem isSpace_of_isKeyCharacter {letter : Char} (belongs : isKeyCharacter letter = true) :
    isSpace letter = false := by
  have space := ne_of_isKeyCharacter belongs (show isKeyCharacter ' ' = false by decide)
  have tab := ne_of_isKeyCharacter belongs (show isKeyCharacter '\t' = false by decide)
  simp [isSpace, space, tab]

theorem Bare.stops_isSpace (bare : Bare name) (rest : List Char) :
    Stops isSpace (name ++ rest) := by
  rcases bare.exists_cons with ⟨letter, letters, rfl, belongs⟩
  exact Stops.cons (isSpace_of_isKeyCharacter belongs) _

theorem Bare.head?_ne (bare : Bare name) {other : Char} (outside : isKeyCharacter other = false)
    (rest : List Char) : (name ++ rest).head? ≠ some other := by
  rcases bare.exists_cons with ⟨letter, letters, rfl, belongs⟩
  exact fun same => ne_of_isKeyCharacter belongs outside (Option.some.inj same)

theorem Bare.isBare_eq_false (bare : Bare name) (rest : List Char) :
    isBare (name ++ rest) = false := by
  rcases bare.exists_cons with ⟨letter, letters, rfl, belongs⟩
  have comment := ne_of_isKeyCharacter belongs (show isKeyCharacter '#' = false by decide)
  have newline := ne_of_isKeyCharacter belongs (show isKeyCharacter '\n' = false by decide)
  have carriage := ne_of_isKeyCharacter belongs (show isKeyCharacter '\r' = false by decide)
  simp [isBare, comment, newline, carriage]

theorem keyPart_of_bare (bare : Bare name) (stops : Stops isKeyCharacter rest) :
    keyPart (name ++ rest) = some (String.ofList name, rest) := by
  have taken := takeWhile_of_stops bare.letters stops
  rcases bare.exists_cons with ⟨letter, letters, rfl, belongs⟩
  have double := ne_of_isKeyCharacter belongs (show isKeyCharacter '"' = false by decide)
  have single := ne_of_isKeyCharacter belongs
    (show isKeyCharacter Text.apostrophe = false by decide)
  have unquoted : ¬ (letter = '"' || letter = Text.apostrophe) = true := by
    simp [double, single]
  rw [List.cons_append] at taken ⊢
  rw [keyPart]
  dsimp only
  rw [if_neg unquoted, taken.1, taken.2]
  rfl

theorem keyParts_of_ne (turns : Nat) (other : rest.head? ≠ some '.') :
    keyParts turns rest = some ([], rest) := by
  cases turns with
  | zero => rfl
  | succ turns =>
      rw [keyParts, bind_of_read (accept_of_ne other)]
      rfl

theorem key_of_bare (bare : Bare name) (stops : Stops isKeyCharacter rest) {behind : List Char}
    (blank : spaces rest = some ((), behind)) (single : behind.head? ≠ some '.') :
    key (name ++ rest) = some (⟨[], String.ofList name⟩, behind) := by
  rw [key, bind_of_read (spaces_of_stops (bare.stops_isSpace rest)),
    bind_of_read (keyPart_of_bare bare stops),
    bind_of_read blank, bind_of_read (keyParts_of_ne _ single)]
  rfl

/-! ## Values -/

theorem text_of_ne {first : Char} (double : first ≠ '"') (single : first ≠ Text.apostrophe)
    (rest : List Char) : Quoting.text (first :: rest) = none := by
  match rest with
  | [] => simp [Quoting.text, double, single]
  | [_] => simp [Quoting.text, double, single]
  | _ :: _ :: _ => simp [Quoting.text, double, single]

theorem quotedText_write (content : List Char) (fresh : Quoting.Fresh rest) :
    quotedText (Quoting.write content ++ rest) = some (.text (String.ofList content), rest) := by
  rw [quotedText, Quoting.text_write content fresh]
  rfl

theorem quotedText_of_ne {first : Char} (double : first ≠ '"') (single : first ≠ Text.apostrophe)
    (rest : List Char) : quotedText (first :: rest) = none := by
  rw [quotedText, text_of_ne double single]
  rfl

theorem word_append (letters rest : List Char) :
    word letters (letters ++ rest) = some ((), rest) := by
  rw [word, if_pos (List.isPrefixOf_iff_prefix.mpr (List.prefix_append letters rest)),
    List.drop_left]

theorem boolean_written (on : Bool) (rest : List Char) :
    boolean ((toString on).toList ++ rest) = some (.bool on, rest) := by
  cases on with
  | true =>
      exact orElse_of_read (bind_of_read (word_append "true".toList rest) _)
  | false =>
      have other : word "true".toList ("false".toList ++ rest) = none := rfl
      exact (orElse_of_none (bind_of_none other _)).trans
        (bind_of_read (word_append "false".toList rest) _)

theorem value_of_quotedText {size depth : Nat} {characters : List Char} {data : Data}
    (read : quotedText characters = some (data, rest)) :
    value size depth characters = some (data, rest) := by
  cases depth <;> exact orElse_of_read read

theorem value_of_boolean {size depth : Nat} {characters : List Char} {data : Data}
    (unquoted : quotedText characters = none) (read : boolean characters = some (data, rest)) :
    value size depth characters = some (data, rest) := by
  cases depth <;> exact (orElse_of_none unquoted).trans (orElse_of_read read)

/-- A setting is read back as the data it is. -/
theorem value_written (size depth : Nat) (scalar : Scalar) (fresh : Quoting.Fresh rest) :
    value size depth (scalar.written ++ rest) = some (scalar.data, rest) := by
  cases scalar with
  | bool on =>
      have unquoted : quotedText ((toString on).toList ++ rest) = none := by
        cases on <;> exact quotedText_of_ne (by decide) (by decide) _
      exact value_of_boolean unquoted (boolean_written on rest)
  | text content =>
      have read := quotedText_write content.toList fresh
      rw [String.ofList_toList] at read
      exact value_of_quotedText read

theorem write_eq_cons (content : List Char) :
    ∃ quote letters, Quoting.IsQuote quote ∧ Quoting.write content = quote :: letters := by
  rw [Quoting.write]
  split
  · rename_i severalLines chosen
    cases severalLines <;> exact ⟨'"', _, .inl rfl, rfl⟩
  · rename_i severalLines chosen
    cases severalLines <;> exact ⟨Text.apostrophe, _, .inr rfl, rfl⟩

theorem stops_written (scalar : Scalar) (rest : List Char) :
    Stops isSpace (scalar.written ++ rest) := by
  cases scalar with
  | bool on => cases on <;> exact Stops.cons (by decide) _
  | text content =>
      rcases write_eq_cons content.toList with ⟨quote, letters, known, written⟩
      have visible : isSpace quote = false := by
        rcases known with rfl | rfl <;> decide
      rw [Scalar.written, written]
      exact Stops.cons visible _

/-! ## Lines -/

variable {size : Nat}

theorem line_of_read {characters : List Char} {statement : Statement}
    (indented : Stops isSpace characters) (busy : isBare characters = false)
    (read : Statement.read size characters = some (statement, '\n' :: rest)) :
    line size characters = some (some statement, rest) := by
  have ended : Stops isSpace ('\n' :: rest) := Stops.cons (by decide) rest
  have looked : (get : Reader (List Char)) characters = some (characters, characters) := rfl
  rw [line, bind_of_read (spaces_of_stops indented), bind_of_read looked, busy]
  simp only [Bool.false_eq_true, if_false]
  rw [bind_of_read (map_of_read read some), bind_of_read (spaces_of_stops ended)]
  rfl

theorem line_blank (size : Nat) (rest : List Char) : line size ('\n' :: rest) = some (none, rest) :=
  rfl

theorem line_header (size : Nat) (bare : Bare name) (rest : List Char) :
    line size ('[' :: (name ++ ']' :: '\n' :: rest)) =
      some (some (.table ⟨[], String.ofList name⟩), rest) := by
  apply line_of_read (Stops.cons (by decide) _) (by rfl)
  apply orElse_of_read
  have closed : Stops isSpace (']' :: '\n' :: rest) := Stops.cons (by decide) _
  have read := key_of_bare bare (Stops.cons (by decide) _) (spaces_of_stops closed) (by simp)
  rw [Statement.header, bind_of_read (expect_self '[' _),
    bind_of_read (accept_of_ne (bare.head?_ne (by decide) _))]
  simp only [Bool.false_eq_true, if_false]
  rw [bind_of_read read, bind_of_read (expect_self ']' _)]
  rfl

theorem line_assignment (size : Nat) (bare : Bare name) (scalar : Scalar) (rest : List Char) :
    line size (name ++ ' ' :: '=' :: ' ' :: (scalar.written ++ '\n' :: rest)) =
      some (some (.assign ⟨⟨[], String.ofList name⟩, scalar.data⟩), rest) := by
  apply line_of_read (bare.stops_isSpace _) (bare.isBare_eq_false _)
  have headless : Statement.header
      (name ++ ' ' :: '=' :: ' ' :: (scalar.written ++ '\n' :: rest)) = none := by
    rw [Statement.header, bind_of_none (expect_of_ne (bare.head?_ne (by decide) _))]
  have equals : Stops isSpace ('=' :: ' ' :: (scalar.written ++ '\n' :: rest)) :=
    Stops.cons (by decide) _
  have read := key_of_bare bare (Stops.cons (by decide) _)
    ((spaces_cons _).trans (spaces_of_stops equals)) (by simp)
  have fresh : Quoting.Fresh ('\n' :: rest) := by
    intro next first
    cases first
    decide
  have ended : Stops isSpace ('\n' :: rest) := Stops.cons (by decide) rest
  have behind := (spaces_cons _).trans (spaces_of_stops (stops_written scalar ('\n' :: rest)))
  apply (orElse_of_none headless).trans
  have assigned : assignment (value size (depthLimit - 1))
      (name ++ ' ' :: '=' :: ' ' :: (scalar.written ++ '\n' :: rest)) =
        some (⟨⟨[], String.ofList name⟩, scalar.data⟩, '\n' :: rest) := by
    rw [assignment, bind_of_read read, bind_of_read (expect_self '=' _), bind_of_read behind,
      bind_of_read (value_written size (depthLimit - 1) scalar fresh),
      bind_of_read (spaces_of_stops ended)]
    rfl
  rw [bind_of_read assigned]
  rfl

/-! ## All lines -/

def Says (size : Nat) (text : List Char) (statements : List Statement) : Prop :=
  ∀ turns found, text.length ≤ turns →
    lines size turns found text = some (statements.reverse ++ found)

theorem Says.nil (size : Nat) : Says size [] [] := fun _ _ _ => by rw [lines]; rfl

theorem Says.line {characters : List Char} {statement : Option Statement}
    {statements : List Statement} (said : Says size rest statements)
    (read : line size characters = some (statement, rest))
    (shorter : rest.length < characters.length) :
    Says size characters (statement.toList ++ statements) := by
  intro turns found enough
  cases characters with
  | nil => cases shorter
  | cons character characters =>
      cases turns with
      | zero => cases enough
      | succ turns =>
          have next := said turns (statement.toList ++ found) (by simp at shorter enough; omega)
          have step : lines size (turns + 1) found (character :: characters) =
              lines size turns (statement.toList ++ found) rest := by
            simp [lines, read]
          have same : statement.toList.reverse = statement.toList := by cases statement <;> rfl
          rw [step, next, List.reverse_append, List.append_assoc, same]

structure Group.Plain (group : Group) : Prop where
  name : Bare group.name.toList
  entries : ∀ entry ∈ group.entries, Bare entry.1.toList

def entryLine (entry : String × Scalar) : List Char :=
  entry.1.toList ++ [' ', '=', ' '] ++ entry.2.written ++ ['\n']

theorem Group.written_eq (group : Group) :
    group.written = '[' :: group.name.toList ++ [']', '\n'] ++ group.entries.flatMap entryLine :=
  rfl

def entryAssignment (entry : String × Scalar) : Assignment := ⟨⟨[], entry.1⟩, entry.2.data⟩

def Group.statements (group : Group) : List Statement :=
  .table ⟨[], group.name⟩ :: group.entries.map fun entry => .assign (entryAssignment entry)

theorem Says.entries {entries : List (String × Scalar)} {statements : List Statement}
    (plain : ∀ entry ∈ entries, Bare entry.1.toList) (said : Says size rest statements) :
    Says size (entries.flatMap entryLine ++ rest)
      (entries.map (fun entry => .assign (entryAssignment entry)) ++ statements) := by
  induction entries with
  | nil => exact said
  | cons entry entries induction =>
      rw [List.forall_mem_cons] at plain
      have read := line_assignment size plain.1 entry.2 (entries.flatMap entryLine ++ rest)
      rw [String.ofList_toList] at read
      have shape : (entry :: entries).flatMap entryLine ++ rest =
          entry.1.toList ++ ' ' :: '=' :: ' ' ::
            (entry.2.written ++ '\n' :: (entries.flatMap entryLine ++ rest)) := by
        simp [entryLine]
      rw [shape]
      refine (induction plain.2).line read ?_
      simp only [List.length_append, List.length_cons]
      omega

theorem Says.group {group : Group} {statements : List Statement} (plain : group.Plain)
    (said : Says size rest statements) :
    Says size (group.written ++ rest) (group.statements ++ statements) := by
  have read := line_header size plain.name (group.entries.flatMap entryLine ++ rest)
  rw [String.ofList_toList] at read
  have shape : group.written ++ rest =
      '[' :: (group.name.toList ++ ']' :: '\n' :: (group.entries.flatMap entryLine ++ rest)) := by
    simp [Group.written_eq]
  rw [shape]
  refine (said.entries plain.entries).line read ?_
  simp only [List.length_append, List.length_cons]
  omega

/-- Groups one after the other, with any number of blank lines before and behind each of them. -/
inductive Listed : List Group → List Char → Prop
  | nil : Listed [] []
  | blank {groups : List Group} {text : List Char} (listed : Listed groups text) :
      Listed groups ('\n' :: text)
  | group {groups : List Group} {text : List Char} (group : Group) (listed : Listed groups text) :
      Listed (group :: groups) (group.written ++ text)

theorem listed_write (groups : List Group) : Listed groups (write groups).toList := by
  rw [write, String.toList_ofList]
  induction groups with
  | nil => exact .nil
  | cons group groups induction =>
      cases groups with
      | nil =>
          have written := Listed.group group .nil
          rw [List.append_nil] at written
          rw [List.map_singleton, List.intercalate_singleton]
          exact written
      | cons next groups => exact .group group (.blank induction)

theorem says_of_listed {groups : List Group} {text : List Char} (listed : Listed groups text)
    (plain : ∀ group ∈ groups, group.Plain) :
    Says size text (groups.flatMap Group.statements) := by
  induction listed with
  | nil => exact .nil size
  | blank listed induction =>
      exact (induction plain).line (line_blank size _) (Nat.lt_succ_self _)
  | group group listed induction =>
      rw [List.forall_mem_cons] at plain
      exact (induction plain.2).group plain.1

theorem head?_of_listed {groups : List Group} {text : List Char} (listed : Listed groups text) :
    text.head? ≠ some '\uFEFF' := by
  cases listed with
  | nil => exact nofun
  | blank | group => exact fun same => absurd (Option.some.inj same) (by decide)

theorem statements_of_listed {groups : List Group} {text : List Char} (listed : Listed groups text)
    (plain : ∀ group ∈ groups, group.Plain) :
    statements text = some (groups.flatMap Group.statements).reverse := by
  have unmarked : statements text = lines text.length text.length [] text := by
    have front := head?_of_listed listed
    unfold statements
    split
    · exact absurd rfl front
    · rfl
  rw [unmarked, says_of_listed listed plain text.length [] (Nat.le_refl _), List.append_nil]

/-! ## What the lines come to -/

def Group.section (group : Group) : Section where
  key := ⟨[], group.name⟩
  isSeries := false
  assignments := group.entries.map entryAssignment

theorem addStatement_assigns (assignments : List Assignment) (others : List Section) :
    (assignments.map Statement.assign).foldr (fun statement behind => addStatement behind statement)
      ([], others) = (assignments, others) := by
  induction assignments with
  | nil => rfl
  | cons assignment assignments induction => rw [List.map_cons, List.foldr_cons, induction]; rfl

theorem sections_statements (groups : List Group) :
    sections (groups.flatMap Group.statements).reverse = ([], groups.map Group.section) := by
  rw [sections, List.foldl_reverse]
  induction groups with
  | nil => rfl
  | cons group groups induction =>
      have entries : group.entries.map (fun entry => Statement.assign (entryAssignment entry)) =
          (group.entries.map entryAssignment).map Statement.assign := by
        rw [List.map_map]
        rfl
      rw [List.flatMap_cons, List.foldr_append, induction, Group.statements, List.foldr_cons,
        entries, addStatement_assigns]
      rfl

theorem lookup_of_not_mem {name : String} {entries : Data.Entries}
    (absent : name ∉ entries.map Prod.fst) : entries.lookup name = none := by
  rw [List.lookup_eq_none_iff]
  intro entry member
  have other : name ≠ entry.1 := by
    rintro rfl
    exact absent (List.mem_map_of_mem member)
  simpa using other

def entryData (entry : String × Scalar) : String × Data := (entry.1, entry.2.data)

theorem fill_entries (entries : List (String × Scalar)) (inner : Data.Entries)
    (apart : (inner.map Prod.fst ++ entries.map Prod.fst).Nodup) :
    Table.fill (entries.map entryAssignment) inner = some (inner ++ entries.map entryData) := by
  induction entries generalizing inner with
  | nil => rw [List.map_nil, List.map_nil, List.append_nil]; rfl
  | cons entry entries induction =>
      have absent : entry.1 ∉ inner.map Prod.fst := by
        intro member
        exact (List.nodup_append.mp apart).2.2 _ member _ List.mem_cons_self rfl
      have added : Table.assign inner (entryAssignment entry) =
          some (inner ++ [entryData entry]) := by
        simp only [Table.assign, entryAssignment, List.isEmpty_nil, if_true, Table.insert,
          lookup_of_not_mem absent, Option.isSome_none, Bool.false_eq_true, if_false]
        rfl
      have next := induction (inner ++ [entryData entry]) (by simpa [entryData] using apart)
      rw [Table.fill, List.map_cons, List.foldlM_cons, added]
      rw [Table.fill, List.append_assoc] at next
      exact next

def Group.data (group : Group) : String × Data :=
  (group.name, .record .header (group.entries.map entryData))

theorem update_nil (made here : Data.Origin)
    (change : Data.Origin → Data.Entries → Option Data.Entries) (entries : Data.Entries) :
    Table.update made change [] here entries = change here entries := rfl

theorem addSection_group (group : Group) (root : Data.Entries)
    (distinct : (group.entries.map Prod.fst).Nodup) (absent : group.name ∉ root.map Prod.fst) :
    addSection root group.section = some (root ++ [group.data]) := by
  have filled := fill_entries group.entries [] (by simpa using distinct)
  have others : root.filter (·.1 ≠ group.name) = root := by
    rw [List.filter_eq_self]
    intro entry member
    have other : entry.1 ≠ group.name := fun same => absent (same ▸ List.mem_map_of_mem member)
    simpa using other
  have step : addSection root group.section =
      (Table.fill (group.entries.map entryAssignment) []).bind fun inner =>
        some (root.filter (·.1 ≠ group.name) ++ [(group.name, .record .header inner)]) := by
    change Table.addTable ⟨[], group.name⟩ (group.entries.map entryAssignment) root = _
    rw [Table.addTable, update_nil, lookup_of_not_mem absent]
    rfl
  rw [step, filled, others]
  rfl

theorem addSections (groups : List Group) (root : Data.Entries)
    (distinct : ∀ group ∈ groups, (group.entries.map Prod.fst).Nodup)
    (apart : (root.map Prod.fst ++ groups.map Group.name).Nodup) :
    (groups.map Group.section).foldlM addSection root = some (root ++ groups.map Group.data) := by
  induction groups generalizing root with
  | nil => rw [List.map_nil, List.map_nil, List.append_nil]; rfl
  | cons group groups induction =>
      rw [List.forall_mem_cons] at distinct
      have absent : group.name ∉ root.map Prod.fst := by
        intro member
        exact (List.nodup_append.mp apart).2.2 _ member _ List.mem_cons_self rfl
      have next := induction (root ++ [group.data]) distinct.2 (by simpa [Group.data] using apart)
      rw [List.map_cons, List.foldlM_cons, addSection_group group root distinct.1 absent]
      rw [List.append_assoc] at next
      exact next

/-- Groups that can be told apart, and so can the settings in each of them. -/
structure Proper (groups : List Group) : Prop where
  plain : ∀ group ∈ groups, group.Plain
  distinct : ∀ group ∈ groups, (group.entries.map Prod.fst).Nodup
  apart : (groups.map Group.name).Nodup

/-- A document of groups is read as just these groups. -/
theorem parse_of_listed {groups : List Group} (proper : Proper groups) {text : List Char}
    (listed : Listed groups text) :
    parse (String.ofList text) = some (.record .header (groups.map Group.data)) := by
  have built := addSections groups [] proper.distinct (by simpa using proper.apart)
  have said := statements_of_listed listed proper.plain
  have assembled : assemble (groups.flatMap Group.statements).reverse =
      some (.record .header (groups.map Group.data)) := by
    rw [assemble, sections_statements]
    change ((groups.map Group.section).foldlM addSection []).bind
      (fun root => some (Data.record .header root)) = _
    rw [built]
    rfl
  rw [parse, String.toList_ofList, said]
  exact assembled

end TerminalSession.Toml
