import TerminalSession.Proofs.WrittenDocuments
import TerminalSession.Settings

/-! # Settings are read back

Settings that were written are read back as they were, whatever texts are among them. Where a group
has been taken out of the file its settings have their defaults, and the others are as they were. -/

namespace TerminalSession

open Toml

/-! ## The groups that are left

A group is understood if it is kept, and has its defaults if it is missing. -/

namespace Toml

theorem Proper.filter {groups : List Group} (proper : Proper groups) (keeps : Group → Bool) :
    Proper (groups.filter keeps) where
  plain group member := proper.plain group (List.mem_filter.mp member).1
  distinct group member := proper.distinct group (List.mem_filter.mp member).1
  apart := proper.apart.sublist (List.filter_sublist.map Group.name)

theorem lookup_kept {groups : List Group} (apart : (groups.map Group.name).Nodup)
    (keeps : Group → Bool) {group : Group} (member : group ∈ groups) :
    ((groups.filter keeps).map Group.data).lookup group.name =
      if keeps group then some (.record .header (group.entries.map entryData)) else none := by
  induction groups with
  | nil => cases member
  | cons first groups induction =>
      rw [List.map_cons, List.nodup_cons] at apart
      rcases List.mem_cons.mp member with rfl | behind
      · cases kept : keeps group with
        | true =>
            rw [List.filter_cons_of_pos kept, List.map_cons]
            exact List.lookup_cons_self
        | false =>
            rw [List.filter_cons_of_neg (by simp [kept])]
            apply lookup_of_not_mem
            intro left
            rw [List.map_map] at left
            rcases List.mem_map.mp left with ⟨other, remaining, same⟩
            apply apart.1
            rw [← same]
            exact List.mem_map_of_mem (List.mem_filter.mp remaining).1
      · have different : group.name ≠ first.name :=
          fun same => apart.1 (same ▸ List.mem_map_of_mem behind)
        rw [← induction apart.2 behind]
        cases kept : keeps first with
        | true =>
            have passed : (group.name == first.data.1) = false := by
              simpa [Group.data] using different
            rw [List.filter_cons_of_pos kept, List.map_cons, List.lookup_cons, passed]
        | false => rw [List.filter_cons_of_neg (by simp [kept])]

end Toml

namespace Settings

/-- The settings of some of the groups, and the defaults of the others. -/
def keeping (settings : Settings) (keeps : String → Bool) : Settings :=
  let defaults : Settings := {}
  let session := if keeps "session" then settings else defaults
  let border := if keeps "border" then settings else defaults
  let log := if keeps "log" then settings else defaults
  { uniqueNames := session.uniqueNames
    cursor := session.cursor
    borderStyle := border.borderStyle
    logLevel := log.logLevel }

theorem keeping_all (settings : Settings) : settings.keeping (fun _ => true) = settings := rfl

def names : List String := ["session", "unique_names", "cursor", "border", "style", "log", "level"]

theorem bare_names : ∀ name ∈ names, Bare name.toList := by
  have nonempty : ∀ name ∈ names, name.toList ≠ [] := by decide
  have letters : names.all (fun name => name.toList.all isKeyCharacter) = true := by
    decide +kernel
  intro name member
  exact ⟨nonempty name member, List.all_eq_true.mp (List.all_eq_true.mp letters name member)⟩

theorem proper_groups (settings : Settings) : Proper settings.groups where
  plain group member := by
    simp only [groups, List.mem_cons, List.not_mem_nil, or_false] at member
    rcases member with rfl | rfl | rfl
    · exact ⟨bare_names "session" (by decide), List.forall_mem_cons.mpr
        ⟨bare_names "unique_names" (by decide),
          List.forall_mem_singleton.mpr (bare_names "cursor" (by decide))⟩⟩
    · exact ⟨bare_names "border" (by decide),
        List.forall_mem_singleton.mpr (bare_names "style" (by decide))⟩
    · exact ⟨bare_names "log" (by decide),
        List.forall_mem_singleton.mpr (bare_names "level" (by decide))⟩
  distinct group member := by
    simp only [groups, List.mem_cons, List.not_mem_nil, or_false] at member
    rcases member with rfl | rfl | rfl
    · show ["unique_names", "cursor"].Nodup
      decide
    · show ["style"].Nodup
      decide
    · show ["level"].Nodup
      decide
  apart := by
    show ["session", "border", "log"].Nodup
    decide

/-! ## Reading them -/

theorem readSession_written (uniqueNames : Bool) (cursor : CursorVisibility) :
    readSession .configuration
        (.record .header [("unique_names", .bool uniqueNames), ("cursor", .text cursor.name)]) =
      some (uniqueNames, cursor) := by
  have named : CursorVisibility.ofData? .configuration (.text cursor.name) = some cursor :=
    CursorVisibility.ofName?_name cursor
  change (Data.orElse .normal (CursorVisibility.ofData? .configuration)
    (some (.text cursor.name))).bind (fun cursor => some (uniqueNames, cursor)) = _
  rw [Data.orElse, named]
  rfl

theorem readText_written (name missing content : String) :
    readText .configuration name missing (.record .header [(name, .text content)]) =
      some content := by
  simp [readText, Data.fields?, Data.orElse, Data.text?]

theorem orElse_kept (settings : Settings) (keeps : String → Bool) {group : Group}
    (member : group ∈ settings.groups) {α : Type} {read : Data → Option α} {found : α}
    (missing : α) (understood : read (.record .header (group.entries.map entryData)) = some found) :
    Data.orElse missing read
        (((settings.groups.filter (keeps ·.name)).map Group.data).lookup group.name) =
      some (if keeps group.name then found else missing) := by
  rw [lookup_kept settings.proper_groups.apart (keeps ·.name) member]
  cases keeps group.name with
  | true => exact understood
  | false => rfl

theorem ofData?_of_groups {entries : Data.Entries} {settings : Settings}
    (session : Data.orElse (false, .normal) (readSession .configuration)
      (entries.lookup "session") = some (settings.uniqueNames, settings.cursor))
    (border : Data.orElse "single" (readText .configuration "style" "single")
      (entries.lookup "border") = some settings.borderStyle)
    (log : Data.orElse "info" (readText .configuration "level" "info")
      (entries.lookup "log") = some settings.logLevel) :
    ofData? .configuration (.record .header entries) = some settings := by
  simp [ofData?, Data.fields?, session, border, log]

theorem ofData?_kept (settings : Settings) (keeps : String → Bool) :
    ofData? .configuration
        (.record .header ((settings.groups.filter (keeps ·.name)).map Group.data)) =
      some (settings.keeping keeps) := by
  have session := settings.orElse_kept keeps (.head _) (false, .normal)
    (readSession_written settings.uniqueNames settings.cursor)
  have border := settings.orElse_kept keeps (.tail _ (.head _)) "single"
    (readText_written "style" "single" settings.borderStyle)
  have log := settings.orElse_kept keeps (.tail _ (.tail _ (.head _))) "info"
    (readText_written "level" "info" settings.logLevel)
  apply ofData?_of_groups
  · refine session.trans ?_
    rw [keeping]
    cases keeps "session" <;> rfl
  · refine border.trans ?_
    rw [keeping]
    cases keeps "border" <;> rfl
  · refine log.trans ?_
    rw [keeping]
    cases keeps "log" <;> rfl

/-- Settings are read back from the file they were written to. Where groups have been taken out of
it, no matter which blank lines are left, these have their defaults, and the others are as they
were. -/
theorem saved_settings_are_read_back (settings : Settings) :
    parse settings.render = some settings ∧
      ∀ (keeps : String → Bool) (text : List Char),
        Listed (settings.groups.filter (keeps ·.name)) text →
          parse (String.ofList text) = some (settings.keeping keeps) := by
  have left (keeps : String → Bool) (text : List Char)
      (listed : Listed (settings.groups.filter (keeps ·.name)) text) :
      parse (String.ofList text) = some (settings.keeping keeps) := by
    have read := parse_of_listed (settings.proper_groups.filter (keeps ·.name)) listed
    rw [parse, read]
    exact settings.ofData?_kept keeps
  refine ⟨?_, left⟩
  have whole := left (fun _ => true) settings.render.toList
    (by rw [List.filter_eq_self.mpr fun _ _ => rfl]; exact listed_write settings.groups)
  rw [String.ofList_toList, keeping_all] at whole
  exact whole

/-- Settings with quotes of both kinds, a backslash, line ends and a control character, without the
group of the border. -/
theorem quoted_level_is_read_back :
    let settings : Settings :=
      { uniqueNames := true, borderStyle := "double", logLevel := "\"\"\"\n'''\\ \x01" }
    let kept := settings.groups.filter (·.name ≠ "border")
    Listed kept (Toml.write kept).toList ∧
      parse (Toml.write kept) = some { settings with borderStyle := "single" } := by
  intro settings kept
  have listed : Listed kept (Toml.write kept).toList := listed_write kept
  have read := (saved_settings_are_read_back settings).2 (· ≠ "border") _ listed
  rw [String.ofList_toList] at read
  exact ⟨listed, read⟩

end Settings

end TerminalSession
