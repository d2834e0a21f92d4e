/-! # A list with one member in focus

The members are kept newest first. One of them is in focus, and stays in focus when others are
added. There is always a member in focus, so there is no empty list to guard against and no index
that could point past the end. -/

namespace TerminalSession

structure Focus (α : Type u) where
  newer : List α
  current : α
  older : List α
deriving DecidableEq, Repr

namespace Focus

variable {α : Type u} {β : Type v}

def single (member : α) : Focus α := ⟨[], member, []⟩

def toList (focus : Focus α) : List α := focus.newer ++ focus.current :: focus.older

def index (focus : Focus α) : Nat := focus.newer.length

def push (focus : Focus α) (member : α) : Focus α :=
  { focus with newer := member :: focus.newer }

def modify (focus : Focus α) (change : α → α) : Focus α :=
  { focus with current := change focus.current }

def map (transform : α → β) (focus : Focus α) : Focus β :=
  ⟨focus.newer.map transform, transform focus.current, focus.older.map transform⟩

/-! The focus goes to the first member that is wanted, which is where a search finds it. -/

def ofList? (wanted : α → Bool) : List α → Option (Focus α)
  | [] => none
  | member :: rest =>
      if wanted member then some ⟨[], member, rest⟩
      else (ofList? wanted rest).map (·.push member)

def select? (focus : Focus α) (wanted : α → Bool) : Option (Focus α) :=
  ofList? wanted focus.toList

def find? (focus : Focus α) (wanted : α → Bool) : Option Nat := focus.toList.findIdx? wanted

@[simp] theorem toList_single (member : α) : (single member).toList = [member] := rfl

@[simp] theorem toList_push (focus : Focus α) (member : α) :
    (focus.push member).toList = member :: focus.toList := rfl

@[simp] theorem index_push (focus : Focus α) (member : α) :
    (focus.push member).index = focus.index + 1 := rfl

@[simp] theorem toList_map (transform : α → β) (focus : Focus α) :
    (focus.map transform).toList = focus.toList.map transform := by
  simp [map, toList]

theorem map_push (transform : α → β) (focus : Focus α) (member : α) :
    (focus.push member).map transform = (focus.map transform).push (transform member) := rfl

theorem toList_ofList? {wanted : α → Bool} {members : List α} {focus : Focus α}
    (found : ofList? wanted members = some focus) : focus.toList = members := by
  induction members generalizing focus with
  | nil => simp [ofList?] at found
  | cons member rest induction =>
      rw [ofList?] at found
      split at found
      · cases found
        rfl
      · obtain ⟨inner, innerFound, rfl⟩ := Option.map_eq_some_iff.1 found
        rw [toList_push, induction innerFound]

theorem toList_select? {wanted : α → Bool} {focus moved : Focus α}
    (found : focus.select? wanted = some moved) : moved.toList = focus.toList :=
  toList_ofList? found

theorem index_ofList? (wanted : α → Bool) (members : List α) :
    (ofList? wanted members).map index = members.findIdx? wanted := by
  induction members with
  | nil => rfl
  | cons member rest induction =>
      rw [ofList?, List.findIdx?_cons]
      split
      · rfl
      · rw [← induction, Option.map_map, Option.map_map]
        rfl

/-- The focus moves to the place that a search finds. -/
theorem index_select? (focus : Focus α) (wanted : α → Bool) :
    (focus.select? wanted).map index = focus.find? wanted :=
  index_ofList? wanted focus.toList

theorem getElem?_index (focus : Focus α) : focus.toList[focus.index]? = some focus.current := by
  rw [toList, index, List.getElem?_append_right (Nat.le_refl _), Nat.sub_self]
  rfl

end Focus

end TerminalSession
