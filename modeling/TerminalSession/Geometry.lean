/-! # Cells of the screen

Rows and columns are counted from the top left corner in sixteen bits, the width a terminal counts
them in. There are two kinds of sums. Where a cell of a window lies on the screen is found with sums
that stop at the end of the range, so a window that is placed too far to the right is cut off rather
than shown at the left edge. Where a cursor goes is found with sums of machine words, which start
again at zero. -/

namespace TerminalSession

abbrev Coordinate := UInt16

namespace Coordinate

def limit : Nat := 65535

/-! ## Sums that stop at the end of the range

`shift` goes on from a coordinate and `rest` is what is left of a count behind another. With no rows
at all the last of them is still row zero, so that a cursor always has somewhere to be. -/

def clip (count : Nat) : Coordinate := UInt16.ofNat (min count limit)

theorem toNat_clip (count : Nat) : (clip count).toNat = min count limit := by
  have bound : min count limit < 2 ^ 16 := by unfold limit; omega
  simp only [clip, UInt16.toNat_ofNat']
  omega

def shift (start offset : Coordinate) : Coordinate := clip (start.toNat + offset.toNat)

theorem toNat_shift (start offset : Coordinate) :
    (start.shift offset).toNat = min (start.toNat + offset.toNat) limit :=
  toNat_clip _

def rest (total used : Coordinate) : Coordinate := clip (total.toNat - used.toNat)

theorem toNat_rest (total used : Coordinate) :
    (total.rest used).toNat = total.toNat - used.toNat := by
  have bound : total.toNat < 2 ^ 16 := total.toNat_lt
  simp only [rest, toNat_clip, limit]
  omega

def last (count : Coordinate) : Coordinate := count.rest 1

theorem toNat_last (count : Coordinate) : count.last.toNat = count.toNat - 1 :=
  toNat_rest count 1

def least (first second : Coordinate) : Coordinate := clip (min first.toNat second.toNat)

theorem toNat_least (first second : Coordinate) :
    (first.least second).toNat = min first.toNat second.toNat := by
  have bound : first.toNat < 2 ^ 16 := first.toNat_lt
  simp only [least, toNat_clip, limit]
  omega

/-! ## Sums of machine words -/

def ahead (start : Coordinate) (count : Nat) : Coordinate := start + UInt16.ofNat count

theorem toNat_ahead (start : Coordinate) {count : Nat} (bound : start.toNat + count ≤ limit) :
    (start.ahead count).toNat = start.toNat + count := by
  have room : start.toNat + count < 2 ^ 16 := Nat.lt_succ_of_le bound
  have small : count < UInt16.size := Nat.lt_of_le_of_lt (Nat.le_add_left _ _) room
  rw [ahead, UInt16.toNat_add, UInt16.toNat_ofNat_of_lt' small]
  exact Nat.mod_eq_of_lt room

end Coordinate

structure Position where
  row : Coordinate
  col : Coordinate
deriving DecidableEq, Repr, Inhabited

def Position.origin : Position := ⟨0, 0⟩

structure Size where
  rows : Coordinate
  cols : Coordinate
deriving DecidableEq, Repr, Inhabited

/-- The cell of the given size nearest to `position`. -/
def Size.clamp (size : Size) (position : Position) : Position :=
  ⟨position.row.least size.rows.last, position.col.least size.cols.last⟩

end TerminalSession
