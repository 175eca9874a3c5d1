/-!
# Positions

A position is a point in printer dots. A position table gives the position of each slot of a page; a
slot past its end takes the first entry, and an empty table places nothing.
-/

namespace LabelPress

/-- A point in printer dots, relative to the reference point of the printer. -/
structure Position where
  x : Int
  y : Int
  deriving DecidableEq, Repr

namespace Position

/-- The position of a slot. -/
def ofSlot? (table : List Position) (slot : Nat) : Option Position :=
  match table with
  | [] => none
  | first :: _ => some (table[slot]?.getD first)

/-- The position of a slot that may be negative: those count from the end of the table and must lie
within it. The outer option is absent for a slot before the start of the table. -/
def ofSignedSlot? (table : List Position) (slot : Int) : Option (Option Position) :=
  if table.isEmpty then some none
  else if 0 ≤ slot then some (ofSlot? table slot.toNat)
  else
    let fromEnd := table.length + slot
    if fromEnd < 0 then none else some table[fromEnd.toNat]?

end Position
end LabelPress
