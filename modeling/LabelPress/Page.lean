import LabelPress.Value.Basic

/-!
# Pages

A physical page holds as many labels as it has slots, side by side. Labels fill the pages in order, so
every page but the last is full.
-/

namespace LabelPress

/-- Why a number of items per page cannot be used. -/
inductive PageFault where
  | notWhole (kind : String)
  | notPositive (n : Int)
  deriving DecidableEq, Repr

/-- The wording of a fault. -/
def PageFault.message : PageFault → String
  | .notWhole kind => "items_per_page must be an int, got " ++ kind
  | .notPositive n => "items_per_page must be positive, got " ++ signedNumeral n

namespace Page

/-- Cuts a list into pages of `spare + 1` items. -/
def split {α : Type} (spare : Nat) : List α → List (List α)
  | [] => []
  | item :: items => (item :: items.take spare) :: split spare (items.drop spare)
termination_by items => items.length
decreasing_by
  rw [List.length_drop, List.length_cons]
  omega

/-- Plans the pages for a number of items per page. -/
def plan {α : Type} (items : List α) (perPage : Int) : Except PageFault (List (List α)) :=
  if 0 < perPage then .ok (split (perPage.toNat - 1) items) else .error (.notPositive perPage)

/-- Plans the pages for any value given as the number of items per page. A truth value is no number. -/
def planFor {α : Type} (items : List α) : Value → Except PageFault (List (List α))
  | .int n => plan items n
  | v => .error (.notWhole v.kindName)

end Page
end LabelPress
