import LabelPress.Binary64.Shortest
import LabelPress.Text.Part

/-!
# JSON values
-/

namespace LabelPress

/-- A JSON value. Objects keep their members in order. Whole numbers and doubles are told apart by the
way they are written. Texts with halves of pairs, and objects with such texts among their keys, have forms of
their own. -/
inductive Json where
  | null
  | bool (b : Bool)
  | int (n : Int)
  | float (x : Binary64)
  | text (s : String)
  | broken (parts : List TextPart)
  | array (items : List Json)
  | object (members : List (String × Json))
  | brokenObject (members : List (List TextPart × Json))
  deriving Repr, Inhabited

namespace Json

/-- The text with some parts. -/
def ofParts (parts : List TextPart) : Json :=
  match TextPart.whole? parts with
  | some s => .text s
  | none => .broken parts

/-- Members under the texts of their keys, if all of these are texts without halves of pairs. -/
def wholeKeys? (members : List (List TextPart × Json)) : Option (List (String × Json)) :=
  members.mapM fun (key, v) => do return (← TextPart.whole? key, v)

/-- The object with some members, whose keys are given by their parts. -/
def ofMembers (members : List (List TextPart × Json)) : Json :=
  match wholeKeys? members with
  | some members => .object members
  | none => .brokenObject members

@[simp]
theorem ofParts_ofText (s : String) : ofParts (TextPart.ofText s) = .text s := by
  rw [ofParts, TextPart.whole?_ofText]

/-- The members of an object with the parts of their keys. -/
def keyedByParts (members : List (String × Json)) : List (List TextPart × Json) :=
  members.map fun member => (TextPart.ofText member.1, member.2)

theorem wholeKeys?_keyedByParts (members : List (String × Json)) :
    wholeKeys? (keyedByParts members) = some members := by
  induction members with
  | nil => rfl
  | cons member members ih =>
    have hkey : (do return (← TextPart.whole? (TextPart.ofText member.1), member.2)) = some member := by
      rw [TextPart.whole?_ofText]
      rfl
    rw [keyedByParts, List.map_cons, wholeKeys?, List.mapM_cons]
    change ((do return (← TextPart.whole? (TextPart.ofText member.1), member.2)) >>= fun first =>
      wholeKeys? (keyedByParts members) >>= fun rest => some (first :: rest)) = _
    rw [hkey, ih]
    rfl

@[simp]
theorem ofMembers_keyedByParts (members : List (String × Json)) :
    ofMembers (keyedByParts members) = .object members := by
  rw [ofMembers, wholeKeys?_keyedByParts]

end Json
end LabelPress
