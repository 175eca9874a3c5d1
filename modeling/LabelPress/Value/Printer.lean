import LabelPress.Binary64.Shortest
import LabelPress.Text.Quoted
import LabelPress.Value.Basic

/-!
# The text of a value

A value has two texts. `shown` is how messages and collections show it: a text in quotes, a collection
in its brackets. `content` is what the value says: a text is itself, a date is written in ISO form, and all
else is as shown.
-/

namespace LabelPress.Value

mutual

/-- The value as messages show it. -/
def shown : Value → String
  | .null => "None"
  | .bool b => if b then "True" else "False"
  | .int n => signedNumeral n
  | .float x => x.text
  | .text s => quoted s
  | .broken parts => TextPart.quoted parts
  | .bytes bs => quotedBytes bs
  | .date d => d.constructorText
  | .moment m => m.constructorText
  | .position p => "Position(x=" ++ signedNumeral p.x ++ ", y=" ++ signedNumeral p.y ++ ")"
  | .list items => "[" ++ String.intercalate ", " (shownItems items) ++ "]"
  | .tuple [item] => "(" ++ shown item ++ ",)"
  | .tuple items => "(" ++ String.intercalate ", " (shownItems items) ++ ")"
  | .set [] => "set()"
  | .set items => "\x7b" ++ String.intercalate ", " (shownItems items) ++ "\x7d"
  | .map entries => "\x7b" ++ String.intercalate ", " (shownEntries entries) ++ "\x7d"

/-- The items of a collection as messages show them. -/
def shownItems : List Value → List String
  | [] => []
  | v :: vs => shown v :: shownItems vs

/-- The entries of a mapping as messages show them. -/
def shownEntries : List (Value × Value) → List String
  | [] => []
  | (k, v) :: entries => (shown k ++ ": " ++ shown v) :: shownEntries entries

end

/-- The value as content, given what stands for halves of pairs; else they are escaped. -/
def content (v : Value) (half : Nat → String := codePointEscape) : String :=
  match v with
  | .text s => s
  | .broken parts => TextPart.fill half parts
  | .date d => d.isoText
  | .moment m => m.isoText " "
  | v => v.shown

end LabelPress.Value
