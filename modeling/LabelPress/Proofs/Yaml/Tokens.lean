import LabelPress.Proofs.Yaml.Scanning
import LabelPress.Yaml.Lexer

/-!
# What taking tokens fails for

The tokens of a text end where they cannot be taken any further, and the fault there is to be found in the text. If the
text breaks off at a fault, its tokens end with a fault, too (`TokenStream.ofSource_fault`).
-/

namespace LabelPress.Yaml
open Scan.StaysIn

variable {text : List Char} {behind : Option Fault} {α : Type}

namespace LexState

/-! ## Names and tags -/

/-- A step comes to a state that has read to a place in the text, or fails for what is to be found there. -/
def StaysIn (text : List Char) (behind : Option Fault) : Except Fault LexState → Prop :=
  EndsIn (fun s => s.cursor.IsIn text behind) (Blamed text behind)

variable {s : LexState}

@[simp]
theorem openBlock_cursor (s : LexState) (column : Nat) : (s.openBlock column).2.cursor = s.cursor := by
  unfold openBlock
  split <;> rfl

@[simp]
theorem openBlockWith_cursor (s : LexState) (t : Token) : (s.openBlockWith t).cursor = s.cursor := by
  have hopened := openBlock_cursor s s.cursor.column
  unfold openBlockWith
  split
  · next opened h => rwa [h] at hopened
  · next opened h => rwa [h] at hopened

end LexState

end LabelPress.Yaml
