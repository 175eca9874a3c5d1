import LabelPress.Command
import Mathlib.Data.List.Basic

/-!
# The characters of documents

A block is its first line and, for every further command, a blank line and the line of this command
(`Block.trail`); a document is its header, its pages and the end. Whoever reads a document from left to right
reads these characters.
-/

namespace LabelPress

theorem openTag_eq (quantity : Nat) (pitch : String) : openTag quantity pitch =
    "<xpml><page quantity='" ++ numeral quantity ++ "' pitch='" ++ pitch ++ " mm'></xpml>" := rfl

theorem toList_openTag (quantity : Nat) (pitch : String) : (openTag quantity pitch).toList =
    "<xpml><page quantity='".toList ++ ((numeral quantity).toList ++ ("' pitch='".toList ++
      (pitch.toList ++ " mm'></xpml>".toList))) := by
  simp only [openTag_eq, String.toList_append, List.append_assoc]

/-- The characters that commands add behind another one. -/
def Block.trail (b : Block) : List Char :=
  b.flatMap fun c => '\n' :: '\n' :: c.line.toList

namespace Block

@[simp] theorem trail_nil : trail [] = [] := rfl

@[simp] theorem trail_cons (c : Command) (b : Block) :
    trail (c :: b) = '\n' :: '\n' :: c.line.toList ++ trail b := rfl

@[simp] theorem trail_append (a b : Block) : trail (a ++ b) = trail a ++ trail b :=
  List.flatMap_append

theorem toList_text_cons (c : Command) (b : Block) :
    (text (c :: b)).toList = c.line.toList ++ trail b := by
  induction b generalizing c with
  | nil => rw [text, List.map_singleton, String.intercalate_singleton, trail_nil, List.append_nil]
  | cons d b ih =>
    have hrest := ih d
    rw [text, List.map_cons] at hrest
    have hblank : "\n\n".toList = ['\n', '\n'] := by decide
    rw [text, List.map_cons, List.map_cons, String.intercalate_cons_cons, String.toList_append,
      String.toList_append, hrest, hblank, trail_cons, List.append_assoc]
    rfl

end Block

theorem Document.toList_text (d : Document) :
    d.text.toList =
      d.header.text.toList ++ ((d.pages.flatMap fun page => page.text.toList) ++ endTag.toList) := by
  rw [text, String.toList_append, String.toList_append, String.toList_join, List.flatMap_map,
    List.append_assoc]

end LabelPress
