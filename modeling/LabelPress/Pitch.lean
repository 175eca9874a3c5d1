import LabelPress.Number

/-!
# The pitch of a page

A page opens with the height of its label written with one decimal. The height is taken as the exact
number it is; a half of the last place goes away from zero. At most 28 digits can be written, so a
height that needs more, and an infinite one, has no pitch.
-/

namespace LabelPress.Pitch

/-- The number of tenths nearest to `num / den`, a half going up. -/
def tenths (num den : Nat) : Nat :=
  (20 * num + den) / (2 * den)

/-- One more than the greatest number of tenths that can be written. -/
def limit : Nat := Nat.pow 10 28

/-- A number of tenths with a point before the last digit. -/
def tenthsText (q : Nat) : String :=
  numeral (q / 10) ++ "." ++ numeral (q % 10)

/-- The text of a magnitude with the sign in front, which a magnitude of zero keeps. -/
def signedText? (negative : Bool) (num den : Nat) : Option String :=
  let q := tenths num den
  if q < limit then some ((if negative then "-" else "") ++ tenthsText q) else none

/-- The pitch of a height, if it has one. -/
def text? : Number → Option String
  | .whole n => signedText? (n < 0) n.natAbs 1
  | .real (.finite negative mantissa exponent) =>
    let (num, den) := Binary64.magnitude mantissa exponent
    signedText? negative num den
  | .real (.infinite _) => none
  | .real .nan => some "NaN"

end LabelPress.Pitch
