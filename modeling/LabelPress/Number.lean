import LabelPress.Binary64.Shortest

/-!
# Numbers of a layout

Lengths, speeds and multipliers are whole numbers or doubles. In a printer command a number that is
whole is written without a fraction, however big it is and whichever of the two it is; every other one is
written with the fewest digits that read back.
-/

namespace LabelPress

/-- A whole number or a double. -/
inductive Number where
  | whole (n : Int)
  | real (x : Binary64)
  deriving DecidableEq, Repr

namespace Number

/-- The number as a printer command shows it. -/
def text : Number → String
  | .whole n => signedNumeral n
  | .real x =>
    match x.toInt? with
    | some n => signedNumeral n
    | none => x.text

/-- Strictly greater than zero. -/
def isPositive : Number → Bool
  | .whole n => 0 < n
  | .real x => x.isPositive

/-- Greater than zero or zero. -/
def isNonnegative : Number → Bool
  | .whole n => 0 ≤ n
  | .real x => x.isNonnegative

end Number
end LabelPress
