import LabelPress.Numeral

/-!
# Binary floating point numbers of 64 bits

A number is kept as what it denotes: a sign, a mantissa and a power of two, an infinity, or no
number at all. Nothing here rounds; operations that must round go through `LabelPress.Binary64.Nearest`.
-/

namespace LabelPress

/-- A double precision number. `finite neg m e` denotes `±m · 2^e`. -/
inductive Binary64 where
  | finite (negative : Bool) (mantissa : Nat) (exponent : Int)
  | infinite (negative : Bool)
  | nan
  deriving DecidableEq, Repr

namespace Binary64

/-- Positive zero. -/
def zero : Binary64 := .finite false 0 (-1074)

/-- The magnitude of a finite number as a ratio of naturals. -/
def magnitude (mantissa : Nat) (exponent : Int) : Nat × Nat :=
  if 0 ≤ exponent then (mantissa * Nat.pow 2 exponent.toNat, 1)
  else (mantissa, Nat.pow 2 (-exponent).toNat)

/-- The integer that a number is equal to, if it is one. -/
def toInt? : Binary64 → Option Int
  | .finite negative m e =>
    let (num, den) := magnitude m e
    if num % den = 0 then
      some (if negative then -((num / den : Nat) : Int) else ((num / den : Nat) : Int))
    else none
  | _ => none

/-- Strictly greater than zero. -/
def isPositive : Binary64 → Bool
  | .finite negative m _ => !negative && m != 0
  | .infinite negative => !negative
  | .nan => false

/-- Greater than zero or a zero of either sign. -/
def isNonnegative : Binary64 → Bool
  | .finite negative m _ => !negative || m == 0
  | .infinite negative => !negative
  | .nan => false

/-- Neither infinite nor undefined. -/
def isFinite : Binary64 → Bool
  | .finite .. => true
  | _ => false

/-- The number with the other sign. -/
def negate : Binary64 → Binary64
  | .finite negative m e => .finite (!negative) m e
  | .infinite negative => .infinite (!negative)
  | .nan => .nan

/-- Numerical equality: the two zeros are equal, and what is no number equals nothing. -/
def equals : Binary64 → Binary64 → Bool
  | .finite s m e, .finite s' m' e' =>
    let (num, den) := magnitude m e
    let (num', den') := magnitude m' e'
    num * den' == num' * den && (s == s' || m == 0)
  | .infinite s, .infinite s' => s == s'
  | _, _ => false

end Binary64
end LabelPress
