import LabelPress.Binary64.Basic

/-!
# Rounding to the nearest double

`ofRatio` is the one place where numbers are rounded: a ratio of naturals goes to the nearest double,
a tie to the neighbour with the even mantissa, and a magnitude past the largest double to infinity.
Sums, products and conversions are exact calculations followed by this rounding.
-/

namespace LabelPress

/-- The natural nearest to `num / den`; a half goes to the even neighbour. -/
def nearestEven (num den : Nat) : Nat :=
  let q := num / den
  let r := num % den
  if 2 * r < den then q
  else if den < 2 * r then q + 1
  else if q % 2 = 0 then q else q + 1

namespace Binary64

/-- The integer part of `num / den / 2^exponent`, with the scaled ratio it was taken from. -/
def scaleRatio (num den : Nat) (exponent : Int) : Nat × Nat :=
  if 0 ≤ exponent then (num, den * Nat.pow 2 exponent.toNat)
  else (num * Nat.pow 2 (-exponent).toNat, den)

/-- The exponent at which the mantissa of `num / den` has 53 bits, or the least exponent there is. -/
def ratioExponent (num den : Nat) : Int :=
  let guess : Int := (Nat.log2 num : Int) - (Nat.log2 den : Int) - 53
  let low := max guess (-1074)
  let (n, d) := scaleRatio num den low
  if n / d < Nat.pow 2 53 then low else low + 1

/-- The double nearest to `num / den`. -/
def ofRatio (negative : Bool) (num den : Nat) : Binary64 :=
  if num = 0 then .finite negative 0 (-1074)
  else
    let e := ratioExponent num den
    let (n, d) := scaleRatio num den e
    let m := nearestEven n d
    let (m, e) := if m = Nat.pow 2 53 then (Nat.pow 2 52, e + 1) else (m, e)
    if 971 < e then .infinite negative else .finite negative m e

/-- The double nearest to an integer. -/
def ofInt (n : Int) : Binary64 :=
  ofRatio (n < 0) n.natAbs 1

/-- The double nearest to `digits · 10^exponent`. Magnitudes that are out of reach whatever the
digits are settled before any power is taken. -/
def ofDecimal (negative : Bool) (digits : Nat) (exponent : Int) : Binary64 :=
  if digits = 0 then .finite negative 0 (-1074)
  else
    let leading : Int := exponent + (Nat.log2 digits : Int) / 3
    if 400 < exponent then .infinite negative
    else if leading < -400 then .finite negative 0 (-1074)
    else if 0 ≤ exponent then ofRatio negative (digits * Nat.pow 10 exponent.toNat) 1
    else ofRatio negative digits (Nat.pow 10 (-exponent).toNat)

/-- The product, rounded once. -/
def mul : Binary64 → Binary64 → Binary64
  | .finite s m e, .finite s' m' e' =>
    let (num, den) := magnitude m e
    let (num', den') := magnitude m' e'
    ofRatio (s != s') (num * num') (den * den')
  | .infinite s, .finite s' m _ => if m = 0 then .nan else .infinite (s != s')
  | .finite s m _, .infinite s' => if m = 0 then .nan else .infinite (s != s')
  | .infinite s, .infinite s' => .infinite (s != s')
  | _, _ => .nan

/-- The sum, rounded once. An exact zero is positive unless both summands are negative. -/
def add : Binary64 → Binary64 → Binary64
  | .finite s m e, .finite s' m' e' =>
    let (num, den) := magnitude m e
    let (num', den') := magnitude m' e'
    let signed (negative : Bool) (n : Nat) : Int := if negative then -(n : Int) else n
    let total := signed s (num * den') + signed s' (num' * den)
    if total = 0 then .finite (s && s') 0 (-1074)
    else ofRatio (total < 0) total.natAbs (den * den')
  | .infinite s, .infinite s' => if s = s' then .infinite s else .nan
  | .infinite s, .finite .. => .infinite s
  | .finite .., .infinite s => .infinite s
  | _, _ => .nan

end Binary64
end LabelPress
