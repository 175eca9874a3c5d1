import LabelPress.Binary64.Nearest

/-!
# Shortest decimal text

A finite double is written with the fewest digits that still read back as the same double, and of
those with the ones nearest to it. The search is exact: for one digit, two digits and so on it tests
the two neighbours of the number on that decimal grid against the interval of reals that round to it.
How the digits are laid out is a record of its own, `FloatLayout`.
-/

namespace LabelPress

/-- A positive decimal `digits · 10^exponent`. -/
structure DecimalFraction where
  digits : Nat
  exponent : Int
  deriving DecidableEq, Repr

namespace Binary64

/-- The reals that round to `mantissa · 2^exponent`, scaled by four to be whole: the lower end, the
number and the upper end, over a common denominator. The ends belong to it for an even mantissa. -/
structure RoundingInterval where
  low : Nat
  mid : Nat
  high : Nat
  denominator : Nat
  closed : Bool

/-- The rounding interval. Below a power of two the doubles lie twice as close. -/
def roundingInterval (mantissa : Nat) (exponent : Int) : RoundingInterval :=
  let below := if mantissa = Nat.pow 2 52 ∧ -1074 < exponent then 1 else 2
  let (scale, denominator) := magnitude 1 exponent
  { low := (4 * mantissa - below) * scale
    mid := 4 * mantissa * scale
    high := (4 * mantissa + 2) * scale
    denominator := 4 * denominator
    closed := mantissa % 2 = 0 }

/-- Whether `digits · 10^exponent` rounds to the number. -/
def RoundingInterval.contains (i : RoundingInterval) (d : DecimalFraction) : Bool :=
  let (num, den) :=
    if 0 ≤ d.exponent then (d.digits * Nat.pow 10 d.exponent.toNat, 1)
    else (d.digits, Nat.pow 10 (-d.exponent).toNat)
  let x := num * i.denominator
  if i.closed then i.low * den ≤ x ∧ x ≤ i.high * den
  else i.low * den < x ∧ x < i.high * den

/-- The exponent of the leading decimal digit of `num / den`. -/
def leadingExponent (num den : Nat) : Int :=
  if den ≤ num then ((Nat.toDigits 10 (num / den)).length : Int) - 1
  else
    let zeros := (Nat.toDigits 10 (den / num)).length
    if num * Nat.pow 10 (zeros - 1) < den then -(zeros : Int) else -(zeros : Int) + 1

/-- The neighbours of `num / den` on the grid of multiples of `10^exponent`, the nearer one first; of
two equally near ones the even one. -/
def gridNeighbours (num den : Nat) (exponent : Int) : List DecimalFraction :=
  let (n, d) :=
    if 0 ≤ exponent then (num, den * Nat.pow 10 exponent.toNat)
    else (num * Nat.pow 10 (-exponent).toNat, den)
  let q := n / d
  let r := n % d
  let down : DecimalFraction := ⟨q, exponent⟩
  let up : DecimalFraction := ⟨q + 1, exponent⟩
  if 2 * r < d ∨ (2 * r = d ∧ q % 2 = 0) then [down, up] else [up, down]

/-- The first grid, from coarse to fine, that has a point in the interval; seventeen digits always
suffice. -/
def searchShortest (i : RoundingInterval) (lead : Int) : (fuel count : Nat) → DecimalFraction
  | 0, count =>
    (gridNeighbours i.mid i.denominator (lead - count)).headD ⟨0, 0⟩
  | fuel + 1, count =>
    let hits := (gridNeighbours i.mid i.denominator (lead - count)).filter i.contains
    match hits with
    | hit :: _ => hit
    | [] => searchShortest i lead fuel (count + 1)

/-- Moves trailing zeros of the digits into the exponent. -/
def stripZeros : (fuel : Nat) → DecimalFraction → DecimalFraction
  | 0, d => d
  | fuel + 1, d =>
    if d.digits ≠ 0 ∧ d.digits % 10 = 0 then stripZeros fuel ⟨d.digits / 10, d.exponent + 1⟩ else d

/-- The shortest decimal that reads back as `mantissa · 2^exponent`, for a positive mantissa. -/
def shortest (mantissa : Nat) (exponent : Int) : DecimalFraction :=
  let i := roundingInterval mantissa exponent
  stripZeros 18 (searchShortest i (leadingExponent i.mid i.denominator) 17 0)

end Binary64

/-- How a finite number and the special values are spelled. Exponents of the leading digit from
`leastPositional` to `greatestPositional` are written with a point in place, all others with a mark
and an exponent of at least `exponentDigits` digits. -/
structure FloatLayout where
  leastPositional : Int
  greatestPositional : Int
  wholeTail : String
  exponentMark : String
  exponentDigits : Nat
  infinity : String
  undefined : String

namespace FloatLayout

/-- Lays out decimal digits. -/
def spellDigits (layout : FloatLayout) (d : DecimalFraction) : String :=
  let digits := Nat.toDigits 10 d.digits
  let lead : Int := d.exponent + digits.length - 1
  if layout.leastPositional ≤ lead ∧ lead ≤ layout.greatestPositional then
    if 0 ≤ d.exponent then
      String.ofList (digits ++ List.replicate d.exponent.toNat '0') ++ layout.wholeTail
    else if 0 ≤ lead then
      let whole := (lead + 1).toNat
      String.ofList (digits.take whole) ++ "." ++ String.ofList (digits.drop whole)
    else
      "0." ++ String.ofList (List.replicate (-lead - 1).toNat '0' ++ digits)
  else
    let fraction := match digits.drop 1 with
      | [] => ""
      | rest => "." ++ String.ofList rest
    String.ofList (digits.take 1) ++ fraction ++ layout.exponentMark ++
      (if lead < 0 then "-" else "+") ++ paddedNumeral layout.exponentDigits lead.natAbs

/-- The text of a double. -/
def spell (layout : FloatLayout) : Binary64 → String
  | .nan => layout.undefined
  | .infinite negative => (if negative then "-" else "") ++ layout.infinity
  | .finite negative mantissa exponent =>
    (if negative then "-" else "") ++
      (if mantissa = 0 then layout.spellDigits ⟨0, 0⟩
       else layout.spellDigits (Binary64.shortest mantissa exponent))

end FloatLayout

/-- Numbers are written with a point in place from `0.0001` up to sixteen digits before the point,
whole ones end in `.0`, and exponents have a sign and two digits or more. -/
def plainFloat : FloatLayout where
  leastPositional := -4
  greatestPositional := 15
  wholeTail := ".0"
  exponentMark := "e"
  exponentDigits := 2
  infinity := "inf"
  undefined := "nan"

/-- The shortest text of a double that reads back as the same double. -/
def Binary64.text (x : Binary64) : String :=
  plainFloat.spell x

end LabelPress
