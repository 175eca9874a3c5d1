/-!
# Decimal numerals

The text of whole numbers, and the value of a run of digits. Numerals are ASCII and carry no
leading zeros; a minus sign stands before the digits of a negative number and nowhere else.
-/

namespace LabelPress

/-- The decimal numeral of a natural number. -/
def numeral (n : Nat) : String :=
  String.ofList (Nat.toDigits 10 n)

/-- The decimal numeral of an integer. -/
def signedNumeral (n : Int) : String :=
  if n < 0 then "-" ++ numeral n.natAbs else numeral n.natAbs

/-- The numeral of `n` with zeros in front up to `width` digits. -/
def paddedNumeral (width n : Nat) : String :=
  let digits := Nat.toDigits 10 n
  String.ofList (List.replicate (width - digits.length) '0' ++ digits)

/-- The value of an ASCII digit in bases up to sixteen, whatever the case of its letter. -/
def digitValue? (c : Char) : Option Nat :=
  if '0' ≤ c ∧ c ≤ '9' then some (c.toNat - '0'.toNat)
  else if 'a' ≤ c ∧ c ≤ 'f' then some (c.toNat - 'a'.toNat + 10)
  else if 'A' ≤ c ∧ c ≤ 'F' then some (c.toNat - 'A'.toNat + 10)
  else none

/-- Whether a character is a digit of the base. -/
def isDigitOf (base : Nat) (c : Char) : Bool :=
  match digitValue? c with
  | some d => d < base
  | none => false

/-- Whether a character is one of the ten ASCII digits. -/
def isDigit (c : Char) : Bool :=
  isDigitOf 10 c

/-- The number that a run of digits denotes; characters that are no digits count as zero. -/
def ofDigits (base : Nat) (digits : List Char) : Nat :=
  digits.foldl (fun n c => n * base + (digitValue? c).getD 0) 0

/-- One more than the greatest number that fits in 64 bits with a sign. -/
def wordLimit : Int := 9223372036854775808

/-- Whether a number fits in 64 bits with a sign. -/
def fitsWord (n : Int) : Bool :=
  -wordLimit ≤ n ∧ n < wordLimit

/-- The greatest number of digits of a whole number that is read, or that is written in JSON. -/
def digitLimit : Nat := 4300

/-- Whether a whole number has no more digits than the limit. -/
def isWithinLimit (n : Int) : Bool :=
  (Nat.toDigits 10 n.natAbs).length ≤ digitLimit

/-- What is said of a numeral with too many digits. -/
def digitLimitMessage (digits : Nat) : String :=
  "Exceeds the limit (" ++ numeral digitLimit ++ " digits) for integer string conversion: value has " ++
    numeral digits ++ " digits; use sys.set_int_max_str_digits() to increase the limit"

/-- Splits the longest run of digits off the front. -/
def spanDigits (cs : List Char) : List Char × List Char :=
  cs.span isDigit

end LabelPress
