import LabelPress.Binary64.Nearest
import LabelPress.Text.Blank
import LabelPress.Text.DecimalDigit

/-!
# Reading numbers

Decimal syntax: a sign, digits with an optional point and an optional exponent, or a word for infinity
or for no number. `readDecimal?` takes exactly that; `readFloat?` also forgives white space around it,
underscores between digits and digits of other scripts. `readInteger?` reads whole numbers with the
same allowances.
-/

namespace LabelPress

/-- Splits an optional sign off the front: whether it was a minus, and the rest. -/
def splitSign : List Char → Bool × List Char
  | '-' :: rest => (true, rest)
  | '+' :: rest => (false, rest)
  | cs => (false, cs)

/-- Digits with single underscores between them, without the underscores. -/
def joinDigits? : List Char → Option (List Char)
  | [c] => if isDigit c then some [c] else none
  | c :: '_' :: rest => if isDigit c then (joinDigits? rest).map (c :: ·) else none
  | c :: rest => if isDigit c then (joinDigits? rest).map (c :: ·) else none
  | [] => none

/-- Reads a whole number: white space at the ends, one sign, digits of any script, and single underscores
between digits are fine. Not more digits than the limit are read. -/
def readInteger? (s : String) : Option Int :=
  let (negative, rest) := splitSign (asciiDigits (trimBy isWhiteSpace s.toList))
  match joinDigits? rest with
  | none => none
  | some digits =>
    let n : Int := ofDigits 10 digits
    if digitLimit < digits.length then none else some (if negative then -n else n)

namespace Binary64

/-- Reads what follows the mark of an exponent: an optional sign and digits. -/
def readExponent? (cs : List Char) : Option Int :=
  let (negative, digits) := splitSign cs
  if digits.isEmpty || !digits.all isDigit then none
  else some (if negative then -(ofDigits 10 digits : Int) else (ofDigits 10 digits : Int))

/-- Splits the digits behind a point off the front, without the point, if there is one. -/
def spanPlaces : List Char → List Char × List Char
  | '.' :: rest => spanDigits rest
  | cs => ([], cs)

/-- The double of some digits at a scale, given what follows them: an exponent, or nothing. -/
def scaled? (negative : Bool) (digits : Nat) (scale : Int) : List Char → Option Binary64
  | [] => some (ofDecimal negative digits scale)
  | c :: rest =>
    if c = 'e' ∨ c = 'E' then
      (readExponent? rest).map fun exponent => ofDecimal negative digits (scale + exponent)
    else none

/-- Reads an unsigned decimal. At least one digit stands before the exponent. -/
def readUnsigned? (negative : Bool) (cs : List Char) : Option Binary64 :=
  let (whole, rest) := spanDigits cs
  let (fraction, rest) := spanPlaces rest
  if whole.isEmpty && fraction.isEmpty then none
  else scaled? negative (ofDigits 10 (whole ++ fraction)) (-(fraction.length : Int)) rest

/-- Reads a number in decimal syntax or one of the words `inf`, `infinity` and `nan` in any case. -/
def readDecimal? (cs : List Char) : Option Binary64 :=
  let (negative, rest) := splitSign cs
  let word := String.ofList (rest.map Char.toLower)
  if word = "inf" ∨ word = "infinity" then some (.infinite negative)
  else if word = "nan" then some .nan
  else readUnsigned? negative rest

/-- Drops the underscores that stand between two digits; none if there is another underscore. -/
def dropUnderscores? : List Char → Option (List Char)
  | [] => some []
  | '_' :: _ => none
  | c :: '_' :: d :: rest =>
    if isDigit c && isDigit d then (dropUnderscores? (d :: rest)).map (c :: ·) else none
  | c :: rest => (dropUnderscores? rest).map (c :: ·)

/-- Reads a number with the allowances for whole numbers. -/
def readFloat? (s : String) : Option Binary64 :=
  (dropUnderscores? (asciiDigits (trimBy isWhiteSpace s.toList))).bind readDecimal?

end Binary64
end LabelPress
