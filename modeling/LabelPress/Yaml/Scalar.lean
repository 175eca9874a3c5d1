import LabelPress.Binary64.Reader
import LabelPress.Text.Letter
import LabelPress.Text.Part
import LabelPress.Value.Basic
import LabelPress.Yaml.Fault
import LabelPress.Yaml.Tag

/-!
# The values of scalars

A scalar is read by the rules of its type. A type that was given by a tag can meet a text that its rules were
not made for; then the fault is that of the step that fails.
-/

namespace LabelPress.Yaml.Scalar

/-- A fault of a scalar. -/
def fail {α : Type} (fault : ScalarFault) : Except Fault α :=
  .error (.scalar fault)

/-! ## Whole numbers -/

/-- The mark that may stand before the digits of a base. -/
def baseMark? (base : Nat) (c : Char) : Bool :=
  match base with
  | 2 => c = 'b' || c = 'B'
  | 8 => c = 'o' || c = 'O'
  | 16 => c = 'x' || c = 'X'
  | _ => false

/-- The digits of a numeral, without a mark of the base. -/
def withoutMark (base : Nat) : List Char → List Char
  | '0' :: c :: digits => if baseMark? base c then digits else '0' :: c :: digits
  | digits => digits

/-- Reads a numeral of a base with an optional sign and blanks around it. -/
def integerOf (base : Nat) (cs : List Char) : Except Fault Int :=
  let (negative, rest) := splitSign (asciiDigits (trimBy isWhiteSpace cs))
  let digits := withoutMark base rest
  if digits.isEmpty || !digits.all (isDigitOf base) then fail (.noInteger base (String.ofList cs))
  else if base = 10 && digitLimit < digits.length then fail (.integerTooLong digits.length)
  else
    let n : Int := ofDigits base digits
    .ok (if negative then -n else n)

/-- The number that digits to the base sixty denote. -/
def sexagesimal (digits : List Int) : Int :=
  digits.foldl (fun n digit => n * 60 + digit) 0

/-- The magnitude of a whole number by its spelling. -/
def magnitudeOf (cs : List Char) : Except Fault Int :=
  match cs with
  | [] => fail .emptyNumber
  | ['0'] => .ok 0
  | '0' :: 'b' :: digits => integerOf 2 digits
  | '0' :: 'x' :: digits => integerOf 16 digits
  | '0' :: _ => integerOf 8 cs
  | cs =>
    if cs.contains ':' then ((colonParts cs).mapM (integerOf 10)).map sexagesimal
    else integerOf 10 cs

/-- Splits the sign off a number that has no underscores; there must be something to look at. -/
def signed (text : String) : Except Fault (Bool × List Char) :=
  match text.toList.filter (· ≠ '_') with
  | [] => fail .emptyNumber
  | c :: rest => .ok (if c = '-' ∨ c = '+' then (c = '-', rest) else (false, c :: rest))

/-- Reads a whole number. -/
def integer (text : String) : Except Fault Int := do
  let (negative, rest) ← signed text
  let n ← magnitudeOf rest
  return if negative then -n else n

/-! ## Doubles -/

/-- Reads a double in decimal syntax. -/
def doubleOf (cs : List Char) : Except Fault Binary64 :=
  match Binary64.readFloat? (String.ofList cs) with
  | some x => .ok x
  | none => fail (.noDouble (String.ofList cs))

/-- The sum of doubles as digits to the base sixty, those of least weight first, from a weight and a sum on. Every
weight must be within the range of doubles. -/
def sexagesimalDouble : (weight : Nat) → (total : Binary64) → List Binary64 → Except Fault Binary64
  | _, total, [] => .ok total
  | weight, total, digit :: digits =>
    let w := Binary64.ofInt weight
    if w.isFinite then sexagesimalDouble (weight * 60) (total.add (digit.mul w)) digits
    else fail .weightTooBig

/-- The magnitude of a double by its spelling, which has no capitals. -/
def doubleMagnitudeOf (cs : List Char) : Except Fault Binary64 :=
  if cs = ".inf".toList then .ok (.infinite false)
  else if cs = ".nan".toList then .ok .nan
  else if cs.contains ':' then do
    let digits ← (colonParts cs).mapM doubleOf
    sexagesimalDouble 1 Binary64.zero digits.reverse
  else doubleOf cs

/-- Reads a double. -/
def double (text : String) : Except Fault Binary64 := do
  let (negative, rest) ← signed (lowerCase (String.ofList (text.toList.filter (· ≠ '_'))))
  let x ← doubleMagnitudeOf rest
  return if negative then x.negate else x

/-! ## Truth values -/

/-- Reads a truth value. -/
def truth (text : String) : Except Fault Bool :=
  let word := lowerCase text
  if ["yes", "true", "on"].contains word then .ok true
  else if ["no", "false", "off"].contains word then .ok false
  else fail (.noTruth word)

/-! ## Dates and moments -/

/-- The microseconds that the digits after the point of a second say; digits past the sixth are dropped. -/
def microseconds (fraction : List Char) : Nat :=
  let digits := fraction.take 6
  ofDigits 10 (digits ++ List.replicate (6 - digits.length) '0')

/-- Reads a date or a moment. -/
def moment (text : String) : Except Fault Value := do
  let number (digits : List Char) : Nat := ofDigits 10 digits
  let whenFits {α : Type} (r : Except CalendarFault α) : Except Fault α :=
    r.mapError fun fault => .scalar (.calendar fault)
  match momentSpelling? (dropFinalBreak text.toList) with
  | none => fail .noMoment
  | some m =>
    match m.time with
    | none => return .date (← whenFits (Date.ofParts (number m.year) (number m.month) (number m.day)))
    | some (hour, minute, second) =>
      let offset := m.offset.map fun (behind, hours, minutes) =>
        let n : Int := number hours * 60 + number minutes
        if behind then -n else n
      return .moment (← whenFits (Moment.ofParts (number m.year) (number m.month) (number m.day)
        (number hour) (number minute) (number second) (microseconds m.fraction) offset))

/-! ## Bytes -/

/-- The value of a digit to the base 64. -/
def base64Digit? (c : Char) : Option Nat :=
  if 'A' ≤ c ∧ c ≤ 'Z' then some (c.toNat - 'A'.toNat)
  else if 'a' ≤ c ∧ c ≤ 'z' then some (c.toNat - 'a'.toNat + 26)
  else if '0' ≤ c ∧ c ≤ '9' then some (c.toNat - '0'.toNat + 52)
  else if c = '+' then some 62
  else if c = '/' then some 63
  else none

/-- Reads the digits of groups of four; characters that are none are skipped, and padding ends the text once it
completes a group. `place` is that of the next digit in its group, `left` holds the bits of the group that are
not yet in a byte and `pads` counts the padding since the last digit. -/
def base64Bytes : (place left pads : Nat) → List Char → Option (List UInt8)
  | place, _, _, [] => if place = 0 then some [] else none
  | place, left, pads, c :: rest =>
    if c = '=' then
      if 2 ≤ place ∧ 4 ≤ place + pads + 1 then some []
      else base64Bytes place left (if 2 ≤ place then pads + 1 else pads) rest
    else
      match base64Digit? c with
      | none => base64Bytes place left pads rest
      | some d =>
        match place with
        | 0 => base64Bytes 1 d 0 rest
        | 1 => (base64Bytes 2 (d % 16) 0 rest).map (UInt8.ofNat (left * 4 + d / 16) :: ·)
        | 2 => (base64Bytes 3 (d % 4) 0 rest).map (UInt8.ofNat (left * 16 + d / 4) :: ·)
        | _ => (base64Bytes 0 0 0 rest).map (UInt8.ofNat (left * 64 + d) :: ·)

/-- Reads bytes in base 64. -/
def bytes (text : String) : Except Fault (List UInt8) :=
  if text.toList.all fun c => c.toNat < 0x80 then
    match base64Bytes 0 0 0 text.toList with
    | some bs => .ok bs
    | none => .error (.format .badBase64)
  else .error (.format .badBase64)

/-- The value of a text of a type; a type of collections has none. -/
def valueOf (tag : Tag) (text : String) : Except Fault Value :=
  match tag with
  | .null => .ok .null
  | .bool => (truth text).map .bool
  | .int => (integer text).map .int
  | .float => (double text).map .float
  | .text => .ok (.text text)
  | .binary => (bytes text).map .bytes
  | .timestamp => moment text
  | .merge | .default | .other => .error (.format .unknownTag)
  | .sequence | .mapping | .set | .orderedMapping | .pairs => .error (.format .wrongShape)

/-- The value of a scalar of a type. Where a type has words of its own, half of a pair is in none of them. -/
def value (tag : Tag) (text : List TextPart) : Except Fault Value :=
  match tag with
  | .text => .ok (.ofParts text)
  | tag => valueOf tag (TextPart.fill (fun _ => "\uFFFD") text)

end LabelPress.Yaml.Scalar
