import LabelPress.Binary64.Reader
import LabelPress.Options.Detail
import LabelPress.Setting
import LabelPress.Text.Utf8

/-!
# Reading option values

Options come from files and callers that are loose about kinds: a number may be given as text, a truth
value as a number, a whole number as a double without a fraction. Each function here reads one kind and
says what is wrong with a value that cannot be read as it.
-/

namespace LabelPress.Options

/-- The text of bytes that are UTF-8. -/
def decodeBytes? (bytes : List UInt8) : Option String :=
  (Utf8.decode bytes.toByteArray).toOption

/-! ## Whole numbers -/

/-- A point and at least one zero, or nothing. -/
def isZeroTail : List Char → Bool
  | [] => true
  | '.' :: zeros => !zeros.isEmpty && zeros.all (· = '0')
  | _ => false

/-- Reads a whole number from text: white space around it, a sign, digits with single underscores
between them, and a tail of zeros after a point. -/
def wholeOfText (s : String) : Except OptionFault Int :=
  let (negative, rest) := splitSign (trimBy isWhiteSpace s.toList)
  let (body, tail) := rest.span (· ≠ '.')
  match joinDigits? body with
  | none => .error .unreadableWhole
  | some digits =>
    if !isZeroTail tail then .error .unreadableWhole
    else if digitLimit < (digits.dropWhile (· = '0')).length then .error .wholeTooLong
    else
      let n : Int := ofDigits 10 digits
      .ok (if negative then -n else n)

/-- Reads a whole number from a double, which must have no fraction and fit in 64 bits. -/
def wholeOfDouble (x : Binary64) : Except OptionFault Int :=
  if !x.isFinite then .error .notFinite
  else
    match x.toInt? with
    | none => .error .fractional
    | some n => if -wordLimit < n ∧ n < wordLimit then .ok n else .error .wholeTooLong

/-- Reads a whole number. -/
def whole : Value → Except OptionFault Int
  | .int n => .ok n
  | .bool b => .ok (if b then 1 else 0)
  | .float x => wholeOfDouble x
  | .text s => wholeOfText s
  | .broken _ => .error .undecodableText
  | .bytes bs =>
    match decodeBytes? bs with
    | some s => wholeOfText s
    | none => .error .unreadableWhole
  | _ => .error .notWhole

/-- Reads a whole number between two bounds, either of which may be open. -/
def wholeWithin (low high : Option Int) (lowFault : Int → OptionFault) (v : Value) :
    Except OptionFault Int := do
  let n ← whole v
  match low, high with
  | some l, some h => if n < l then .error (lowFault l) else if h < n then .error (.notAtMost h) else .ok n
  | some l, none => if n < l then .error (lowFault l) else .ok n
  | none, some h => if h < n then .error (.notAtMost h) else .ok n
  | none, none => .ok n

/-- Reads a whole number of at least one, where a smaller one is said not to be greater than zero. -/
def count (v : Value) : Except OptionFault Int :=
  wholeWithin (some 1) none (fun _ => .notGreater 0) v

/-! ## Doubles -/

/-- The text without its underscores, unless one stands at an end or beside another. -/
def withoutUnderscores? (cs : List Char) : Option (List Char) :=
  let doubled := (cs.zip cs.tail).any fun (a, b) => a = '_' && b = '_'
  if cs.head? = some '_' ∨ cs.getLast? = some '_' ∨ doubled = true then none
  else some (cs.filter (· ≠ '_'))

/-- Reads a double from text. -/
def doubleOfText (s : String) : Except OptionFault Binary64 :=
  match (withoutUnderscores? (trimBy isWhiteSpace s.toList)).bind Binary64.readDecimal? with
  | some x => .ok x
  | none => .error .unreadableNumber

/-- Reads a double. A whole number too big to round to one is no number here. -/
def double : Value → Except OptionFault Binary64
  | .int n =>
    let x := Binary64.ofInt n
    if x.isFinite then .ok x else .error .notNumber
  | .bool b => .ok (Binary64.ofInt (if b then 1 else 0))
  | .float x => .ok x
  | .text s => doubleOfText s
  | .broken _ => .error .undecodableText
  | .bytes bs =>
    match decodeBytes? bs with
    | some s => doubleOfText s
    | none => .error .unreadableNumber
  | _ => .error .notNumber

/-- Reads a number greater than zero. -/
def positive (v : Value) : Except OptionFault Number := do
  let x ← double v
  if x.isPositive then .ok (.real x) else .error (.notGreater 0)

/-- Reads a number that is not below zero. -/
def nonnegative (v : Value) : Except OptionFault Number := do
  let x ← double v
  if x.isNonnegative then .ok (.real x) else .error (.notAtLeast 0)

/-! ## Truth values -/

/-- The words for true. -/
def trueWords : List String := ["1", "on", "t", "true", "y", "yes"]

/-- The words for false. -/
def falseWords : List String := ["0", "off", "f", "false", "n", "no"]

/-- Reads a truth value from text. -/
def truthOfText (s : String) : Except OptionFault Bool :=
  let word := String.ofList (s.toList.map Char.toLower)
  if trueWords.contains word then .ok true
  else if falseWords.contains word then .ok false
  else .error .unreadableTruth

/-- Reads a truth value from a number: one or zero. -/
def truthOfWhole (n : Int) : Except OptionFault Bool :=
  if n = 0 then .ok false
  else if n = 1 then .ok true
  else if fitsWord n then .error .unreadableTruth
  else .error .notTruth

/-- Reads a truth value. -/
def truth : Value → Except OptionFault Bool
  | .bool b => .ok b
  | .int n => truthOfWhole n
  | .float x =>
    match wholeOfDouble x with
    | .ok n => truthOfWhole n
    | .error _ => .error .notTruth
  | .text s => truthOfText s
  | .broken _ => .error .undecodableText
  | .bytes bs =>
    match decodeBytes? bs with
    | some s => truthOfText s
    | none => .error .unreadableTruth
  | _ => .error .notTruth

/-! ## Texts -/

/-- Reads a text. -/
def text : Value → Except OptionFault String
  | .text s => .ok s
  | .broken _ => .error .undecodableText
  | .bytes bs =>
    match decodeBytes? bs with
    | some s => .ok s
    | none => .error .undecodableText
  | _ => .error .notText

/-- Characters that would end or split an argument outside quotes. -/
def splitsArgument (c : Char) : Bool :=
  [',', '"', '\r', '\n', ' ', '\t'].contains c

/-- Characters that would end an argument inside quotes. -/
def endsQuoted (c : Char) : Bool :=
  ['"', '\r', '\n'].contains c

/-- Accepts a text that can stand as an argument without quotes. -/
def requireBareToken (s : String) : Except OptionFault String :=
  if s.toList.isEmpty || s.toList.any splitsArgument then .error (.notBareToken s) else .ok s

/-- Reads a text that can stand as an argument without quotes. -/
def bareToken (v : Value) : Except OptionFault String := do
  requireBareToken (← text v)

/-- Reads the name of a font, which stands between quotes. -/
def fontName (v : Value) : Except OptionFault String := do
  let s ← text v
  if s.toList.isEmpty || s.toList.any endsQuoted then .error (.notFontName s) else .ok s

/-! ## Rotations -/

/-- The rotations a printer knows. -/
def rotations : List Int := [0, 90, 180, 270]

/-- Reads a rotation: any value equal to one of the four. -/
def rotation (v : Value) : Except OptionFault Int :=
  match v with
  | .int n =>
    if rotations.contains n then .ok n
    else if fitsWord n then .error .notRotation
    else .error .wholeTooLong
  | v =>
    match rotations.find? fun r => v.equals (.int r) with
    | some r => .ok r
    | none => .error .notRotation

end LabelPress.Options
