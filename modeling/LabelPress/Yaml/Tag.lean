import LabelPress.Numeral

/-!
# Tags and the types of plain scalars

A tag names the type of a node. A scalar without quotes and tag gets its type from its spelling: truth values,
whole numbers in several bases, doubles, nothing, dates and moments, the two special keys, and else text.
-/

namespace LabelPress.Yaml

/-- The type of a node. -/
inductive Tag where
  | null
  | bool
  | int
  | float
  | text
  | binary
  | timestamp
  | sequence
  | mapping
  | set
  | orderedMapping
  | pairs
  /-- The type of the key `<<`, whose value is merged into the mapping. -/
  | merge
  /-- The type of the key `=`. -/
  | default
  | other
  deriving DecidableEq, Repr

namespace Tag

/-- What the names of all tags of the standard start with. -/
def standard : String := "tag:yaml.org,2002:"

/-- The tags of the standard that a document may use, by name. -/
def named : List (String × Tag) := [
  ("null", .null), ("bool", .bool), ("int", .int), ("float", .float), ("str", .text),
  ("binary", .binary), ("timestamp", .timestamp), ("seq", .sequence), ("map", .mapping),
  ("set", .set), ("omap", .orderedMapping), ("pairs", .pairs), ("merge", .merge), ("value", .default)]

/-- The tag with a full name. -/
def ofName (name : String) : Tag :=
  ((named.find? fun entry => name = standard ++ entry.1).map Prod.snd).getD .other

end Tag

/-! ## Spellings -/

/-- A text without a sign in front. -/
def dropSign : List Char → List Char
  | '+' :: rest => rest
  | '-' :: rest => rest
  | cs => cs

/-- Digits of a base and underscores, at least one of them. -/
def areDigits (base : Nat) (cs : List Char) : Bool :=
  !cs.isEmpty && cs.all fun c => c = '_' || isDigitOf base c

/-- Decimal digits and underscores that start with a digit. -/
def areDecimals (cs : List Char) : Bool :=
  (cs.head?.map isDigit).getD false && areDigits 10 cs

/-- A number below sixty in one or two digits. -/
def isSixtieth : List Char → Bool
  | [c] => isDigit c
  | [c, d] => isDigit c && c ≤ '5' && isDigit d
  | _ => false

/-- The parts of a text between its colons. -/
def colonParts (cs : List Char) : List (List Char) :=
  match cs with
  | [] => [[]]
  | c :: rest =>
    match colonParts rest with
    | [] => [[c]]
    | part :: parts => if c = ':' then [] :: part :: parts else (c :: part) :: parts

/-- A number to the base sixty: parts below sixty after the first, at least one of them. -/
def isSexagesimal (cs : List Char) : Bool :=
  match colonParts cs with
  | first :: second :: more => areDecimals first && (second :: more).all isSixtieth
  | _ => false

/-- An exponent with its sign, or nothing. -/
def isExponent : List Char → Bool
  | [] => true
  | mark :: sign :: digits =>
    (mark = 'e' || mark = 'E') && (sign = '+' || sign = '-') && !digits.isEmpty && digits.all isDigit
  | _ => false

/-- Whether a text spells a truth value. -/
def spellsTruth (cs : List Char) : Bool :=
  ["yes", "Yes", "YES", "no", "No", "NO", "true", "True", "TRUE", "false", "False", "FALSE", "on", "On",
    "ON", "off", "Off", "OFF"].contains (String.ofList cs)

/-- Whether a text spells nothing. -/
def spellsNull (cs : List Char) : Bool :=
  ["~", "null", "Null", "NULL", ""].contains (String.ofList cs)

/-- Whether a text spells a whole number: binary, octal, hexadecimal, decimal or to the base sixty. -/
def spellsInteger (cs : List Char) : Bool :=
  match dropSign cs with
  | ['0'] => true
  | '0' :: 'b' :: digits => areDigits 2 digits
  | '0' :: 'x' :: digits => areDigits 16 digits
  | '0' :: digits => areDigits 8 digits
  | cs => areDecimals cs || isSexagesimal cs

/-- Whether a text spells a double: decimals with a point, to the base sixty with a point, infinity, or no
number. -/
def spellsDouble (cs : List Char) : Bool :=
  let isFraction (fraction : List Char) : Bool :=
    isExponent (fraction.dropWhile fun c => c = '_' || isDigit c)
  let (whole, rest) := (dropSign cs).span (· ≠ '.')
  match rest with
  | [] => false
  | _ :: fraction =>
    if whole.isEmpty then
      [".inf", ".Inf", ".INF"].contains (String.ofList rest) ||
        [".nan", ".NaN", ".NAN"].contains (String.ofList cs) ||
        (cs.head? = some '.' && (fraction.head?.map isDigit).getD false && isFraction fraction)
    else if areDecimals whole then isFraction fraction
    else isSexagesimal whole && fraction.all fun c => c = '_' || isDigit c

/-! ## Moments -/

/-- The parts of a date or moment as they are spelled. -/
structure MomentSpelling where
  year : List Char
  month : List Char
  day : List Char
  /-- Hour, minute and second. -/
  time : Option (List Char × List Char × List Char)
  fraction : List Char
  /-- Whether the offset is behind universal time, and its hours and minutes. -/
  offset : Option (Bool × List Char × List Char)

/-- Splits one or two digits off the front. -/
def shortNumber? : List Char → Option (List Char × List Char)
  | c :: d :: rest =>
    if isDigit c then (if isDigit d then some ([c, d], rest) else some ([c], d :: rest)) else none
  | [c] => if isDigit c then some ([c], []) else none
  | [] => none

/-- Splits exactly `count` digits off the front. -/
def digits? (count : Nat) (cs : List Char) : Option (List Char × List Char) :=
  let taken := cs.take count
  if taken.length = count && taken.all isDigit then some (taken, cs.drop count) else none

/-- What follows one character. -/
def after? (c : Char) : List Char → Option (List Char)
  | d :: rest => if c = d then some rest else none
  | [] => none

/-- Reads the zone at the end of a moment: nothing, `Z`, or an offset. -/
def zone? (cs : List Char) : Option (Option (Bool × List Char × List Char)) :=
  match cs.dropWhile fun c => c = ' ' || c = '\t' with
  | [] => if cs.isEmpty then some none else none
  | ['Z'] => some (some (false, ['0'], ['0']))
  | sign :: rest =>
    if sign ≠ '+' ∧ sign ≠ '-' then none
    else do
      let (hours, rest) ← shortNumber? rest
      match rest with
      | [] => return some (sign = '-', hours, ['0'])
      | rest =>
        let (minutes, rest) ← digits? 2 (← after? ':' rest)
        if rest.isEmpty then return some (sign = '-', hours, minutes) else none

/-- Reads what separates a date from a time: the letter `T` in either case, or blanks. -/
def timeAfter? : List Char → Option (List Char)
  | c :: rest =>
    if c = 'T' ∨ c = 't' then some rest
    else if c = ' ' ∨ c = '\t' then some (rest.dropWhile fun c => c = ' ' || c = '\t')
    else none
  | [] => none

/-- Reads a date, or a date with a time and perhaps a fraction of a second and a zone. -/
def momentSpelling? (cs : List Char) : Option MomentSpelling := do
  let (year, rest) ← digits? 4 cs
  let (month, rest) ← shortNumber? (← after? '-' rest)
  let (day, rest) ← shortNumber? (← after? '-' rest)
  if rest.isEmpty then return ⟨year, month, day, none, [], none⟩
  let (hour, rest) ← shortNumber? (← timeAfter? rest)
  let (minute, rest) ← digits? 2 (← after? ':' rest)
  let (second, rest) ← digits? 2 (← after? ':' rest)
  let (fraction, rest) := match rest with
    | '.' :: rest => spanDigits rest
    | rest => ([], rest)
  let offset ← zone? rest
  return ⟨year, month, day, some (hour, minute, second), fraction, offset⟩

/-- Whether a text spells a moment; a date alone has two digits for month and day. -/
def spellsMoment (cs : List Char) : Bool :=
  match momentSpelling? cs with
  | none => false
  | some m => m.time.isSome || (m.month.length = 2 && m.day.length = 2)

/-- A text without the line feed at its end. -/
def dropFinalBreak (cs : List Char) : List Char :=
  if cs.getLast? = some '\n' then cs.dropLast else cs

/-- The type of a scalar by its spelling; a line feed at the end does not count. -/
def Tag.ofSpelling (text : String) : Tag :=
  let cs := dropFinalBreak text.toList
  if spellsTruth cs then .bool
  else if spellsDouble cs then .float
  else if spellsInteger cs then .int
  else if cs = ['<', '<'] then .merge
  else if spellsNull cs then .null
  else if spellsMoment cs then .timestamp
  else if cs = ['='] then .default
  else if cs = ['!'] ∨ cs = ['&'] ∨ cs = ['*'] then .other
  else .text

end LabelPress.Yaml
