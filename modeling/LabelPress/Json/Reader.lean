import LabelPress.Binary64.Reader
import LabelPress.Json.Basic

/-!
# Reading JSON

The grammar of JSON, with `NaN`, `Infinity` and `-Infinity` as further numbers. A text that breaks it is
refused at the first character where it does so. The reader walks over the characters; where it stops, what
is left of them says how far it came, and that is turned into a line and a column only at the end.
-/

namespace LabelPress.Json

/-- How a text breaks the grammar. -/
inductive SyntaxFault where
  | byteOrderMark
  | valueExpected
  | keyExpected
  | colonExpected
  | commaExpected
  | extraData
  | unterminatedText
  | controlCharacter
  | unknownEscape
  | badUnitEscape
  deriving DecidableEq, Repr

/-- The wording of a fault. -/
def SyntaxFault.message : SyntaxFault → String
  | .byteOrderMark => "Unexpected UTF-8 BOM (decode using utf-8-sig)"
  | .valueExpected => "Expecting value"
  | .keyExpected => "Expecting property name enclosed in double quotes"
  | .colonExpected => "Expecting ':' delimiter"
  | .commaExpected => "Expecting ',' delimiter"
  | .extraData => "Extra data"
  | .unterminatedText => "Unterminated string starting at"
  | .controlCharacter => "Invalid control character at"
  | .unknownEscape => "Invalid \\escape"
  | .badUnitEscape => "Invalid \\uXXXX escape"

/-- Where the reader stopped: what is left of the text tells the place. -/
inductive Stop where
  | malformed (fault : SyntaxFault) (left : List Char)
  | numeralTooLong (digits : Nat)
  deriving DecidableEq, Repr

/-- Refuses the text at a place. -/
def refuse {α : Type} (fault : SyntaxFault) (left : List Char) : Except Stop (α × List Char) :=
  .error (.malformed fault left)

/-- The white space of JSON. -/
def isSpace (c : Char) : Bool :=
  c = ' ' || c = '\t' || c = '\n' || c = '\r'

/-- What follows white space. -/
def skipSpace (cs : List Char) : List Char :=
  cs.dropWhile isSpace

/-! ## Texts -/

/-- Whether a unit is the first half of a pair. -/
def isHighUnit (n : Nat) : Bool := 0xD800 ≤ n && n < 0xDC00

/-- Whether a unit is the second half of a pair. -/
def isLowUnit (n : Nat) : Bool := 0xDC00 ≤ n && n < 0xE000

/-- Joins the halves of pairs that stand one after the other. -/
def joinParts : List TextPart → List TextPart
  | [] => []
  | .half n :: .half m :: parts =>
    if isHighUnit n && isLowUnit m then
      .char (Char.ofNat (0x10000 + (n - 0xD800) * 0x400 + (m - 0xDC00))) :: joinParts parts
    else .half n :: joinParts (.half m :: parts)
  | part :: parts => part :: joinParts parts

/-- The character that a short escape stands for. -/
def shortEscape? (c : Char) : Option Char :=
  if c = '"' ∨ c = '\\' ∨ c = '/' then some c
  else if c = 'b' then some '\x08'
  else if c = 'f' then some '\x0c'
  else if c = 'n' then some '\n'
  else if c = 'r' then some '\r'
  else if c = 't' then some '\t'
  else none

/-- Reads the parts of a text up to its closing quote, with all halves of pairs apart. `opened` is the text from its
opening quote on. -/
def readParts (opened : List Char) : List Char → Except Stop (List TextPart × List Char)
  | [] => refuse .unterminatedText opened
  | '"' :: rest => .ok ([], rest)
  | '\\' :: [] => refuse .unterminatedText opened
  | '\\' :: 'u' :: a :: b :: c :: d :: next :: rest =>
    if [a, b, c, d].all (isDigitOf 16) then do
      let (parts, left) ← readParts opened (next :: rest)
      return (.ofNumber (ofDigits 16 [a, b, c, d]) :: parts, left)
    else refuse .badUnitEscape ('u' :: a :: b :: c :: d :: next :: rest)
  | '\\' :: 'u' :: rest => refuse .badUnitEscape ('u' :: rest)
  | '\\' :: c :: rest =>
    match shortEscape? c with
    | none => refuse .unknownEscape ('\\' :: c :: rest)
    | some escaped => do
      let (parts, left) ← readParts opened rest
      return (.char escaped :: parts, left)
  | c :: rest =>
    if c.toNat < 0x20 then refuse .controlCharacter (c :: rest)
    else do
      let (parts, left) ← readParts opened rest
      return (.char c :: parts, left)

/-- Reads a text whose opening quote is the first of `opened`. -/
def readText (opened : List Char) : Except Stop (List TextPart × List Char) := do
  let (parts, left) ← readParts opened opened.tail
  return (joinParts parts, left)

/-! ## Numbers -/

/-- Splits a point and the digits after it off the front; a point without digits stays. -/
def spanFraction : List Char → List Char × List Char
  | '.' :: rest =>
    match spanDigits rest with
    | ([], _) => ([], '.' :: rest)
    | (digits, left) => ('.' :: digits, left)
  | cs => ([], cs)

/-- Splits a sign off the front. -/
def spanSign : List Char → List Char × List Char
  | c :: rest => if c = '+' ∨ c = '-' then ([c], rest) else ([], c :: rest)
  | [] => ([], [])

/-- Splits an exponent off the front; a mark without digits stays. -/
def spanExponent : List Char → List Char × List Char
  | c :: rest =>
    if c = 'e' ∨ c = 'E' then
      let (sign, rest') := spanSign rest
      match spanDigits rest' with
      | ([], _) => ([], c :: rest)
      | (digits, left) => (c :: sign ++ digits, left)
    else ([], c :: rest)
  | [] => ([], [])

/-- Splits the whole part of a number off the front: a zero, or digits that start with no zero. -/
def spanWhole : List Char → List Char × List Char
  | '0' :: rest => (['0'], rest)
  | cs => spanDigits cs

/-- Reads an unsigned number; one without fraction and exponent is whole. -/
def readUnsigned (negative : Bool) (start cs : List Char) : Except Stop (Json × List Char) :=
  match spanWhole cs with
  | ([], _) => refuse .valueExpected start
  | (whole, left) =>
    let (fraction, left) := spanFraction left
    let (exponent, left) := spanExponent left
    match fraction ++ exponent with
    | [] =>
      if digitLimit < whole.length then .error (.numeralTooLong whole.length)
      else
        let n : Int := ofDigits 10 whole
        .ok (.int (if negative then -n else n), left)
    | tail =>
      .ok (.float ((Binary64.readUnsigned? negative (whole ++ tail)).getD .nan), left)

/-- Reads a number. -/
def readNumber : List Char → Except Stop (Json × List Char)
  | '-' :: rest => readUnsigned true ('-' :: rest) rest
  | cs => readUnsigned false cs cs

/-! ## Values -/

/-- The words that are values. -/
def words : List (List Char × Json) := [
  ("null".toList, .null), ("true".toList, .bool true), ("false".toList, .bool false),
  ("NaN".toList, .float .nan), ("Infinity".toList, .float (.infinite false)),
  ("-Infinity".toList, .float (.infinite true))]

/-- Reads a word at the front. -/
def readWord? (cs : List Char) : Option (Json × List Char) :=
  words.findSome? fun (word, v) =>
    if word.isPrefixOf cs then some (v, cs.drop word.length) else none

mutual

/-- Reads a value, which starts at the first character. `fuel` bounds the steps; the length of the text
is enough, as every step takes a character. -/
def readValue : (fuel : Nat) → List Char → Except Stop (Json × List Char)
  | 0, cs => refuse .valueExpected cs
  | fuel + 1, cs =>
    match cs with
    | '"' :: rest => do
      let (parts, left) ← readText ('"' :: rest)
      return (.ofParts parts, left)
    | '[' :: rest =>
      match skipSpace rest with
      | ']' :: left => .ok (.array [], left)
      | rest => do
        let (items, left) ← readItems fuel rest
        return (.array items, left)
    | '\x7b' :: rest =>
      match skipSpace rest with
      | '\x7d' :: left => .ok (.object [], left)
      | rest => do
        let (members, left) ← readMembers fuel rest
        return (.ofMembers members, left)
    | cs =>
      match readWord? cs with
      | some (v, left) => .ok (v, left)
      | none => readNumber cs

/-- Reads the items of an array that is not empty, up to its closing bracket. -/
def readItems : (fuel : Nat) → List Char → Except Stop (List Json × List Char)
  | 0, cs => refuse .valueExpected cs
  | fuel + 1, cs => do
    let (v, left) ← readValue fuel cs
    match skipSpace left with
    | ']' :: left => return ([v], left)
    | ',' :: left =>
      let (items, left) ← readItems fuel (skipSpace left)
      return (v :: items, left)
    | left => refuse .commaExpected left

/-- Reads the members of an object that is not empty, up to its closing brace. -/
def readMembers : (fuel : Nat) → List Char → Except Stop (List (List TextPart × Json) × List Char)
  | 0, cs => refuse .keyExpected cs
  | fuel + 1, cs =>
    match cs with
    | '"' :: rest => do
      let (key, left) ← readText ('"' :: rest)
      match skipSpace left with
      | ':' :: left =>
        let (v, left) ← readValue fuel (skipSpace left)
        match skipSpace left with
        | '\x7d' :: left => return ([(key, v)], left)
        | ',' :: left =>
          let (members, left) ← readMembers fuel (skipSpace left)
          return ((key, v) :: members, left)
        | left => refuse .commaExpected left
      | left => refuse .colonExpected left
    | cs => refuse .keyExpected cs

end

/-- Reads a text that is one value with white space around it. -/
def readDocument (cs : List Char) : Except Stop Json :=
  match cs with
  | '\uFEFF' :: _ => .error (.malformed .byteOrderMark cs)
  | _ => do
    let (v, left) ← readValue (cs.length + 1) (skipSpace cs)
    match skipSpace left with
    | [] => .ok v
    | left => .error (.malformed .extraData left)

/-! ## Places in a text -/

/-- Why a text is not read. Lines and columns count from one, offsets from zero. -/
inductive ReadError where
  | malformed (fault : SyntaxFault) (line column offset : Nat)
  | numeralTooLong (digits : Nat)
  deriving DecidableEq, Repr

/-- The wording of an error. -/
def ReadError.message : ReadError → String
  | .malformed fault line column offset =>
    fault.message ++ ": line " ++ numeral line ++ " column " ++ numeral column ++
      " (char " ++ numeral offset ++ ")"
  | .numeralTooLong digits => digitLimitMessage digits

/-- The error of a stop in a text. -/
def Stop.toError (text : List Char) : Stop → ReadError
  | .numeralTooLong digits => .numeralTooLong digits
  | .malformed fault left =>
    let before := text.take (text.length - left.length)
    let column := (before.reverse.takeWhile (· ≠ '\n')).length + 1
    .malformed fault (before.count '\n' + 1) column before.length

/-- Reads a JSON text. -/
def read (text : String) : Except ReadError Json :=
  (readDocument text.toList).mapError (Stop.toError text.toList)

end LabelPress.Json
