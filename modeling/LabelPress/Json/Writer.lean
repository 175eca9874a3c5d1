import LabelPress.Json.Basic
import LabelPress.Text.Quoted

/-!
# Writing JSON

JSON text in ASCII on one line, with a space after every comma and colon. A character outside printable
ASCII is written as an escape of its UTF-16 units, so a text has no line break however it is made up.
-/

namespace LabelPress.Json

/-- The escape of one UTF-16 unit. -/
def unitEscape (n : Nat) : List Char :=
  ['\\', 'u'] ++ (hexNumeral 4 n).toList

/-- One character between quotes. -/
def escapeChar (c : Char) : List Char :=
  if c = '"' then ['\\', '"']
  else if c = '\\' then ['\\', '\\']
  else if c = '\n' then ['\\', 'n']
  else if c = '\r' then ['\\', 'r']
  else if c = '\t' then ['\\', 't']
  else if c.toNat = 0x08 then ['\\', 'b']
  else if c.toNat = 0x0C then ['\\', 'f']
  else if 0x20 ≤ c.toNat ∧ c.toNat < 0x7F then [c]
  else if c.toNat < 0x10000 then unitEscape c.toNat
  else
    let n := c.toNat - 0x10000
    unitEscape (0xD800 + n / 0x400) ++ unitEscape (0xDC00 + n % 0x400)

/-- A text between quotes. -/
def quote (s : String) : String :=
  String.ofList ('"' :: s.toList.flatMap escapeChar ++ ['"'])

/-- One part of a text between quotes. -/
def escapePart : TextPart → List Char
  | .char c => escapeChar c
  | .half unit => unitEscape unit

/-- A text with some parts between quotes. -/
def quoteParts (parts : List TextPart) : String :=
  String.ofList ('"' :: parts.flatMap escapePart ++ ['"'])

/-- Doubles are written like anywhere else, but infinity and the undefined number have names of their
own. -/
def floatLayout : FloatLayout :=
  { plainFloat with infinity := "Infinity", undefined := "NaN" }

mutual

/-- The text of a value. -/
def write : Json → String
  | .null => "null"
  | .bool b => if b then "true" else "false"
  | .int n => signedNumeral n
  | .float x => floatLayout.spell x
  | .text s => quote s
  | .broken parts => quoteParts parts
  | .array items => "[" ++ String.intercalate ", " (writeItems items) ++ "]"
  | .object members => "\x7b" ++ String.intercalate ", " (writeMembers members) ++ "\x7d"
  | .brokenObject members => "\x7b" ++ String.intercalate ", " (writeBrokenMembers members) ++ "\x7d"

/-- The texts of the items of an array. -/
def writeItems : List Json → List String
  | [] => []
  | v :: vs => write v :: writeItems vs

/-- The texts of the members of an object. -/
def writeMembers : List (String × Json) → List String
  | [] => []
  | (key, v) :: members => (quote key ++ ": " ++ write v) :: writeMembers members

/-- The texts of members whose keys are given by their parts. -/
def writeBrokenMembers : List (List TextPart × Json) → List String
  | [] => []
  | (key, v) :: members => (quoteParts key ++ ": " ++ write v) :: writeBrokenMembers members

end

end LabelPress.Json
