import LabelPress.Json.Writer
import LabelPress.Value.Printer

/-!
# JSON and values

What a JSON value is as a value of a file, and back. An object with a key that occurs twice keeps the last
value under it. On the way back tuples become arrays, and what JSON has no form for becomes its text.
-/

namespace LabelPress.Json

mutual

/-- The value of a file that a JSON value is. -/
def toValue : Json → Value
  | .null => .null
  | .bool b => .bool b
  | .int n => .int n
  | .float x => .float x
  | .text s => .text s
  | .broken parts => .broken parts
  | .array items => .list (itemValues items)
  | .object members => .map (Mapping.ofEntries (memberValues members))
  | .brokenObject members => .map (Mapping.ofEntries (brokenMemberValues members))

/-- The values of the items of an array. -/
def itemValues : List Json → List Value
  | [] => []
  | v :: vs => toValue v :: itemValues vs

/-- The values of the members of an object. -/
def memberValues : List (String × Json) → List (Value × Value)
  | [] => []
  | (key, v) :: members => (.text key, toValue v) :: memberValues members

/-- The values of members whose keys are given by their parts. -/
def brokenMemberValues : List (List TextPart × Json) → List (Value × Value)
  | [] => []
  | (key, v) :: members => (.ofParts key, toValue v) :: brokenMemberValues members

end

/-- The parts of a key as the key of a JSON object: those of the text that JSON writes for a value without quotes,
and else of its own text. -/
def keyParts : Value → List TextPart
  | .null => write .null
  | .bool b => write (.bool b)
  | .float x => write (.float x)
  | .broken parts => parts
  | k => k.content

/-- Whether JSON takes a value as the key of an object. -/
def takesKey : Value → Bool
  | .null | .bool _ | .float _ | .text _ | .broken _ => true
  | .int n => isWithinLimit n
  | _ => false

mutual

/-- Whether a value can be written as JSON: it holds no whole number with too many digits, and no mapping with a key
that JSON does not take. -/
def canWrite : Value → Bool
  | .int n => isWithinLimit n
  | .position p => isWithinLimit p.x && isWithinLimit p.y
  | .list items | .tuple items | .set items => canWriteItems items
  | .map entries => canWriteEntries entries
  | _ => true

/-- Whether the items of a list can be written. -/
def canWriteItems : List Value → Bool
  | [] => true
  | v :: vs => canWrite v && canWriteItems vs

/-- Whether the entries of a mapping can be written. -/
def canWriteEntries : List (Value × Value) → Bool
  | [] => true
  | (k, v) :: entries => takesKey k && canWrite v && canWriteEntries entries

end

mutual

/-- The JSON value that a value becomes. -/
def ofValue : Value → Json
  | .null => .null
  | .bool b => .bool b
  | .int n => .int n
  | .float x => .float x
  | .text s => .text s
  | .broken parts => .broken parts
  | .list items | .tuple items => .array (ofItems items)
  | .map entries => .ofMembers (ofEntries entries)
  | v => .text v.content

/-- The JSON values of the items of a list. -/
def ofItems : List Value → List Json
  | [] => []
  | v :: vs => ofValue v :: ofItems vs

/-- The JSON members of the entries of a mapping. -/
def ofEntries : List (Value × Value) → List (List TextPart × Json)
  | [] => []
  | (k, v) :: entries => (keyParts k, ofValue v) :: ofEntries entries

end

end LabelPress.Json
