import LabelPress.Binary64.Nearest
import LabelPress.Calendar
import LabelPress.Position
import LabelPress.Text.Part

/-!
# Values

What a configuration or record file holds: nothing, truth values, numbers, texts, bytes, dates, and
collections of values. A mapping keeps its entries in order and has at most one entry for a key, where
keys count as the same if they are equal as values: `1`, `1.0` and `true` are one key.
-/

namespace LabelPress

/-- A value of a file. -/
inductive Value where
  | null
  | bool (b : Bool)
  | int (n : Int)
  | float (x : Binary64)
  | text (s : String)
  /-- A text with halves of pairs in it. -/
  | broken (parts : List TextPart)
  | bytes (content : List UInt8)
  | date (d : Date)
  | moment (m : Moment)
  | position (p : Position)
  | list (items : List Value)
  | tuple (items : List Value)
  | set (items : List Value)
  | map (entries : List (Value × Value))
  deriving Repr, Inhabited

/-- The entries of a mapping in order. -/
abbrev Mapping := List (Value × Value)

namespace Value

/-- The text with some parts. -/
def ofParts (parts : List TextPart) : Value :=
  match TextPart.whole? parts with
  | some s => .text s
  | none => .broken parts

/-- The name of the kind of a value, as messages give it. -/
def kindName : Value → String
  | .null => "NoneType"
  | .bool _ => "bool"
  | .int _ => "int"
  | .float _ => "float"
  | .text _ | .broken _ => "str"
  | .bytes _ => "bytes"
  | .date _ => "date"
  | .moment _ => "datetime"
  | .position _ => "Position"
  | .list _ => "list"
  | .tuple _ => "tuple"
  | .set _ => "set"
  | .map _ => "dict"

/-- Whether nothing is there. -/
def isNull : Value → Bool
  | .null => true
  | _ => false

/-- The whole number that a truth value or a whole number stands for. -/
def asInt? : Value → Option Int
  | .bool b => some (if b then 1 else 0)
  | .int n => some n
  | _ => none

/-- Whether a value counts as given: not null, false, zero or empty. -/
def isGiven : Value → Bool
  | .null => false
  | .bool b => b
  | .int n => n != 0
  | .float x => !x.equals Binary64.zero
  | .text s => s != ""
  | .bytes bs => !bs.isEmpty
  | .list items | .tuple items | .set items => !items.isEmpty
  | .map entries => !entries.isEmpty
  | _ => true

mutual

/-- Whether two values are equal. Numbers of all kinds compare by what they denote. -/
def equals : Value → Value → Bool
  | .null, .null => true
  | .float x, .float y => x.equals y
  | .float x, other | other, .float x =>
    match x.toInt?, other.asInt? with
    | some m, some n => m == n
    | _, _ => false
  | .text s, .text t => s == t
  | .broken a, .broken b => a == b
  | .bytes a, .bytes b => a == b
  | .date a, .date b => a == b
  | .moment a, .moment b => a.equals b
  | .position p, .position q => p == q
  | .tuple a, .tuple b => allEqual a b
  | a, b =>
    match a.asInt?, b.asInt? with
    | some m, some n => m == n
    | _, _ => false

/-- Whether two lists have equal values at every place. -/
def allEqual : List Value → List Value → Bool
  | [], [] => true
  | a :: as, b :: bs => equals a b && allEqual as bs
  | _, _ => false

end

mutual

/-- Whether a value can be a key: no list, set or mapping, nor a tuple that holds one. -/
def isKey : Value → Bool
  | .list _ | .set _ | .map _ => false
  | .tuple items => allKeys items
  | _ => true

/-- Whether every value of a list can be a key. -/
def allKeys : List Value → Bool
  | [] => true
  | v :: vs => isKey v && allKeys vs

end

/-- Whether two keys are the same entry of a mapping. What is no number is the same as itself here,
although it is equal to nothing. -/
def sameKey (a b : Value) : Bool :=
  match a, b with
  | .float .nan, .float .nan => true
  | a, b => a.equals b

end Value

namespace Mapping

/-- The value under a text key. -/
def get? (m : Mapping) (key : String) : Option Value :=
  (m.find? fun entry =>
    match entry.1 with
    | .text s => s == key
    | _ => false).map Prod.snd

/-- Puts a value under a key. A key that is there keeps its place and takes the new value. -/
def insert (m : Mapping) (key value : Value) : Mapping :=
  match m with
  | [] => [(key, value)]
  | (k, v) :: rest =>
    if k.sameKey key then (k, value) :: rest else (k, v) :: insert rest key value

/-- The mapping that a sequence of entries builds, a later entry taking the place of an earlier one. -/
def ofEntries (entries : List (Value × Value)) : Mapping :=
  entries.foldl (fun m entry => insert m entry.1 entry.2) []

/-- The mapping without the entry of a text key. -/
def erase (m : Mapping) (key : String) : Mapping :=
  m.filter fun entry =>
    match entry.1 with
    | .text s => s != key
    | _ => true

end Mapping
end LabelPress
