import LabelPress.Json.Writer
import LabelPress.Value.Printer

/-!
# Details of a rejection

Options are checked as a whole, and a rejection lists everything that is wrong: each detail says where the
fault lies and what it is. Details are in the order of their places as JSON text, then of their codes.
-/

namespace LabelPress

/-- What is wrong with a value. -/
inductive OptionFault where
  | unknownKey
  | keyNotText
  | missing
  | notGreater (bound : Int)
  | notAtLeast (bound : Int)
  | notAtMost (bound : Int)
  | notWhole
  | unreadableWhole
  | fractional
  | wholeTooLong
  | notFinite
  | notNumber
  | unreadableNumber
  | notTruth
  | unreadableTruth
  | notText
  | undecodableText
  | notList
  | notPosition
  | notRotation
  | notBareToken (given : String)
  | notFontName (given : String)
  /-- An item that should have two members has another number of them. -/
  | pairLength (item : String)
  | noQrPosition
  deriving DecidableEq, Repr

namespace OptionFault

/-- The code of a fault. -/
def code : OptionFault → String
  | .unknownKey => "extra_forbidden"
  | .keyNotText => "invalid_key"
  | .missing => "missing"
  | .notGreater _ => "greater_than"
  | .notAtLeast _ => "greater_than_equal"
  | .notAtMost _ => "less_than_equal"
  | .notWhole => "int_type"
  | .unreadableWhole => "int_parsing"
  | .fractional => "int_from_float"
  | .wholeTooLong => "int_parsing_size"
  | .notFinite => "finite_number"
  | .notNumber => "float_type"
  | .unreadableNumber => "float_parsing"
  | .notTruth => "bool_type"
  | .unreadableTruth => "bool_parsing"
  | .notText => "string_type"
  | .undecodableText => "string_unicode"
  | .notList => "list_type"
  | .notPosition => "model_type"
  | .notRotation => "literal_error"
  | .notBareToken _ | .notFontName _ | .pairLength _ | .noQrPosition => "value_error"

/-- The wording of a fault. -/
def message : OptionFault → String
  | .unknownKey => "Extra inputs are not permitted"
  | .keyNotText => "Keys should be strings"
  | .missing => "Field required"
  | .notGreater n => "Input should be greater than " ++ signedNumeral n
  | .notAtLeast n => "Input should be greater than or equal to " ++ signedNumeral n
  | .notAtMost n => "Input should be less than or equal to " ++ signedNumeral n
  | .notWhole => "Input should be a valid integer"
  | .unreadableWhole => "Input should be a valid integer, unable to parse string as an integer"
  | .fractional => "Input should be a valid integer, got a number with a fractional part"
  | .wholeTooLong => "Unable to parse input string as an integer, exceeded maximum size"
  | .notFinite => "Input should be a finite number"
  | .notNumber => "Input should be a valid number"
  | .unreadableNumber => "Input should be a valid number, unable to parse string as a number"
  | .notTruth => "Input should be a valid boolean"
  | .unreadableTruth => "Input should be a valid boolean, unable to interpret input"
  | .notText => "Input should be a valid string"
  | .undecodableText => "Input should be a valid string, unable to parse raw data as a unicode string"
  | .notList => "Input should be a valid list"
  | .notPosition => "Input should be a valid dictionary or instance of PositionV1"
  | .notRotation => "Input should be 0, 90, 180 or 270"
  | .notBareToken given =>
    "Value error, Expected a bare token without commas, quotes or spaces, got " ++ quoted given
  | .notFontName given =>
    "Value error, Font name must be non-empty without quotes or newlines, got " ++ quoted given
  | .pairLength item => "Value error, Position pair must have 2 values, got " ++ item
  | .noQrPosition => "Value error, qr_positions needs at least one position"

end OptionFault

/-- One step on the way to a value: a key, or the number of an item. -/
inductive PlaceStep where
  | key (s : String)
  | index (n : Int)
  deriving DecidableEq, Repr

/-- Where a value lies: the steps from the whole to it. -/
abbrev Place := List PlaceStep

namespace Place

/-- The JSON text of a step. -/
def stepText : PlaceStep → String
  | .key s => Json.quote s
  | .index n => signedNumeral n

/-- The JSON text of a place. -/
def jsonText (p : Place) : String :=
  "[" ++ String.intercalate ", " (p.map stepText) ++ "]"

/-- The steps of a place with points between them. -/
def dotted (p : Place) : String :=
  String.intercalate "." (p.map fun
    | .key s => s
    | .index n => signedNumeral n)

/-- The step that a key of any kind makes: a whole number of 64 bits is itself, and what is neither that nor a
text is shown as text. -/
def stepOfKey : Value → PlaceStep
  | .text s => .key s
  | v =>
    match v.asInt? with
    | some n => if fitsWord n then .index n else .key v.shown
    | none => .key v.shown

end Place

/-- A fault and its place. -/
structure OptionDetail where
  place : Place
  fault : OptionFault
  deriving DecidableEq, Repr

namespace OptionDetail

/-- Whether a detail comes no later than another: by place, then by code. -/
def inOrder (a b : OptionDetail) : Bool :=
  let p := a.place.jsonText
  let q := b.place.jsonText
  if p = q then a.fault.code ≤ b.fault.code else p ≤ q

/-- Details in their order. -/
def sort (details : List OptionDetail) : List OptionDetail :=
  details.mergeSort inOrder

end OptionDetail
end LabelPress
