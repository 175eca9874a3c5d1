import LabelPress.Value.Printer

/-!
# Label records

A record is one label: the payload of its QR symbol, the name printed beside it and a product id. A row of
a file is a record if it is a mapping with a payload, under any of three keys.
-/

namespace LabelPress

/-- One label. -/
structure Record where
  payload : String
  name : String := ""
  id : String := ""
  deriving DecidableEq, Repr

/-- Why a row is no record. -/
inductive RecordFault where
  | notMapping (kind : String)
  /-- None of the payload keys has a value; `keys` are the keys of the row in ascending order. -/
  | noPayload (keys : List (List TextPart))
  deriving DecidableEq, Repr

namespace Record

/-- The keys of a payload; the first that has a value counts. -/
def payloadKeys : List String := ["qr_payload", "qrPayload", "qr"]

/-- The value under a key, unless it is null. -/
def given? (row : Mapping) (key : String) : Option Value :=
  (row.get? key).filter (!·.isNull)

/-- The text under a key, empty if there is none. -/
def field (row : Mapping) (key : String) (half : Nat → String := codePointEscape) : String :=
  ((given? row key).map (·.content half)).getD ""

/-- The parts of a key as text. -/
def keyParts : Value → List TextPart
  | .broken parts => parts
  | k => TextPart.ofText k.content

/-- The texts of the keys of a row in ascending order. -/
def sortedKeys (row : Mapping) : List (List TextPart) :=
  (row.map fun entry => keyParts entry.1).mergeSort fun a b =>
    !List.lex (b.map TextPart.number) (a.map TextPart.number) fun m n => decide (m < n)

/-- Reads a row. No text of a record can hold halves of pairs, so something must stand for them. -/
def ofValue (v : Value) (half : Nat → String := codePointEscape) : Except RecordFault Record :=
  match v with
  | .map row =>
    match payloadKeys.findSome? (given? row) with
    | some payload => .ok ⟨payload.content half, field row "name" half, field row "id" half⟩
    | none => .error (.noPayload (sortedKeys row))
  | v => .error (.notMapping v.kindName)

end Record

/-- A list of texts as messages show it. -/
def shownTexts (texts : List String) : String :=
  (Value.list (texts.map .text)).shown

/-- The wording of a fault. -/
def RecordFault.message : RecordFault → String
  | .notMapping kind => "Label record must be a mapping, got " ++ kind
  | .noPayload keys =>
    "Label record needs one of " ++ shownTexts Record.payloadKeys ++ ", got keys " ++
      (Value.list (keys.map .ofParts)).shown

end LabelPress
