import LabelPress.Numeral
import LabelPress.Text.Newline

/-!
# Reading UTF-8

A file is a sequence of bytes and a text one of characters. `decode` turns valid UTF-8 into the text it
spells and otherwise names the first place where it goes wrong. `stream` does the same as a reader that
takes the file in blocks: it accepts the same bytes, but hands over the characters of the blocks before
the fault, and counts the place of the fault from the start of its block, or of the bytes left over from
the block before.
-/

namespace LabelPress.Utf8

/-- Why bytes are not UTF-8. -/
inductive Reason where
  | startByte
  | continuationByte
  | endOfData
  deriving DecidableEq, Repr

/-- The first fault in a sequence of bytes: where it starts, how many bytes it spans and the first of
them. -/
structure Fault where
  start : Nat
  length : Nat
  byte : UInt8
  reason : Reason
  deriving DecidableEq, Repr

/-- The wording of a reason. -/
def Reason.message : Reason → String
  | .startByte => "invalid start byte"
  | .continuationByte => "invalid continuation byte"
  | .endOfData => "unexpected end of data"

/-- The wording of a fault. -/
def Fault.message (f : Fault) : String :=
  "'utf-8' codec can't decode " ++
    (if f.length = 1 then
      "byte 0x" ++ String.ofList (
        let digits := Nat.toDigits 16 f.byte.toNat
        List.replicate (2 - digits.length) '0' ++ digits) ++
      " in position " ++ numeral f.start
    else
      "bytes in position " ++ numeral f.start ++ "-" ++ numeral (f.start + f.length - 1)) ++
    ": " ++ f.reason.message

/-- The bytes that may follow a first byte, each as the range it must lie in. The second byte is
narrower after E0, ED, F0 and F4, so that no code point has two spellings and none is a surrogate or
past the last plane. -/
def continuations? (first : UInt8) : Option (List (UInt8 × UInt8)) :=
  let any : UInt8 × UInt8 := (0x80, 0xBF)
  if first < 0x80 then some []
  else if first < 0xC2 then none
  else if first < 0xE0 then some [any]
  else if first < 0xF0 then
    some [(if first = 0xE0 then 0xA0 else 0x80, if first = 0xED then 0x9F else 0xBF), any]
  else if first < 0xF5 then
    some [(if first = 0xF0 then 0x90 else 0x80, if first = 0xF4 then 0x8F else 0xBF), any, any]
  else none

/-- Reads continuation bytes. Gives the rest, or how many bytes were right before the fault and what
the fault is. -/
def readContinuations : List (UInt8 × UInt8) → List UInt8 → Nat → Except (Nat × Reason) (List UInt8)
  | [], rest, _ => .ok rest
  | _ :: _, [], count => .error (count, .endOfData)
  | (low, high) :: ranges, b :: rest, count =>
    if low ≤ b ∧ b ≤ high then readContinuations ranges rest (count + 1)
    else .error (count, .continuationByte)

/-- The first fault of a sequence of bytes that starts at `position`, or none. -/
def findFault : (fuel : Nat) → (position : Nat) → List UInt8 → Option Fault
  | 0, _, _ => none
  | _, _, [] => none
  | fuel + 1, position, b :: rest =>
    match continuations? b with
    | none => some ⟨position, 1, b, .startByte⟩
    | some ranges =>
      match readContinuations ranges rest 1 with
      | .error (count, reason) => some ⟨position, count, b, reason⟩
      | .ok rest => findFault fuel (position + 1 + ranges.length) rest

/-- The first fault of bytes that are not UTF-8. -/
def faultOf (bytes : List UInt8) : Fault :=
  (findFault bytes.length 0 bytes).getD ⟨0, 1, bytes.headD 0, .startByte⟩

/-- The text that bytes spell. -/
def decode (bytes : ByteArray) : Except Fault String :=
  match String.fromUTF8? bytes with
  | some s => .ok s
  | none => .error (faultOf bytes.toList)

/-! ## Streams -/

/-- How many bytes a reader takes at a time, at the least. -/
def blockSize : Nat := 8192

/-- A text as it comes in blocks: the characters that are handed over, and the fault of the block behind them
if that is not all. -/
structure Stream where
  text : List Char
  fault : Option Fault

/-- How a reader chooses the size of the next block, by the bytes and the characters of the last one and the
number of characters so far. -/
abbrev BlockRule := (bytes chars total : Nat) → Nat

/-- A reader that takes blocks of one size. -/
def evenBlocks : BlockRule :=
  fun _ _ _ => blockSize

/-- Characters without a carriage return at their end, which may turn out to be half of a line end. -/
def withoutFinalReturn (cs : List Char) : List Char :=
  if cs.getLast? = some '\r' then cs.dropLast else cs

/-- How many characters a reader has handed over, each line end as one. -/
def countHandedOver (cs : List Char) : Nat :=
  (unifyNewlines (withoutFinalReturn cs)).length

/-- The characters of bytes that are known to be UTF-8. -/
def charsOf (bytes : List UInt8) : List Char :=
  ((String.fromUTF8? bytes.toByteArray).getD "").toList

/-- Reads blocks. `pending` are the bytes that the block before left unfinished, `rest` those that follow and
`text` the characters so far. An unfinished sequence at the end of the file is met after all else has been
handed over, hence at position zero. -/
def readBlocks (rule : BlockRule) :
    (fuel : Nat) → (pending rest : List UInt8) → (bytes chars : Nat) → (text : List Char) → Stream
  | 0, _, _, _, _, text => ⟨text, none⟩
  | fuel + 1, pending, rest, bytes, chars, text =>
    match rest with
    | [] => ⟨withoutFinalReturn text, findFault pending.length 0 pending⟩
    | _ :: _ =>
      let block := rest.take (rule bytes chars (countHandedOver text))
      let buffer := pending ++ block
      let goOn (whole : Nat) : Stream :=
        let more := text ++ charsOf (buffer.take whole)
        readBlocks rule fuel (buffer.drop whole) (rest.drop block.length) block.length
          (countHandedOver more - countHandedOver text) more
      match findFault buffer.length 0 buffer with
      | none => goOn buffer.length
      | some fault =>
        if fault.reason = .endOfData then goOn fault.start else ⟨withoutFinalReturn text, some fault⟩

/-- The text that bytes spell, for a reader that takes them in blocks. -/
def stream (rule : BlockRule) (bytes : ByteArray) : Stream :=
  match String.fromUTF8? bytes with
  | some s => ⟨s.toList, none⟩
  | none =>
    let all := bytes.toList
    let read := readBlocks rule (all.length / blockSize + 2) [] all 0 0 []
    ⟨read.text, some (read.fault.getD (faultOf all))⟩

/-- The text that bytes spell, for a reader that takes them in blocks of one size. -/
def decodeStream (bytes : ByteArray) : Except Fault String :=
  match (stream evenBlocks bytes).fault with
  | none => .ok (String.ofList (stream evenBlocks bytes).text)
  | some fault => .error fault

theorem fromUTF8?_toUTF8 (s : String) : String.fromUTF8? s.toUTF8 = some s := by
  have h : s.toUTF8.IsValidUTF8 := s.isValidUTF8
  simp only [String.fromUTF8?, dif_pos h]
  rfl

/-- What was written as UTF-8 is read back. -/
theorem decode_toUTF8 (s : String) : decode s.toUTF8 = .ok s := by
  simp only [decode, fromUTF8?_toUTF8]

/-- A stream reader hands over all of what was written as UTF-8. -/
theorem stream_toUTF8 (rule : BlockRule) (s : String) : stream rule s.toUTF8 = ⟨s.toList, none⟩ := by
  simp only [stream, fromUTF8?_toUTF8]

/-- A stream reader reads back what was written as UTF-8. -/
theorem decodeStream_toUTF8 (s : String) : decodeStream s.toUTF8 = .ok s := by
  simp only [decodeStream, stream_toUTF8, String.ofList_toList]

end LabelPress.Utf8
