import LabelPress.Numeral
import LabelPress.Text.Quoted

/-!
# Encodings

The encodings a text can be written in. An encoding either has bytes for every character of a text or
fails on the first run of characters that it has none for.
-/

namespace LabelPress

/-- An encoding of text as bytes. -/
inductive Encoding where
  | utf8
  | utf8Signature
  | utf16
  | utf16LittleEndian
  | latin1
  | ascii
  | windows1252
  deriving DecidableEq, Repr

/-- Why a text cannot be encoded. -/
inductive EncodingFault where
  /-- No encoding has this name. -/
  | unknownEncoding (name : String)
  /-- The characters from `start` on, `run` of them, have no bytes. -/
  | unencodable (encoding : Encoding) (start : Nat) (run : List Char)
  /-- From `start` on there are halves of pairs, which are no characters. -/
  | halves (start : Nat) (units : List Nat)
  deriving DecidableEq, Repr

namespace Encoding

/-- Names are compared in lower case, with underscores and spaces read as hyphens. -/
def ofName? (name : String) : Option Encoding :=
  let key := String.ofList (name.toList.map fun c =>
    if c = '_' ∨ c = ' ' then '-' else c.toLower)
  if ["utf-8", "utf8", "utf", "u8"].contains key then some .utf8
  else if key = "utf-8-sig" then some .utf8Signature
  else if ["utf-16", "utf16", "u16"].contains key then some .utf16
  else if ["utf-16-le", "utf-16le"].contains key then some .utf16LittleEndian
  else if ["latin-1", "latin1", "latin", "l1", "iso-8859-1", "iso8859-1", "8859", "cp819"].contains key
    then some .latin1
  else if ["ascii", "us-ascii", "646"].contains key then some .ascii
  else if ["cp1252", "1252", "windows-1252"].contains key then some .windows1252
  else none

/-- The code points that Windows-1252 gives the bytes 80 to 9F; zero where it gives none. -/
def windows1252High : List Nat := [
  0x20AC, 0, 0x201A, 0x0192, 0x201E, 0x2026, 0x2020, 0x2021, 0x02C6, 0x2030, 0x0160, 0x2039, 0x0152,
  0, 0x017D, 0, 0, 0x2018, 0x2019, 0x201C, 0x201D, 0x2022, 0x2013, 0x2014, 0x02DC, 0x2122, 0x0161,
  0x203A, 0x0153, 0, 0x017E, 0x0178]

/-- The two bytes of a unit of sixteen bits, the low one first. -/
def unitBytes (n : Nat) : List UInt8 :=
  [UInt8.ofNat (n % 256), UInt8.ofNat (n / 256)]

/-- The bytes of one character, if the encoding has any for it. -/
def charBytes? (encoding : Encoding) (c : Char) : Option (List UInt8) :=
  let n := c.toNat
  match encoding with
  | .utf8 | .utf8Signature => some (String.utf8EncodeChar c)
  | .utf16 | .utf16LittleEndian =>
    if n < 0x10000 then some (unitBytes n)
    else
      let m := n - 0x10000
      some (unitBytes (0xD800 + m / 0x400) ++ unitBytes (0xDC00 + m % 0x400))
  | .latin1 => if n < 0x100 then some [UInt8.ofNat n] else none
  | .ascii => if n < 0x80 then some [UInt8.ofNat n] else none
  | .windows1252 =>
    if n < 0x80 ∨ (0xA0 ≤ n ∧ n < 0x100) then some [UInt8.ofNat n]
    else (windows1252High.findIdx? (· == n)).map fun i => [UInt8.ofNat (0x80 + i)]

/-- The mark that stands before the text. -/
def signature : Encoding → List UInt8
  | .utf8Signature => [0xEF, 0xBB, 0xBF]
  | .utf16 => [0xFF, 0xFE]
  | _ => []

/-- Encodes characters one by one from `position` on. -/
def encodeChars (encoding : Encoding) : (position : Nat) → List Char → Except EncodingFault (List UInt8)
  | _, [] => .ok []
  | position, c :: cs =>
    match encoding.charBytes? c with
    | some bytes => do
      let rest ← encodeChars encoding (position + 1) cs
      .ok (bytes ++ rest)
    | none =>
      .error (.unencodable encoding position
        ((c :: cs).takeWhile fun c => (encoding.charBytes? c).isNone))

/-- The bytes of a text. UTF-8 has bytes for every text. -/
def encode (encoding : Encoding) (s : String) : Except EncodingFault ByteArray :=
  match encoding with
  | .utf8 => .ok s.toUTF8
  | _ => do
    let bytes ← encodeChars encoding 0 s.toList
    .ok (encoding.signature ++ bytes).toByteArray

/-- The name a fault is reported under. -/
def reportName : Encoding → String
  | .utf8 | .utf8Signature => "utf-8"
  | .utf16 => "utf-16"
  | .utf16LittleEndian => "utf-16-le"
  | .latin1 => "latin-1"
  | .ascii => "ascii"
  | .windows1252 => "charmap"

/-- What a character without bytes is said to be. -/
def refusal : Encoding → String
  | .latin1 => "ordinal not in range(256)"
  | .ascii => "ordinal not in range(128)"
  | .windows1252 => "character maps to <undefined>"
  | _ => "surrogates not allowed"

end Encoding

/-- What is said of code points that an encoding has no bytes for. -/
def Encoding.refusalMessage (encoding : Encoding) (start : Nat) (codePoints : List Nat) : String :=
  "'" ++ encoding.reportName ++ "' codec can't encode " ++
    (match codePoints with
    | [n] => "character '" ++ codePointEscape n ++ "' in position " ++ numeral start
    | _ => "characters in position " ++ numeral start ++ "-" ++ numeral (start + codePoints.length - 1)) ++
    ": " ++ encoding.refusal

/-- The wording of a fault. -/
def EncodingFault.message : EncodingFault → String
  | .unknownEncoding name => "unknown encoding: " ++ name
  | .unencodable encoding start run => encoding.refusalMessage start (run.map Char.toNat)
  | .halves start units => Encoding.utf8.refusalMessage start units

/-- Encodes a text under the name of an encoding. -/
def encodeText (name : String) (s : String) : Except EncodingFault ByteArray :=
  match Encoding.ofName? name with
  | none => .error (.unknownEncoding name)
  | some encoding => encoding.encode s

end LabelPress
