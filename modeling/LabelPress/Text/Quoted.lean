import LabelPress.Numeral
import LabelPress.Text.Printable

/-!
# Quoted text

Messages show texts and bytes in quotes, with everything that is not printable escaped. Single quotes
are used unless the text holds a single quote and no double quote.
-/

namespace LabelPress

/-- The hexadecimal digits of `n` in lower case, with zeros in front up to `width` digits. -/
def hexNumeral (width n : Nat) : String :=
  let digits := Nat.toDigits 16 n
  String.ofList (List.replicate (width - digits.length) '0' ++ digits)

/-- The escape that names a code point by its number: two, four or eight digits, as few as hold it. -/
def codePointEscape (n : Nat) : String :=
  if n ≤ 0xFF then "\\x" ++ hexNumeral 2 n
  else if n ≤ 0xFFFF then "\\u" ++ hexNumeral 4 n
  else "\\U" ++ hexNumeral 8 n

/-- One character inside quotes. -/
def quotedChar (quote c : Char) : String :=
  if c = quote ∨ c = '\\' then String.ofList ['\\', c]
  else if c = '\n' then "\\n"
  else if c = '\r' then "\\r"
  else if c = '\t' then "\\t"
  else if isPrintable c then String.singleton c
  else codePointEscape c.toNat

/-- The quote that needs the fewest escapes, a single one where that is open. -/
def quoteFor (cs : List Char) : Char :=
  if cs.contains '\'' && !cs.contains '"' then '"' else '\''

/-- A text in quotes. -/
def quoted (s : String) : String :=
  let quote := quoteFor s.toList
  String.singleton quote ++ String.join (s.toList.map (quotedChar quote)) ++ String.singleton quote

/-- Bytes in quotes after the letter `b`; only ASCII characters stand for themselves. -/
def quotedBytes (bytes : List UInt8) : String :=
  let cs := bytes.map fun b => Char.ofNat b.toNat
  let quote := quoteFor cs
  let shown (c : Char) :=
    if c.toNat < 0x7F then quotedChar quote c else codePointEscape c.toNat
  "b" ++ String.singleton quote ++ String.join (cs.map shown) ++ String.singleton quote

end LabelPress
