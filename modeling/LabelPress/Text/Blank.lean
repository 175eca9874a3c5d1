/-!
# Blank characters

Two sets of characters count as blank around a text. `isWhiteSpace` is the Unicode property
`White_Space`; `isBlank` has the four information separators U+001C to U+001F as well. Invisible
characters such as U+200B and U+FEFF belong to neither.
-/

namespace LabelPress

/-- The Unicode property `White_Space`. -/
def isWhiteSpace (c : Char) : Bool :=
  let n := c.toNat
  (0x09 ≤ n && n ≤ 0x0D) || n == 0x20 || n == 0x85 || n == 0xA0 || n == 0x1680 ||
    (0x2000 ≤ n && n ≤ 0x200A) || n == 0x2028 || n == 0x2029 || n == 0x202F || n == 0x205F ||
    n == 0x3000

/-- White space or one of the information separators. -/
def isBlank (c : Char) : Bool :=
  isWhiteSpace c || (0x1C ≤ c.toNat && c.toNat ≤ 0x1F)

/-- Drops the characters of a class from both ends. -/
def trimBy (p : Char → Bool) (cs : List Char) : List Char :=
  ((cs.dropWhile p).reverse.dropWhile p).reverse

/-- The text without the blanks at its ends. -/
def trimBlank (s : String) : String :=
  String.ofList (trimBy isBlank s.toList)

end LabelPress
