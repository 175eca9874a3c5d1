/-!
# Literals of the printer language

A text argument stands between double quotes, and there is no escape for what would end it. So a double
quote in it becomes a single one, and every run of line breaks becomes one space.
-/

namespace LabelPress

/-- Whether a character breaks a line. -/
def isLineBreak (c : Char) : Bool :=
  c = '\r' || c = '\n'

/-- Makes characters fit between double quotes. `inBreak` says that the character before was a line break,
whose run has already been given its space. -/
def sanitizeFrom (inBreak : Bool) : List Char → List Char
  | [] => []
  | c :: cs =>
    if isLineBreak c then
      if inBreak then sanitizeFrom true cs else ' ' :: sanitizeFrom true cs
    else (if c = '"' then '\'' else c) :: sanitizeFrom false cs

/-- The text as it can stand between double quotes. -/
def sanitize (s : String) : String :=
  String.ofList (sanitizeFrom false s.toList)

/-- The text as an argument. -/
def literal (s : String) : String :=
  "\"" ++ sanitize s ++ "\""

end LabelPress
