import LabelPress.Yaml.Fault

/-!
# A place in a text

A cursor is what is left of a text with the line and column it starts in, both counted from zero. The end of
the text reads as the null character, which no text that is read here contains. A text may also break off where a
fault lies: then a reader that looks past its end meets the fault. So a reader says of each step how far it looks.
-/

namespace LabelPress.Yaml

/-- The character that stands for the end of a text. -/
def endMark : Char := '\x00'

/-- Whether a character ends a line. Line ends of texts that are read here have been unified before. -/
def isBreak (c : Char) : Bool :=
  c = '\n' || c = '\x85' || c = '\u2028' || c = '\u2029'

/-- A line end, or the end of the text. -/
def isBreakOrEnd (c : Char) : Bool :=
  c = endMark || isBreak c

/-- A space, a line end, or the end of the text. -/
def isGap (c : Char) : Bool :=
  c = ' ' || isBreakOrEnd c

/-- A space, a tab, a line end, or the end of the text. -/
def isWideGap (c : Char) : Bool :=
  c = '\t' || isGap c

/-- What a line end is in the text of a scalar. -/
def breakText (c : Char) : Char :=
  if c = '\x85' then '\n' else c

/-- A place in a text. -/
structure Cursor where
  rest : List Char
  /-- What lies behind the rest, if that is not the end of the text. -/
  fault : Option Fault := none
  index : Nat := 0
  line : Nat := 0
  column : Nat := 0

namespace Cursor

/-- The character so many places ahead. -/
def ahead (cursor : Cursor) (count : Nat) : Char :=
  cursor.rest.getD count endMark

/-- The next character. -/
def next (cursor : Cursor) : Char :=
  cursor.ahead 0

/-- The place after one character. A byte order mark takes no column. -/
def step (cursor : Cursor) : Cursor :=
  match cursor.rest with
  | [] => cursor
  | c :: rest =>
    if isBreak c then ⟨rest, cursor.fault, cursor.index + 1, cursor.line + 1, 0⟩
    else if c = '\uFEFF' then ⟨rest, cursor.fault, cursor.index + 1, cursor.line, cursor.column⟩
    else ⟨rest, cursor.fault, cursor.index + 1, cursor.line, cursor.column + 1⟩

/-- The place after some characters. -/
def skip : (count : Nat) → Cursor → Cursor
  | 0, cursor => cursor
  | count + 1, cursor => skip count cursor.step

end Cursor

/-- An action that reads on from a place in a text. -/
abbrev Scan := StateT Cursor (Except Fault)

namespace Scan

/-- Fails because of the format. -/
def refuse {α : Type} (fault : FormatFault) : Scan α :=
  throw (.format fault)

/-- Fails because of the format unless something holds. -/
def insist (holds : Bool) (fault : FormatFault) : Scan Unit :=
  if holds then pure () else refuse fault

/-- Looks at so many characters, or up to the end of the text. -/
def need (count : Nat) : Scan Unit := do
  let cursor ← get
  match cursor.fault with
  | none => return
  | some fault => if (cursor.rest.take count).length < count then throw fault else return

/-- The character so many places ahead. -/
def peek (count : Nat) : Scan Char := do
  need (count + 1)
  return (← get).ahead count

/-- Moves on by some characters. The one behind them is looked at, too. -/
def advance (count : Nat) : Scan Unit := do
  need (count + 1)
  modify (Cursor.skip count)

/-- Takes the characters of a class. -/
def span (p : Char → Bool) : Scan (List Char) := do
  let taken := (← get).rest.takeWhile p
  advance taken.length
  return taken

/-- Skips the characters of a class. -/
def skipWhile (p : Char → Bool) : Scan Unit := do
  let _ ← span p

/-- Skips the spaces, and a comment after them. -/
def skipComment : Scan Unit := do
  skipWhile (· = ' ')
  if (← peek 0) = '#' then skipWhile fun c => !isBreak c

/-- Takes one line end, if there is one, as the text of a scalar has it. -/
def takeBreak : Scan (List Char) := do
  let c ← peek 0
  if isBreak c then
    advance 1
    return [breakText c]
  else return []

/-- Whether a line that marks the start or the end of a document stands here. -/
def atDocumentMark (mark : Char) : Scan Bool := do
  need 3
  if (← get).rest.take 3 = [mark, mark, mark] then return isWideGap (← peek 3) else return false

/-- Whether a line that separates documents stands here. -/
def atDocumentEdge : Scan Bool := do
  if ← atDocumentMark '-' then return true else atDocumentMark '.'

/-- The number that so many digits to the base sixteen denote. They are looked at one by one and not taken. -/
def peekNumber (digits : Nat) (fault : FormatFault) : Scan Nat := do
  let found := ((← get).rest.take digits).takeWhile (isDigitOf 16)
  need (min (found.length + 1) digits)
  insist (digits ≤ found.length) fault
  return ofDigits 16 found

/-- A bound for the number of steps that the rest of the text allows. -/
def bound : Scan Nat :=
  return (← get).rest.length + 1

end Scan
end LabelPress.Yaml
