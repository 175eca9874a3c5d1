import LabelPress.Yaml.Cursor

/-!
# Block scalars

A scalar of whole lines, all indented alike. Its header says whether line ends are kept or folded, what
becomes of those at the end, and, if need be, how deep it is indented.
-/

namespace LabelPress.Yaml
open Scan

/-- What becomes of the line ends at the end of a block scalar. -/
inductive Chomping where
  | strip
  | clip
  | keep
  deriving DecidableEq, Repr

/-- The header of a block scalar. -/
structure BlockHeader where
  chomping : Chomping
  increment : Option Nat

/-- The sign that sets the chomping. -/
def chompingOf? (c : Char) : Option Chomping :=
  if c = '+' then some .keep else if c = '-' then some .strip else none

/-- Takes the sign of the chomping, if there is one. -/
def takeChomping? : Scan (Option Chomping) := do
  let chomping := chompingOf? (← peek 0)
  advance (if chomping.isSome then 1 else 0)
  return chomping

/-- Takes the digit that sets the indentation, if there is one; it must not be zero. -/
def takeIncrement? : Scan (Option Nat) := do
  let c ← peek 0
  if isDigit c then
    insist (c ≠ '0') .badBlockHeader
    advance 1
    return digitValue? c
  else return none

/-- Takes the chomping sign and the indentation, in either order. -/
def headerSigns : Scan BlockHeader := do
  match ← takeChomping? with
  | some chomping => return ⟨chomping, ← takeIncrement?⟩
  | none =>
    match ← takeIncrement? with
    | some increment => return ⟨(← takeChomping?).getD .clip, some increment⟩
    | none => return ⟨.clip, none⟩

/-- Takes a header and the rest of its line, which may hold a comment. -/
def blockHeader : Scan BlockHeader := do
  let header ← headerSigns
  insist (isGap (← peek 0)) .badBlockHeader
  skipComment
  insist (isBreakOrEnd (← peek 0)) .badBlockHeader
  let _ ← takeBreak
  return header

/-- The line ends before the first line with text, and the deepest indentation among them. -/
def leadingLines : (fuel : Nat) → (deepest : Nat) → Scan (List Char × Nat)
  | 0, deepest => return ([], deepest)
  | fuel + 1, deepest => do
    if (← peek 0) = ' ' then
      advance 1
      leadingLines fuel (max deepest (← get).column)
    else
      match ← takeBreak with
      | [] => return ([], deepest)
      | lineBreak =>
        let (breaks, deepest) ← leadingLines fuel deepest
        return (lineBreak ++ breaks, deepest)

/-- Skips the spaces that indent a line, up to a column. -/
def skipIndent (indent : Nat) : Scan Unit := do
  let cursor ← get
  advance ((cursor.rest.take (indent - cursor.column)).takeWhile (· = ' ')).length

/-- The line ends of blank lines inside a block scalar. -/
def blankBlockLines (indent : Nat) : (fuel : Nat) → Scan (List Char)
  | 0 => return []
  | fuel + 1 => do
    skipIndent indent
    match ← takeBreak with
    | [] => return []
    | lineBreak => return lineBreak ++ (← blankBlockLines indent fuel)

/-- Whether a line of a block scalar starts here. -/
def blockGoesOn (indent : Nat) : Scan Bool := do
  if (← get).column = indent then return (← peek 0) ≠ endMark else return false

/-- Whether a line is indented deeper than its block. -/
def isSpaced : Scan Bool := do
  let c ← peek 0
  return c = ' ' || c = '\t'

/-- The lines of a block scalar: their text, the line end of the last of them, and the line ends of the blank lines
after it. -/
def blockLines (folded : Bool) (indent : Nat) :
    (fuel : Nat) → (breaks : List Char) → Scan (List Char × List Char × List Char)
  | 0, breaks => return ([], [], breaks)
  | fuel + 1, breaks => do
    if ← blockGoesOn indent then
      let spaced ← isSpaced
      let line ← span fun c => !isBreak c
      let lineBreak ← takeBreak
      let blanks ← blankBlockLines indent (← bound)
      if ← blockGoesOn indent then
        let folds := folded && lineBreak = ['\n'] && !spaced && !(← isSpaced)
        let joint := if folds then (if blanks.isEmpty then [' '] else []) else lineBreak
        let (more, last) ← blockLines folded indent fuel blanks
        return (breaks ++ line ++ joint ++ more, last)
      else return (breaks ++ line, lineBreak, blanks)
    else return ([], [], breaks)

/-- The column of the lines of a block scalar that is indented to `least` at least, and the line ends before the first
line with text. -/
def blockIndent (least : Nat) (increment : Option Nat) : Scan (Nat × List Char) := do
  match increment with
  | none =>
    let (breaks, deepest) ← leadingLines (← bound) 0
    return (max least deepest, breaks)
  | some increment => return (least + increment - 1, ← blankBlockLines (least + increment - 1) (← bound))

/-- The block scalar that stands here, inside a block of some indentation. -/
def blockText (folded : Bool) (indent : Int) : Scan (List Char) := do
  advance 1
  let header ← blockHeader
  let (column, breaks) ← blockIndent (max (indent + 1) 1).toNat header.increment
  let (text, lineBreak, blanks) ← blockLines folded column (← bound) breaks
  let tail := match header.chomping with
    | .strip => []
    | .clip => lineBreak
    | .keep => lineBreak ++ blanks
  return text ++ tail

end LabelPress.Yaml
