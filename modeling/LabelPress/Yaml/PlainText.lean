import LabelPress.Yaml.Cursor

/-!
# Plain scalars

A scalar without quotes runs to a comment, to a colon with a gap after it, or, inside brackets, to a bracket
or comma. It may go on over several lines, as long as they are indented; a line end inside is folded into a
space, and n + 1 of them into n line feeds.
-/

namespace LabelPress.Yaml
open Scan

/-- Characters with a meaning of their own inside brackets, also after a colon. -/
def isFlowMark (c : Char) : Bool :=
  c = ',' || c = '[' || c = ']' || c = '\x7b' || c = '\x7d'

/-- Whether a plain scalar cannot go on with a character, given the one after it. -/
def endsPlain (inFlow : Bool) (c after : Char) : Bool :=
  isWideGap c || (c = ':' && (isWideGap after || (inFlow && isFlowMark after))) ||
    (inFlow && (c = '?' || isFlowMark c))

/-- How many characters of a plain scalar stand here without a gap. -/
def plainRunLength (inFlow : Bool) : List Char → Nat
  | [] => 0
  | c :: rest =>
    if endsPlain inFlow c (rest.headD endMark) then 0 else plainRunLength inFlow rest + 1

/-- What a line end and the line ends after it are folded into. -/
def foldBreaks (first more : List Char) : List Char :=
  (if first ≠ ['\n'] then first else if more.isEmpty then [' '] else []) ++ more

/-- A run of a plain scalar without a gap; none if a comment stands here. A colon is only seen to end the run by what
comes after it. -/
def plainRun (inFlow : Bool) : Scan (List Char) := do
  if (← peek 0) = '#' then return []
  else
    let rest := (← get).rest
    let count := plainRunLength inFlow rest
    need (if rest.getD count endMark = ':' then count + 2 else count + 1)
    advance count
    return rest.take count

/-- The line ends of blank lines, none if an edge of a document comes after one of them. -/
def blankLines? : (fuel : Nat) → Scan (Option (List Char))
  | 0 => return some []
  | fuel + 1 => do
    if (← peek 0) = ' ' then
      advance 1
      blankLines? fuel
    else
      match ← takeBreak with
      | [] => return some []
      | lineBreak =>
        if ← atDocumentEdge then return none
        else return (← blankLines? fuel).map (lineBreak ++ ·)

/-- What stands between two runs of a plain scalar, nothing if an edge of a document does; and whether a line
end is passed. -/
def plainGap : Scan (List Char × Bool) := do
  let spaces ← span (· = ' ')
  match ← takeBreak with
  | [] => return (spaces, false)
  | lineBreak =>
    if ← atDocumentEdge then return ([], true)
    else
      match ← blankLines? (← bound) with
      | none => return ([], true)
      | some breaks => return (foldBreaks lineBreak breaks, true)

/-- The runs of a plain scalar from here on, after what stands between them and the runs before. Lines must
start at column `indent` at least. The last part of the result tells whether the scalar was left over a line
end. -/
def plainRuns (inFlow : Bool) (indent : Int) :
    (fuel : Nat) → (gap : List Char) → (passed : Bool) → Scan (List Char × Bool)
  | 0, _, passed => return ([], passed)
  | fuel + 1, gap, passed => do
    let run ← plainRun inFlow
    if run.isEmpty then return ([], passed)
    else
      let (next, passed) ← plainGap
      let cursor ← get
      if next.isEmpty || cursor.next = '#' || (!inFlow && cursor.column < indent) then
        return (gap ++ run, passed)
      else
        let (more, passed) ← plainRuns inFlow indent fuel next passed
        return (gap ++ run ++ more, passed)

/-- The plain scalar that stands here. -/
def plainText (inFlow : Bool) (indent : Int) : Scan (List Char × Bool) := do
  plainRuns inFlow indent (← bound) [] false

end LabelPress.Yaml
