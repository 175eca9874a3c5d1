import LabelPress.Text.Part
import LabelPress.Yaml.PlainText

/-!
# Quoted scalars

Between single quotes only a doubled quote is special, between double quotes a backslash starts an escape.
Line ends are folded as in plain scalars, and an escaped one is dropped.
-/

namespace LabelPress.Yaml
open Scan

/-- The character that an escape of one letter stands for. -/
def escaped? (c : Char) : Option Char :=
  match c with
  | '0' => some '\x00'
  | 'a' => some '\x07'
  | 'b' => some '\x08'
  | 't' | '\t' => some '\t'
  | 'n' => some '\n'
  | 'v' => some '\x0b'
  | 'f' => some '\x0c'
  | 'r' => some '\r'
  | 'e' => some '\x1b'
  | ' ' => some ' '
  | '"' => some '"'
  | '\\' => some '\\'
  | '/' => some '/'
  | 'N' => some '\x85'
  | '_' => some '\xa0'
  | 'L' => some '\u2028'
  | 'P' => some '\u2029'
  | _ => none

/-- How many digits follow an escape that names a character by its number. -/
def escapeWidth? (c : Char) : Option Nat :=
  match c with
  | 'x' => some 2
  | 'u' => some 4
  | 'U' => some 8
  | _ => none

/-- The part of a text with a number. -/
def numberedPart (n : Nat) : Except Fault TextPart :=
  if 0x10FFFF < n then .error (.scalar (.noCharacter n)) else .ok (.ofNumber n)

/-- The line ends of blank lines inside quotes. -/
def quotedBlankLines : (fuel : Nat) → Scan (List Char)
  | 0 => return []
  | fuel + 1 => do
    insist (!(← atDocumentEdge)) .unclosedText
    skipWhile fun c => c = ' ' || c = '\t'
    match ← takeBreak with
    | [] => return []
    | lineBreak => return lineBreak ++ (← quotedBlankLines fuel)

/-- The escape after a backslash. -/
def quotedEscape : Scan (List TextPart) := do
  let c ← peek 0
  match escaped? c, escapeWidth? c with
  | some char, _ =>
    advance 1
    return [.char char]
  | none, some width =>
    advance 1
    let part ← numberedPart (← peekNumber width .badEscape)
    advance width
    return [part]
  | none, none =>
    if isBreak c then
      advance 1
      return (← quotedBlankLines (← bound)).map .char
    else refuse .badEscape

/-- What has a meaning of its own inside quotes, if it stands here. -/
def quotedMark? (double : Bool) : Scan (Option (List TextPart)) := do
  let c ← peek 0
  if double then
    if c = '\'' then
      advance 1
      return some [.char c]
    else if c = '\\' then
      advance 1
      return some (← quotedEscape)
    else return none
  else if c = '\'' then
    if (← peek 1) = '\'' then
      advance 2
      return some [.char c]
    else return none
  else if c = '"' || c = '\\' then
    advance 1
    return some [.char c]
  else return none

/-- What stands up to the next gap or the closing quote. -/
def quotedRun (double : Bool) : (fuel : Nat) → Scan (List TextPart)
  | 0 => return []
  | fuel + 1 => do
    let run ← span fun c => !(c = '\'' || c = '"' || c = '\\' || isWideGap c)
    match ← quotedMark? double with
    | none => return run.map .char
    | some parts => return run.map .char ++ parts ++ (← quotedRun double fuel)

/-- What a gap inside quotes stands for. -/
def quotedGap : Scan (List Char) := do
  let blanks ← span fun c => c = ' ' || c = '\t'
  insist ((← peek 0) ≠ endMark) .unclosedText
  match ← takeBreak with
  | [] => return blanks
  | lineBreak => return foldBreaks lineBreak (← quotedBlankLines (← bound))

/-- The rest of a quoted scalar, with its closing quote. -/
def quotedRest (double : Bool) : (fuel : Nat) → Scan (List TextPart)
  | 0 => refuse .unclosedText
  | fuel + 1 => do
    let run ← quotedRun double (← bound)
    if (← peek 0) = (if double then '"' else '\'') then
      advance 1
      return run
    else
      let gap ← quotedGap
      return run ++ gap.map .char ++ (← quotedRest double fuel)

/-- The quoted scalar that stands here. -/
def quotedText (double : Bool) : Scan (List TextPart) := do
  advance 1
  quotedRest double (← bound)

end LabelPress.Yaml
