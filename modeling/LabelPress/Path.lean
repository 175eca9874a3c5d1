import LabelPress.Text.Newline
import LabelPress.Text.Quoted

/-!
# Paths

A path is a list of names, after a root if it is absolute. Empty names and `.` are dropped when a path is
read, `..` is kept: what it leads to depends on the files. The suffix of a name is its last point and what
follows, unless there is nothing before or after that point.
-/

namespace LabelPress

/-- A path. The root is empty for a relative path. -/
structure Path where
  root : String
  names : List String
  deriving DecidableEq, Repr

/-- Why the suffix of a path cannot be changed. -/
inductive SuffixFault where
  | invalid (suffix : String)
  | noName (path : Path)
  deriving DecidableEq, Repr

namespace Path

/-- The root that a number of leading slashes stands for: two are a root of their own. -/
def rootOf (slashes : Nat) : String :=
  if slashes = 0 then "" else if slashes = 2 then "//" else "/"

/-- Reads a path. -/
def ofText (s : String) : Path where
  root := rootOf (s.toList.takeWhile (· = '/')).length
  names := ((pieces '/' s.toList).map String.ofList).filter fun name => name ≠ "" ∧ name ≠ "."

/-- The text of a path. -/
def text (p : Path) : String :=
  if p.root = "" ∧ p.names = [] then "." else p.root ++ String.intercalate "/" p.names

/-- The last name, empty if there is none. -/
def name (p : Path) : String :=
  p.names.getLastD ""

/-- The path without its last name. -/
def parent (p : Path) : Path :=
  { p with names := p.names.dropLast }

/-- Splits the suffix off a name. -/
def splitSuffix (name : List Char) : List Char × List Char :=
  let tail := name.reverse.takeWhile (· ≠ '.')
  let stem := (name.reverse.drop (tail.length + 1)).reverse
  if tail.isEmpty || stem.isEmpty then (name, []) else (stem, '.' :: tail.reverse)

/-- The suffix of the last name, with its point. -/
def suffix (p : Path) : String :=
  String.ofList (splitSuffix p.name.toList).2

/-- Whether a text can be a suffix: it is empty or has a point in front, more after it and no slash. -/
def isSuffix (s : String) : Bool :=
  match s.toList with
  | [] => true
  | '.' :: rest => !rest.isEmpty && !rest.contains '/'
  | _ => false

/-- The path with another suffix. -/
def withSuffix (p : Path) (suffix : String) : Except SuffixFault Path :=
  if !isSuffix suffix then .error (.invalid suffix)
  else if p.name = "" then .error (.noName p)
  else
    let stem := String.ofList (splitSuffix p.name.toList).1
    .ok { p with names := p.names.dropLast ++ [stem ++ suffix] }

/-- The path with every `..` taken back together with the name before it, as far as there is one. -/
def collapse (p : Path) : Path :=
  let step (names : List String) (name : String) : List String :=
    if name ≠ ".." then names ++ [name]
    else if names = [] then (if p.root = "" then [name] else [])
    else if names.getLast? = some ".." then names ++ [name]
    else names.dropLast
  { p with names := p.names.foldl step [] }

end Path

/-- The wording of a fault. -/
def SuffixFault.message : SuffixFault → String
  | .invalid suffix => "Invalid suffix " ++ quoted suffix
  | .noName path => "PosixPath(" ++ quoted path.text ++ ") has an empty name"

end LabelPress
