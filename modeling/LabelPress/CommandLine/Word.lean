import LabelPress.CommandLine.Switch
import LabelPress.Text.DecimalDigit
import LabelPress.Text.Quoted

/-!
# Words of the command line

An argument is looked at on its own first: it names a switch, looks like one that is not known, or is plain
text. A long name may be cut short as long as only one switch has a name that begins so, and a value may
follow its switch in the same argument, behind an equals sign or right behind a short name. Behind `--` all
is plain.
-/

namespace LabelPress.CommandLine

/-- Why arguments are refused. -/
inductive UsageFault where
  | ambiguous (argument : String) (candidates : List String)
  | valueMissing (s : Switch)
  | valueIgnored (s : Switch) (value : String)
  | notNumber (s : Switch) (value : String)
  | excluded (s other : Switch)
  | sourceMissing
  | unknown (arguments : List String)
  deriving DecidableEq, Repr

/-- A message about a switch. -/
def aboutSwitch (s : Switch) (message : String) : String :=
  "argument " ++ s.title ++ ": " ++ message

/-- The wording of a fault. -/
def UsageFault.message : UsageFault → String
  | .ambiguous argument candidates =>
    "ambiguous option: " ++ argument ++ " could match " ++ String.intercalate ", " candidates
  | .valueMissing s => aboutSwitch s "expected one argument"
  | .valueIgnored s value => aboutSwitch s ("ignored explicit argument " ++ quoted value)
  | .notNumber s value => aboutSwitch s ("invalid int value: " ++ quoted value)
  | .excluded s other => aboutSwitch s ("not allowed with argument " ++ other.title)
  | .sourceMissing =>
    "one of the arguments " ++ Switch.records.title ++ " " ++ Switch.values.title ++ " is required"
  | .unknown arguments => "unrecognized arguments: " ++ String.intercalate " " arguments

/-- What follows the name of a switch in the same argument. -/
inductive Attached where
  | nothing
  /-- Behind an equals sign. -/
  | value (text : String)
  /-- Right behind a short name: a value, or further short names. -/
  | tail (text : List Char)
  deriving DecidableEq, Repr

/-- An argument seen on its own. -/
inductive Word where
  | plain (text : String)
  | separator
  | switch (s : Switch) (attached : Attached)
  | unknown (text : String)
  deriving DecidableEq, Repr

namespace Word

/-- Cuts a text at its first equals sign. -/
def cutAtEquals (cs : List Char) : String × Option String :=
  let (name, rest) := cs.span (· ≠ '=')
  (String.ofList name, match rest with
    | [] => none
    | _ :: value => some (String.ofList value))

/-- What an optional value attaches. -/
def attachedOf : Option String → Attached
  | none => .nothing
  | some value => .value value

/-- The names that an argument with two dashes may stand for. -/
def longCandidates (argument : List Char) : List (String × Switch × Attached) :=
  let (name, value) := cutAtEquals argument
  (Switch.named.filter fun entry => name.toList.isPrefixOf entry.1.toList).map
    fun (full, s) => (full, s, attachedOf value)

/-- The names that an argument with one dash may stand for: only its first letter is one. -/
def shortCandidates (argument : List Char) : List (String × Switch × Attached) :=
  (Switch.named.filter fun entry => entry.1 = String.ofList (argument.take 2)).map
    fun (full, s) => (full, s, .tail (argument.drop 2))

/-- The names that an argument which is no name itself may stand for. -/
def candidates (argument : List Char) : List (String × Switch × Attached) :=
  if ['-', '-'].isPrefixOf argument then longCandidates argument else shortCandidates argument

/-- Whether a text is a negative number in digits, with a point or without; a line feed may end it. -/
def isNegativeNumber (argument : List Char) : Bool :=
  match argument with
  | '-' :: rest =>
    let body := if rest.getLast? = some '\n' then rest.dropLast else rest
    let isDigitOfAnyScript (c : Char) : Bool := (decimalDigit? c).isSome
    match body.dropWhile isDigitOfAnyScript with
    | [] => !body.isEmpty
    | '.' :: fraction => !fraction.isEmpty && fraction.all isDigitOfAnyScript
    | _ => false
  | _ => false

/-- An argument that begins with a dash and is no name itself. -/
def ofDashed (argument : List Char) : Except UsageFault Word :=
  match candidates argument with
  | [(_, s, attached)] => .ok (.switch s attached)
  | [] =>
    if isNegativeNumber argument || argument.contains ' ' then .ok (.plain (String.ofList argument))
    else .ok (.unknown (String.ofList argument))
  | several => .error (.ambiguous (String.ofList argument) (several.map Prod.fst))

/-- The switch that an argument names in full, with the value behind an equals sign. -/
def named? (argument : List Char) : Option Word :=
  match Switch.ofName? (String.ofList argument) with
  | some s => some (.switch s .nothing)
  | none =>
    match cutAtEquals argument with
    | (name, some value) => (Switch.ofName? name).map fun s => .switch s (.value value)
    | _ => none

/-- Looks at one argument. -/
def ofArgument (argument : String) : Except UsageFault Word :=
  match argument.toList with
  | '-' :: c :: rest =>
    match named? ('-' :: c :: rest) with
    | some word => .ok word
    | none => ofDashed ('-' :: c :: rest)
  | _ => .ok (.plain argument)

/-- Looks at all arguments. -/
def ofArguments : List String → Except UsageFault (List Word)
  | [] => .ok []
  | argument :: rest =>
    if argument = "--" then .ok (.separator :: rest.map .plain)
    else do
      let word ← ofArgument argument
      return word :: (← ofArguments rest)

end Word
end LabelPress.CommandLine
