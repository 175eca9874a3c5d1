import LabelPress.Binary64.Reader
import LabelPress.CommandLine.Word
import LabelPress.Path

/-!
# Arguments

What a caller asks for on the command line. The words are taken in order: a switch that needs a value and has
none in its own word takes the next word, which must be plain; of a switch that is given twice the last value
counts. Words that nothing takes are only refused at the end, so that any other fault is reported first.
-/

namespace LabelPress.CommandLine

/-- Where the labels come from. -/
inductive Source where
  | records (path : Path)
  | values (path : Path)
  deriving DecidableEq, Repr

/-- The switch that names a source. -/
def Source.switch : Source → Switch
  | .records _ => .records
  | .values _ => .values

/-- What a caller may leave out. -/
structure Preferences where
  size : Option String := none
  options : Option Path := none
  itemsPerPage : Option Int := none
  includeId : Bool := false
  output : Option Path := none
  logLevel : String := "INFO"
  jsonLogs : Bool := false
  deriving DecidableEq, Repr

/-- What a caller asks for. -/
structure Arguments extends Preferences where
  source : Source
  deriving DecidableEq, Repr

/-- Why there is nothing to do. -/
inductive Stop where
  | help
  | fault (f : UsageFault)
  deriving DecidableEq, Repr

/-! ## Uses of switches -/

/-- A switch that is used, with its value; that of a switch without one is empty. -/
abbrev Use := Switch × String

/-- What is left to do after a word. -/
inductive Pending where
  | nothing
  /-- The next word is the value of a switch. -/
  | value (s : Switch)
  /-- A short name at the end of a word is not known. -/
  | unknown (text : String)
  deriving DecidableEq, Repr

/-- The use of a switch whose name ends its word. -/
def useAlone (s : Switch) : List Use × Pending :=
  if s.takesValue then ([], .value s) else ([(s, "")], .nothing)

/-- The use of a switch with a value in the same word. -/
def useWith (s : Switch) (value : String) : Except UsageFault (List Use × Pending) :=
  if s.takesValue then .ok ([(s, value)], .nothing) else .error (.valueIgnored s value)

/-- The uses of the short names in a word, of which the first is that of `s`. -/
def shortUses (s : Switch) : List Char → Except UsageFault (List Use × Pending)
  | [] => .ok (useAlone s)
  | c :: rest =>
    if s.takesValue then .ok ([(s, String.ofList (c :: rest))], .nothing)
    else if c = '-' then .error (.valueIgnored s (String.ofList (c :: rest)))
    else
      match Switch.ofName? (String.ofList ['-', c]) with
      | none => .ok ([(s, "")], .unknown (String.ofList ('-' :: c :: rest)))
      | some next => do
        let (uses, pending) ← match rest with
          | '=' :: value => useWith next (String.ofList value)
          | rest => shortUses next rest
        return ((s, "") :: uses, pending)

/-- The uses of switches in a word. -/
def usesOf (s : Switch) : Attached → Except UsageFault (List Use × Pending)
  | .nothing => .ok (useAlone s)
  | .value text => useWith s text
  | .tail text => shortUses s text

/-! ## Choices -/

/-- What has been chosen so far, and the words that nothing took. -/
structure Choices extends Preferences where
  source : Option Source := none
  leftOver : List String := []

namespace Choices

/-- Chooses a source. There cannot be sources of two kinds. -/
def takeSource (c : Choices) (s : Source) : Except Stop Choices :=
  match c.source with
  | none => .ok { c with source := some s }
  | some other =>
    if other.switch = s.switch then .ok { c with source := some s }
    else .error (.fault (.excluded s.switch other.switch))

/-- Takes one use of a switch. -/
def take (c : Choices) : Use → Except Stop Choices
  | (.help, _) => .error .help
  | (.records, value) => c.takeSource (.records (Path.ofText value))
  | (.values, value) => c.takeSource (.values (Path.ofText value))
  | (.size, value) => .ok { c with size := some value }
  | (.options, value) => .ok { c with options := some (Path.ofText value) }
  | (.itemsPerPage, value) =>
    match readInteger? value with
    | some n => .ok { c with itemsPerPage := some n }
    | none => .error (.fault (.notNumber .itemsPerPage value))
  | (.includeId, _) => .ok { c with includeId := true }
  | (.output, value) => .ok { c with output := some (Path.ofText value) }
  | (.logLevel, value) => .ok { c with logLevel := value }
  | (.jsonLogs, _) => .ok { c with jsonLogs := true }

/-- Leaves a word over. -/
def leave (c : Choices) (text : String) : Choices :=
  { c with leftOver := c.leftOver ++ [text] }

/-- Takes all words. -/
def takeWords (c : Choices) : List Word → Except Stop Choices
  | [] => .ok c
  | .plain text :: words => takeWords (c.leave text) words
  | .separator :: words => takeWords (c.leave "--") words
  | .unknown text :: words => takeWords (c.leave text) words
  | .switch s attached :: words =>
    match usesOf s attached, words with
    | .error fault, _ => .error (.fault fault)
    | .ok (uses, .nothing), words => do takeWords (← uses.foldlM take c) words
    | .ok (uses, .unknown text), words => do takeWords ((← uses.foldlM take c).leave text) words
    | .ok (uses, .value s), .plain value :: words => do
      takeWords (← (uses ++ [(s, value)]).foldlM take c) words
    | .ok (_, .value s), _ => .error (.fault (.valueMissing s))

/-- What has been chosen, if that is complete. -/
def complete (c : Choices) : Except UsageFault Arguments :=
  match c.source with
  | none => .error .sourceMissing
  | some source =>
    if c.leftOver = [] then .ok { c.toPreferences with source }
    else .error (.unknown c.leftOver)

end Choices

/-- Reads the arguments of the command line. -/
def Arguments.read (arguments : List String) : Except Stop Arguments := do
  let words ← (Word.ofArguments arguments).mapError .fault
  let choices ← Choices.takeWords {} words
  choices.complete.mapError .fault

end LabelPress.CommandLine
