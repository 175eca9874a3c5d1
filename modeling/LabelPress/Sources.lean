import LabelPress.Csv
import LabelPress.Event
import LabelPress.Files
import LabelPress.Json.Reader
import LabelPress.Json.Value
import LabelPress.Options.Resolution
import LabelPress.Text.Blank
import LabelPress.Text.Utf8
import LabelPress.Yaml.Document

/-!
# Source files

Records come from a table or a JSON list, values from the lines of a text, options from a YAML mapping. Records
are read all or none: the first row that is no record refuses the file.
-/

namespace LabelPress

/-! ## Records and values -/

/-- Why records or values are not read. -/
inductive SourceError where
  | file (fault : FileFault)
  | undecodable (fault : Utf8.Fault)
  | json (error : Json.ReadError)
  | cellTooLong
  | notList (path : Path)
  | record (path : Path) (index : Nat) (fault : RecordFault)
  deriving DecidableEq, Repr

/-- The wording of an error. -/
def SourceError.message : SourceError → String
  | .file fault => fault.message
  | .undecodable fault => fault.message
  | .json error => error.message
  | .cellTooLong => "field larger than field limit (" ++ numeral Csv.cellLimit ++ ")"
  | .notList path => path.text ++ ": expected a JSON list of records"
  | .record path index fault =>
    path.text ++ ": record " ++ numeral index ++ ": " ++ fault.message

/-- A text with all line ends made line feeds. -/
def withUnifiedNewlines (text : String) : String :=
  String.ofList (unifyNewlines text.toList)

namespace Sources

/-- The text of a file, for a reader that takes it in blocks. -/
def streamText (files : Files) (path : Path) : Except SourceError String := do
  let content ← (files.read path).mapError .file
  (Utf8.decodeStream content).mapError .undecodable

/-- The lines of a text that are complete. -/
def completeLines (cs : List Char) : List Char :=
  (cs.reverse.dropWhile fun c => !Csv.isLineEnd c).reverse

/-- The text of a table that is handed over line by line. -/
def lineText (stream : Utf8.Stream) : String :=
  String.ofList (if stream.fault.isSome then completeLines stream.text else stream.text)

/-- The rows of a table. A cell that is too long counts before a fault further on. -/
def tableRows (files : Files) (path : Path) : Except SourceError (List Value) := do
  let content ← (files.read path).mapError .file
  let stream := Utf8.stream Utf8.evenBlocks content
  match Csv.records? (lineText stream), stream.fault with
  | none, _ => .error .cellTooLong
  | some _, some fault => .error (.undecodable fault)
  | some rows, none => return rows.map .map

/-- The rows of a JSON list. -/
def jsonRows (files : Files) (path : Path) : Except SourceError (List Value) := do
  let content ← (files.read path).mapError .file
  let text ← (Utf8.decode content).mapError .undecodable
  match ← (Json.read (withUnifiedNewlines text)).mapError .json with
  | .array items => return Json.itemValues items
  | _ => .error (.notList path)

/-- The records of rows from number `index` on. -/
def recordsOf (half : Nat → String) (path : Path) : (index : Nat) → List Value → Except SourceError (List Record)
  | _, [] => .ok []
  | index, row :: rows => do
    let record ← (Record.ofValue row half).mapError (.record path index)
    return record :: (← recordsOf half path (index + 1) rows)

/-- Whether a path names a table. -/
def isTable (path : Path) : Bool :=
  lowerCase path.suffix = ".csv"

/-- Reads records: from a table if the name says so, and else from a JSON list. -/
def readRecords (files : Files) (path : Path) (half : Nat → String := codePointEscape) :
    Except SourceError (List Record) := do
  recordsOf half path 0 (← if isTable path then tableRows files path else jsonRows files path)

/-- The values of a text: its lines without the blanks at their ends, and without those that are blank. -/
def valuesOf (text : String) : List String :=
  ((splitLines (unifyNewlines text.toList)).map (trimBy isBlank)).filterMap fun line =>
    if line.isEmpty then none else some (String.ofList line)

/-- Reads values. -/
def readValues (files : Files) (path : Path) : Except SourceError (List String) :=
  (streamText files path).map valuesOf

end Sources

/-! ## Options -/

/-- Why a YAML file is not read. -/
inductive YamlError where
  | missing (path : Path)
  | file (fault : FileFault)
  | undecodable (fault : Utf8.Fault)
  | malformed (path : Path) (fault : Yaml.FormatFault)
  | scalar (fault : Yaml.ScalarFault)
  | tooDeep
  deriving DecidableEq, Repr

/-- The wording of an error. -/
def YamlError.message : YamlError → String
  | .missing path => "YAML file not found: " ++ path.text
  | .file fault => fault.message
  | .undecodable fault => fault.message
  | .malformed path _ => "Failed to parse YAML file " ++ path.text
  | .scalar fault => fault.message
  | .tooDeep => "maximum recursion depth exceeded"

/-- Why options are not read from a file. -/
inductive OptionsFileError where
  | missing (path : Path)
  | unreadable (error : YamlError)
  | notMapping (path : Path) (kind : String)
  | invalid (error : OptionsError)
  deriving DecidableEq, Repr

/-- The wording of an error. -/
def OptionsFileError.message : OptionsFileError → String
  | .missing path => "Label options not found: " ++ path.text
  | .unreadable error => error.message
  | .notMapping path kind =>
    "Label options file must contain a mapping, got " ++ kind ++ ": " ++ path.text
  | .invalid error => error.message

namespace Sources

/-- The error for a fault of a YAML text. -/
def yamlError (path : Path) : Yaml.Fault → YamlError
  | .format fault => .malformed path fault
  | .scalar fault => .scalar fault
  | .tooDeep => .tooDeep
  | .undecodable fault => .undecodable fault

/-- What a YAML reader gets of a file. -/
def yamlSource (content : ByteArray) : Yaml.Source :=
  .ofStream (Utf8.stream Yaml.portionBlocks content)

/-- Reads a YAML file, with room for so many levels of collections. -/
def readYaml (room : Nat) (files : Files) (path : Path) : Except YamlError Value := do
  if (← (files.lookup path).mapError .file).isNone then throw (.missing path)
  let content ← (files.read path).mapError .file
  (Yaml.read room (yamlSource content)).mapError (yamlError path)

/-- Reads the mapping of an options file without validating it; an empty file is an empty mapping. -/
def readOptions (room : Nat) (files : Files) (path : Path) : Logged OptionsFileError Mapping := do
  let found ← Logged.ofExcept ((files.lookup path).mapError fun fault => .unreadable (.file fault))
  if found.isNone then .fail (.missing path)
  else
    Logged.report [.loadingOptions path.text]
    match ← Logged.ofExcept ((readYaml room files path).mapError .unreadable) with
    | .null => return []
    | .map m => return m
    | v => .fail (.notMapping path v.kindName)

/-- The key of an options file that names the size of the labels. -/
def sizeKey : String := "size"

/-- Validates options but for the size. -/
def validateApartFromSize (m : Mapping) : Except OptionsFileError Overrides :=
  (Options.validate (m.erase sizeKey)).mapError fun details => .invalid (.invalid details)

/-- Reads the overrides of an options file; the size is ignored. -/
def loadOptions (room : Nat) (files : Files) (path : Path) : Logged OptionsFileError Overrides := do
  Logged.ofExcept (validateApartFromSize (← readOptions room files path))

/-- What a caller sets besides the options file. -/
structure DirectOptions where
  itemsPerPage : Option Int := none
  includeId : Bool := false

/-- The overrides of a caller together with those of a file. What the caller sets counts more, whichever key
the file uses for it. -/
def combine (direct : DirectOptions) (fromFile : Overrides) : Except OptionsFileError Overrides :=
  let m := Options.mappingOf fromFile
  let m := match direct.itemsPerPage with
    | some n => m.insert (.text Setting.itemsPerPage.name) (.int n)
    | none => m
  let m := if direct.includeId then m.insert (.text Setting.includeIdText.name) (.bool true) else m
  (Options.validate m).mapError fun details => .invalid (.invalid details)

/-- The size that an options file names, null if there is none, and the overrides of the file, if one is given,
and the caller. -/
def buildOptions (room : Nat) (files : Files) (optionsFile : Option Path) (direct : DirectOptions) :
    Logged OptionsFileError (Value × Overrides) := do
  match optionsFile with
  | none => return (.null, ← Logged.ofExcept (combine direct Overrides.none))
  | some path =>
    let raw ← readOptions room files path
    let fromFile ← Logged.ofExcept (validateApartFromSize raw)
    let overrides ← Logged.ofExcept (combine direct fromFile)
    return ((Mapping.get? raw sizeKey).getD .null, overrides)

end Sources
end LabelPress
