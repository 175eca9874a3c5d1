/-!
# Switches

The switches of the command line, their names, and which of them take a value.
-/

namespace LabelPress.CommandLine

/-- The name of the program. -/
def programName : String := "generate_labels"

/-- A switch of the command line. -/
inductive Switch where
  | help
  | records
  | values
  | size
  | options
  | itemsPerPage
  | includeId
  | output
  | logLevel
  | jsonLogs
  deriving DecidableEq, Repr

namespace Switch

/-- The switches in the order of the help text. -/
def all : List Switch := [
  .help, .records, .values, .size, .options, .itemsPerPage, .includeId, .output, .logLevel, .jsonLogs]

/-- The names of a switch. -/
def names : Switch → List String
  | .help => ["-h", "--help"]
  | .records => ["--records", "-r"]
  | .values => ["--values"]
  | .size => ["--size", "-s"]
  | .options => ["--options", "-c"]
  | .itemsPerPage => ["--items-per-page"]
  | .includeId => ["--include-id"]
  | .output => ["--output", "-o"]
  | .logLevel => ["--log-level"]
  | .jsonLogs => ["--json-logs"]

/-- What a switch does. -/
def purpose : Switch → String
  | .help => "show this text and exit"
  | .records => "JSON or CSV file of label records"
  | .values => "text file, one QR value per line (value is also the caption)"
  | .size => "label stock (default: from options file, else small)"
  | .options => "YAML file of layout overrides"
  | .itemsPerPage => "labels per physical page"
  | .includeId => "print the record id above the name"
  | .output => "output file (default: standard output)"
  | .logLevel => "least level that is logged (default: INFO)"
  | .jsonLogs => "log JSON lines"

/-- Whether a switch takes a value. -/
def takesValue : Switch → Bool
  | .help | .includeId | .jsonLogs => false
  | _ => true

/-- All names with what they name, in order. -/
def named : List (String × Switch) :=
  all.flatMap fun s => s.names.map fun name => (name, s)

/-- The switch of a name. -/
def ofName? (name : String) : Option Switch :=
  (named.find? fun entry => entry.1 = name).map Prod.snd

/-- A switch as messages show it. -/
def title (s : Switch) : String :=
  String.intercalate "/" s.names

end Switch

/-- The line that shows how the program is called. -/
def usage : String :=
  "usage: " ++ programName ++ " (--records FILE | --values FILE) [SWITCHES]"

/-- The help text. -/
def helpText : String :=
  String.intercalate "\n" ([usage, ""] ++
    (Switch.all.map fun s => "  " ++ String.intercalate ", " s.names ++ ": " ++ s.purpose) ++
    ["", "Sizes: small (25x25), medium (100x50), large (100x150)", ""])

end LabelPress.CommandLine
