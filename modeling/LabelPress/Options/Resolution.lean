import LabelPress.Event
import LabelPress.Options.Validation

/-!
# Resolving a layout

The layout a document is printed with is that of its stock, overridden by the options of the caller.
Options may be absent, a mapping that is yet to be validated, or overrides that have been.
-/

namespace LabelPress

/-- Why options cannot be used. -/
inductive OptionsError where
  | notMapping (kind : String)
  | invalid (details : List OptionDetail)
  deriving DecidableEq, Repr

/-- The wording of an error; the details of a rejection are told apart from it. -/
def OptionsError.message : OptionsError → String
  | .notMapping kind => "Label options must be a mapping or LabelOptionsV1, got " ++ kind
  | .invalid _ => "Invalid label options"

/-- The wording of an error with the place and code of every detail. -/
def OptionsError.report : OptionsError → String
  | .invalid details =>
    OptionsError.message (.invalid details) ++ " [" ++
      String.intercalate "; " (details.map fun d => Place.dotted d.place ++ ":" ++ d.fault.code) ++ "]"
  | e => e.message

/-- The options of a caller. -/
inductive Options where
  | given (v : Value)
  | validated (o : Overrides)

namespace Options

/-- No options. -/
def absent : Options := .given .null

/-- Validates the options of a caller. -/
def overrides : Options → Except OptionsError Overrides
  | .validated o => .ok o
  | .given .null => .ok Overrides.none
  | .given (.map m) => (validate m).mapError .invalid
  | .given v => .error (.notMapping v.kindName)

/-- The event of overriding, if anything is overridden. -/
def overridingEvents (stock : Stock) (o : Overrides) : List Event :=
  match o.settings with
  | [] => []
  | settings => [.overriding stock settings]

/-- The layout of a stock with the options of a caller. -/
def resolve (stock : Stock) (options : Options) : Logged OptionsError Layout := do
  let o ← Logged.ofExcept options.overrides
  Logged.report (overridingEvents stock o)
  return Setting.tabulate (stock.layout.override o)

end Options
end LabelPress
