import LabelPress.Record
import LabelPress.Stock
import LabelPress.Underflow

/-!
# Events

What happens while a document is made and is worth a line in a log. An event is data; its level, its
source and its wording are functions of it.
-/

namespace LabelPress

/-- How much an event matters. -/
inductive Severity where
  | debug
  | info
  | warning
  | error
  deriving DecidableEq, Repr

/-- The name of a severity. -/
def Severity.name : Severity → String
  | .debug => "DEBUG"
  | .info => "INFO"
  | .warning => "WARNING"
  | .error => "ERROR"

/-- The number of a severity; greater ones matter more. -/
def Severity.number : Severity → Int
  | .debug => 10
  | .info => 20
  | .warning => 30
  | .error => 40

/-- Something that happened. -/
inductive Event where
  /-- Settings of a stock are overridden. -/
  | overriding (stock : Stock) (settings : List Setting)
  /-- A position table is too short; `builtIn` if the stock itself has it so. -/
  | underflow (report : Underflow) (builtIn : Bool)
  /-- Pages are about to be rendered. -/
  | rendering (labels pages : Nat) (stock : Stock)
  /-- A size names no stock, so the small one is used. -/
  | unknownSize (given : Value)
  | loadingOptions (path : String)
  | wrote (labels : Nat) (path : String)
  | failed (reason : String)
  deriving Repr

namespace Event

/-- How much an event matters. -/
def severity : Event → Severity
  | .overriding .. | .rendering .. => .debug
  | .underflow _ builtIn => if builtIn then .info else .warning
  | .unknownSize _ => .warning
  | .loadingOptions _ | .wrote .. => .info
  | .failed _ => .error

/-- The part of the program that reports an event. -/
def source : Event → String
  | .overriding .. | .loadingOptions _ => "tspl_labels.configs.options"
  | .underflow .. | .rendering .. | .unknownSize _ => "tspl_labels.tspl.templates"
  | .wrote .. | .failed _ => "tspl_labels.scripts.generate_labels"

/-- The wording of an event. -/
def message : Event → String
  | .overriding stock settings =>
    "Overriding " ++ stock.name ++ " defaults: " ++
      shownTexts ((settings.map Setting.name).mergeSort (fun a b => a ≤ b))
  | .underflow report _ => "Position table underflow: " ++ report.message
  | .rendering labels pages stock =>
    "Rendering " ++ numeral labels ++ " label(s) on " ++ numeral pages ++ " " ++ stock.name ++ " page(s)"
  | .unknownSize given => "Unknown label size " ++ given.shown ++ ", using " ++ Stock.small.name
  | .loadingOptions path => "Loading label options from " ++ path
  | .wrote labels path => "Wrote " ++ numeral labels ++ " label(s) to " ++ path
  | .failed reason => "Label generation failed: " ++ reason

end Event

/-- The outcome of an action with the events on the way to it. Events are kept when the action fails. -/
structure Logged (ε α : Type) where
  events : List Event
  outcome : Except ε α

namespace Logged

/-- An outcome without events. -/
def ofExcept {ε α : Type} (r : Except ε α) : Logged ε α := ⟨[], r⟩

/-- Reports events. -/
def report {ε : Type} (events : List Event) : Logged ε Unit := ⟨events, .ok ()⟩

/-- One action after another; nothing follows a failure. -/
def andThen {ε α β : Type} (a : Logged ε α) (f : α → Logged ε β) : Logged ε β :=
  match a.outcome with
  | .ok x =>
    let rest := f x
    ⟨a.events ++ rest.events, rest.outcome⟩
  | .error e => ⟨a.events, .error e⟩

instance {ε : Type} : Monad (Logged ε) where
  pure x := ⟨[], .ok x⟩
  bind := andThen

/-- The same action with its failure renamed. -/
def mapError {ε ε' α : Type} (f : ε → ε') (a : Logged ε α) : Logged ε' α :=
  ⟨a.events, a.outcome.mapError f⟩

/-- Fails. -/
def fail {ε α : Type} (e : ε) : Logged ε α := ⟨[], .error e⟩

end Logged
end LabelPress
