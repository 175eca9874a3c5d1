import LabelPress.Calendar
import LabelPress.Numeral
import LabelPress.Text.Quoted
import LabelPress.Text.Utf8

/-!
# Faults of YAML texts

A text can break the rules of the format, or keep them and hold a scalar that names no value of its type. It can also
nest too deep for the reader, or not be a text at all.
-/

namespace LabelPress.Yaml

/-- How a text breaks the rules of the format. -/
inductive FormatFault where
  | unprintable
  /-- No token starts with this character here. -/
  | strayCharacter
  | misplacedEntry
  | misplacedKey
  | misplacedValue
  /-- A line that must be a key has no colon. -/
  | keyWithoutColon
  | badDirective
  | badAnchor
  | badTag
  | badEscape
  | badBlockHeader
  /-- A quoted text is not closed, or runs into another document. -/
  | unclosedText
  /-- A token that the structure has no place for. -/
  | unexpectedToken
  | unknownHandle
  | unknownAlias
  | repeatedAnchor
  | secondDocument
  | unknownTag
  /-- The tag is one for nodes of another shape. -/
  | wrongShape
  | badKey
  | badMerge
  | badBase64
  deriving DecidableEq, Repr

/-- Why a scalar names no value of its type. -/
inductive ScalarFault where
  | noInteger (base : Nat) (given : String)
  | integerTooLong (digits : Nat)
  | noDouble (given : String)
  | emptyNumber
  | noTruth (given : String)
  | noMoment
  | calendar (fault : CalendarFault)
  /-- An escape names a number that is past the last character. -/
  | noCharacter (number : Nat)
  /-- A number to the base sixty has more digits than the weights of doubles reach. -/
  | weightTooBig
  /-- A mapping stands for a moment, by the text under its default key. -/
  | momentOfMapping
  deriving DecidableEq, Repr

/-- Why a text is not read. -/
inductive Fault where
  | format (fault : FormatFault)
  | scalar (fault : ScalarFault)
  | tooDeep
  | undecodable (fault : Utf8.Fault)
  deriving DecidableEq, Repr

/-- The wording of a fault. -/
def ScalarFault.message : ScalarFault → String
  | .noInteger base given =>
    "invalid literal for int() with base " ++ numeral base ++ ": " ++ quoted given
  | .integerTooLong digits => digitLimitMessage digits
  | .noDouble given => "could not convert string to float: " ++ quoted given
  | .emptyNumber => "string index out of range"
  | .noTruth given => quoted given
  | .noMoment => "'NoneType' object has no attribute 'groupdict'"
  | .calendar fault => fault.message
  | .noCharacter _ => "chr() arg not in range(0x110000)"
  | .weightTooBig => "int too large to convert to float"
  | .momentOfMapping => "expected string or bytes-like object, got 'list'"

end LabelPress.Yaml
