import LabelPress.Numeral
import LabelPress.Text.Letter

/-!
# Log levels

A level is a number; greater ones matter more. Some levels have names.
-/

namespace LabelPress.Log

/-- The names of levels. Of two names for one level the first is the one that is shown. -/
def namedLevels : List (String × Int) := [
  ("CRITICAL", 50), ("FATAL", 50), ("ERROR", 40), ("WARNING", 30), ("WARN", 30), ("INFO", 20),
  ("DEBUG", 10), ("NOTSET", 0)]

/-- The level that a name in any case names. -/
def levelOfName? (name : String) : Option Int :=
  (namedLevels.find? fun entry => entry.1 = upperCase name).map Prod.snd

/-- The name of a level; one without a name shows its number. -/
def levelName (level : Int) : String :=
  match namedLevels.find? fun entry => entry.2 = level with
  | some (name, _) => name
  | none => "Level " ++ signedNumeral level

/-- The level from which on events are shown although no handler is installed, and that of a session that
has not been set up. -/
def warningLevel : Int := 30

end LabelPress.Log
