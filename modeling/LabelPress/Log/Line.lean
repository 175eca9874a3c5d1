import LabelPress.Json.Value
import LabelPress.Json.Writer
import LabelPress.Log.Context
import LabelPress.Log.Level
import LabelPress.Log.Timestamp

/-!
# Lines of a log

An entry is written as a line for people, with its fields between level and message, or as a JSON object. A
field of the context that has the key of a member takes the place of that member.
-/

namespace LabelPress.Log

/-- An error that an entry reports besides its message. -/
structure Raised where
  kind : String
  message : String
  deriving DecidableEq, Repr

/-- The text of an error: its kind, and its message if it has one. The message of a failed look-up is the
key, which is shown in quotes. -/
def Raised.text (r : Raised) : String :=
  let message := if r.kind = "KeyError" then quoted r.message else r.message
  if message = "" then r.kind else r.kind ++ ": " ++ message

/-- Something to be logged. -/
structure Entry where
  source : String
  level : Int
  message : String
  raised : Option Raised := none
  /-- The seconds since the start of 1970. -/
  created : Binary64
  /-- The number of the process. -/
  process : Nat

/-- The source of an entry as it is shown. -/
def Entry.sourceName (e : Entry) : String :=
  if e.source = "" then "root" else e.source

/-- How entries are written. -/
structure Style where
  json : Bool
  color : Bool
  universal : Bool
  deriving DecidableEq, Repr

/-! ## JSON -/

/-- Sets a member of an object; one that is there keeps its place. -/
def setMember (members : List (String × Json)) (key : String) (v : Json) : List (String × Json) :=
  match members with
  | [] => [(key, v)]
  | (k, w) :: rest => if k = key then (k, v) :: rest else (k, w) :: setMember rest key v

/-- The members that every entry has. -/
def ownMembers (e : Entry) (time : Moment) : List (String × Json) := [
  ("t", .text (time.isoText "T")), ("lvl", .text (levelName e.level)), ("name", .text e.sourceName),
  ("pid", .int e.process), ("msg", .text e.message)]

/-- The members of an entry in a context. -/
def members (c : Context) (e : Entry) (time : Moment) : List (String × Json) :=
  let withContext := c.foldl (fun ms field => setMember ms field.1 (Json.ofValue field.2)) (ownMembers e time)
  match e.raised with
  | none => withContext
  | some r => setMember withContext "exc" (.text r.text)

/-- An entry as a JSON object on one line. -/
def jsonLine (c : Context) (e : Entry) (time : Moment) : String :=
  (Json.object (members c e time)).write

/-! ## Lines for people -/

/-- The escape that a terminal takes as a color. -/
def colorEscape (number : Nat) : String :=
  "\x1b[" ++ numeral number ++ "m"

/-- The color of a level, none for one without. -/
def levelColor (name : String) : String :=
  match [("DEBUG", 36), ("INFO", 32), ("WARNING", 33), ("ERROR", 31), ("CRITICAL", 35)].find?
      fun (entry : String × Nat) => entry.1 = name with
  | some (_, number) => colorEscape number
  | none => ""

/-- The name of a level on eight columns. -/
def levelColumn (style : Style) (level : Int) : String :=
  let name := levelName level
  let padded := name ++ String.ofList (List.replicate (8 - name.length) ' ')
  if style.color then levelColor name ++ padded ++ colorEscape 0 else padded

/-- The time to the millisecond; what is beyond is dropped. -/
def timeColumn (time : Moment) : String :=
  numeral time.date.year ++ "-" ++ paddedNumeral 2 time.date.month ++ "-" ++
    paddedNumeral 2 time.date.day ++ "T" ++ paddedNumeral 2 time.hour ++ ":" ++
    paddedNumeral 2 time.minute ++ ":" ++ paddedNumeral 2 time.second ++ "." ++
    paddedNumeral 3 (time.microsecond / 1000) ++ "Z"

/-- The fields of a context. -/
def contextColumn (c : Context) : String :=
  String.intercalate " " (c.map fun field => field.1 ++ "=" ++ field.2.content)

/-- The columns of an entry; without a context there is no column for it. -/
def columns (style : Style) (c : Context) (e : Entry) (time : Moment) : List String :=
  [timeColumn time, levelColumn style e.level] ++
    (if contextColumn c = "" then [] else [contextColumn c]) ++ [e.message]

/-- An entry as a line for people; an error comes on a line of its own. -/
def humanLine (style : Style) (c : Context) (e : Entry) (time : Moment) : String :=
  String.intercalate " | " (columns style c e time) ++
    (match e.raised with
    | none => ""
    | some r => "\n" ++ r.text)

/-- An entry as a line, without its end. -/
def line (style : Style) (c : Context) (e : Entry) : Except TimeFault String := do
  let time ← Timestamp.moment e.created style.universal
  return if style.json then jsonLine c e time else humanLine style c e time

/-- An entry where no handler is installed: its message, and its error on a line of its own. -/
def bareLine (e : Entry) : String :=
  match e.raised with
  | none => e.message
  | some r => e.message ++ (if e.message.toList.getLast? = some '\n' then "" else "\n") ++ r.text

end LabelPress.Log
