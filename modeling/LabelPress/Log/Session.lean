import LabelPress.Files.Effect
import LabelPress.Log.Line

/-!
# Log sessions

A session has a level, a context and handlers, each of which writes the entries that pass the level to the
error stream or to the end of a file. Handlers are attached one by one; those that a setup makes are also
listed as installed, so that the next one can take them away again and leave the handlers of others alone.
-/

namespace LabelPress.Log

/-- Where a handler writes. -/
inductive Target where
  | errorStream
  | file (place : List String)
  deriving DecidableEq, Repr

/-- A handler. Its number tells it from every other one, also from one that writes the same. -/
structure Handler where
  target : Target
  style : Style
  number : Nat
  deriving DecidableEq, Repr

/-- Whether JSON can write the fields that an entry is shown with; a field `exc` gives way to the error that the
entry reports. -/
def showsInJson (c : Context) (e : Entry) : Bool :=
  c.all fun field => Json.canWrite field.2 || (field.1 = "exc" && e.raised.isSome)

/-- The line that a handler makes of an entry. It makes none if there is no date, and in JSON none if a field cannot
be written. -/
def Handler.line? (h : Handler) (c : Context) (e : Entry) : Option String :=
  if h.style.json && !showsInJson c e then none else (Log.line h.style c e).toOption

/-- The state of logging. -/
structure Session where
  level : Int := warningLevel
  /-- The handlers that are attached. -/
  handlers : List Handler := []
  context : Context := []
  /-- The handlers that the last setup made. They need not be attached. -/
  installed : List Handler := []
  /-- How many handlers have been made. -/
  made : Nat := 0

/-- What a caller can choose when logging is set up. -/
structure Setup where
  level : String := "INFO"
  file : Option String := none
  json : Bool := false
  color : Bool := true
  toErrorStream : Bool := true
  zone : String := "UTC"
  context : Context := []

/-- Why logging is not set up. -/
inductive SetupFault where
  | unknownLevel (name : String)
  | file (fault : FileFault)
  deriving DecidableEq, Repr

/-- The wording of a fault. -/
def SetupFault.message : SetupFault → String
  | .unknownLevel name => "Unknown log level: " ++ name
  | .file fault => fault.message

namespace Setup

/-- The style of a handler. -/
def style (options : Setup) (color : Bool) : Style where
  json := options.json
  color := color
  universal := options.zone = "UTC"

/-- The handlers of the error stream, numbered from a number on. Only a terminal is written to in color. -/
def streamHandlers (options : Setup) (terminal : Bool) (number : Nat) : List Handler :=
  if options.toErrorStream then [⟨.errorStream, options.style (options.color && terminal), number⟩] else []

/-- Makes the file that a path leads to ready to be written to at its end. -/
def openAtEnd (path : Path) : FileAction FileFault (List String) := do
  let place ← .ask (Files.writablePlace path)
  if (← .ask fun files => .ok (files.get? place)).isNone then .perform (.truncate place)
  return place

/-- Opens the log file, if there is to be one, in a folder that is made if it is missing. -/
def openLog (options : Setup) : FileAction FileFault (Option (List String)) :=
  match options.file with
  | none | some "" => return none
  | some name => do
    let path := Path.ofText name
    Files.ensureFolder path.parent
    return some (← openAtEnd path.collapse)

/-- The handlers of the log file, if it is open, numbered from a number on. -/
def fileHandlers (options : Setup) (place : Option (List String)) (number : Nat) : List Handler :=
  place.toList.map fun place => ⟨.file place, options.style false, number⟩

end Setup

namespace Session

/-- Takes a handler away if it is attached. -/
def detach (s : Session) (h : Handler) : Session :=
  { s with handlers := s.handlers.erase h }

/-- Attaches a handler unless it is attached. -/
def attach (s : Session) (h : Handler) : Session :=
  if h ∈ s.handlers then s else { s with handlers := s.handlers ++ [h] }

/-- Makes handlers installed ones, besides those that are. -/
def install (s : Session) (handlers : List Handler) : Session :=
  { s with installed := s.installed ++ handlers, made := s.made + handlers.length }

/-- The session at another level and without the handlers that are installed. -/
def cleared (s : Session) (level : Int) : Session :=
  { s.installed.foldl detach s with installed := [], level := level }

/-- The session at another level and with the handlers of the error stream installed alone. -/
def streaming (s : Session) (options : Setup) (terminal : Bool) (level : Int) : Session :=
  let cleared := s.cleared level
  cleared.install (options.streamHandlers terminal cleared.made)

/-- The session with the handlers of the log file installed too and all that are installed attached. -/
def complete (s : Session) (options : Setup) (place : Option (List String)) : Session :=
  let whole := s.install (options.fileHandlers place s.made)
  whole.installed.foldl attach whole

/-- Adds fields to the context. -/
def pushContext (s : Session) (fields : List (String × Value)) : Session :=
  { s with context := s.context.push fields }

/-- What a setup leaves: the effects on files, the session and how the setup ends, with the handlers it attached
if it ends well. -/
structure SetupResult where
  effects : List FileEffect
  session : Session
  outcome : Except SetupFault (List Handler)

/-- Sets logging up. An unknown level changes nothing. A file that cannot be used leaves the new level, and a
handler of the error stream that is installed but not attached. -/
def setUp (s : Session) (options : Setup) (terminal : Bool) (files : Files) : SetupResult :=
  match levelOfName? options.level with
  | none => ⟨[], s, .error (.unknownLevel options.level)⟩
  | some level =>
    let streaming := s.streaming options terminal level
    let (effects, result) := options.openLog files
    match result with
    | .error fault => ⟨effects, streaming, .error (.file fault)⟩
    | .ok place =>
      let complete := streaming.complete options place
      ⟨effects, complete.pushContext options.context, .ok complete.installed⟩

/-- Removes fields from the context, all of them if no keys are given. -/
def popContext (s : Session) : Option (List String) → Session
  | none => { s with context := [] }
  | some keys => { s with context := s.context.pop keys }

/-- Whether entries of a level are written. -/
def passes (s : Session) (level : Int) : Bool :=
  0 < level && s.level ≤ level

/-- What is written: text for the error stream, and effects on files. -/
structure Written where
  errors : String := ""
  effects : List FileEffect := []

/-- Writes a line to a target. -/
def writeLine (line : String) : Target → Written
  | .errorStream => { errors := line ++ "\n" }
  | .file place => { effects := [.append place (line ++ "\n").toUTF8] }

/-- The lines of an entry, each with the handler that writes it. -/
def deliveries (s : Session) (e : Entry) : List (Handler × String) :=
  s.handlers.filterMap fun h => (h.line? s.context e).map (h, ·)

/-- What is written of an entry. -/
def emit (s : Session) (e : Entry) : Written :=
  if !s.passes e.level then {}
  else if s.handlers.isEmpty then
    if warningLevel ≤ e.level then { errors := bareLine e ++ "\n" } else {}
  else
    let written := (s.deliveries e).map fun delivery => writeLine delivery.2 delivery.1.target
    { errors := String.join (written.map Written.errors)
      effects := written.flatMap Written.effects }

end Session
end LabelPress.Log
