import LabelPress.CommandLine.Job
import LabelPress.Log.Session

/-!
# Running the program

From the arguments and the files to what the program writes and how it ends. The files are only looked at;
what is to become of them is part of the report. Events are written to the error stream, in the style and from
the level on that the arguments ask for.
-/

namespace LabelPress.CommandLine

/-- What the program is told by the system it runs on. -/
structure Host where
  /-- The seconds since the start of 1970. -/
  now : Binary64
  process : Nat
  /-- Whether the error stream is a terminal. -/
  terminal : Bool
  /-- How many levels of collections a reader of YAML has room for. -/
  room : Nat

/-- How the program ends. -/
inductive Ending where
  | exit (code : Nat)
  /-- The program is cut short by a level that is not known. -/
  | noLog (fault : Log.SetupFault)
  /-- The program is cut short by a failure that it does not report. -/
  | abandoned (error : JobError)
  deriving DecidableEq, Repr

/-- What the program writes, the effects on files and how it ends. -/
structure Report where
  output : String := ""
  errors : String := ""
  effects : List FileEffect := []
  ending : Ending

/-- The field that tells the program's lines from those of others. -/
def programContext : Log.Context := [("app", .text programName)]

/-- How logging is set up. -/
def Arguments.logSetup (a : Arguments) : Log.Setup where
  level := a.logLevel
  json := a.jsonLogs
  context := programContext

/-- The log entry of an event. -/
def Host.entry (host : Host) (e : Event) : Log.Entry where
  source := e.source
  level := e.severity.number
  message := e.message
  created := host.now
  process := host.process

/-- What a session writes of some events. -/
def Host.logged (host : Host) (s : Log.Session) (events : List Event) : Log.Session.Written :=
  let written := events.map fun e => s.emit (host.entry e)
  { errors := String.join (written.map (·.errors))
    effects := written.flatMap (·.effects) }

/-- How the program ends after a job. -/
def Delivery.ending (d : Delivery) : Ending :=
  match d.outcome with
  | .ok () => .exit 0
  | .error error => if error.isReported then .exit 1 else .abandoned error

/-- Runs the program with arguments that have been read. -/
def Arguments.run (a : Arguments) (host : Host) (files : Files) : Report :=
  let logging := ({} : Log.Session).setUp a.logSetup host.terminal files
  match logging.outcome with
  | .error fault => { effects := logging.effects, ending := .noLog fault }
  | .ok _ =>
    let delivery := Delivery.ofArguments a host.room files
    let written := host.logged logging.session delivery.allEvents
    { output := delivery.output
      errors := written.errors
      effects := logging.effects ++ delivery.effects ++ written.effects
      ending := delivery.ending }

/-- What is said of a fault in the arguments. -/
def usageReport (fault : UsageFault) : Report where
  errors := usage ++ "\n" ++ programName ++ ": error: " ++ fault.message ++ "\n"
  ending := .exit 2

/-- Runs the program. -/
def run (arguments : List String) (host : Host) (files : Files) : Report :=
  match Arguments.read arguments with
  | .error .help => { output := helpText, ending := .exit 0 }
  | .error (.fault fault) => usageReport fault
  | .ok a => a.run host files

end LabelPress.CommandLine
