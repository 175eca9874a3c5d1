import LabelPress.CommandLine.Run
import Std.Time.DateTime.Timestamp

/-!
# The program

The outer layer: it looks at the places that the arguments name, runs the program on what lies there and then
carries out what the report says.
-/

namespace LabelPress.CommandLine

/-- A place as the system names it. -/
def placeText : List String → String
  | [] => "."
  | "/" :: names => "/" ++ String.intercalate "/" names
  | names => String.intercalate "/" names

/-- The places that a path passes, the last one first. -/
def placesOf (path : Path) : List (List String) :=
  let start : List String := if path.root = "" then [] else ["/"]
  path.names.foldl
    (fun places name =>
      let here := places.headD start
      (if name = ".." then Files.above here else here ++ [name]) :: places)
    []

/-- The paths that arguments name, and that of the file beside the output file. -/
def Arguments.paths (a : Arguments) : List Path :=
  let source := match a.source with
    | .records path | .values path => path
  let beside := a.output.bind fun path => (AtomicWrite.beside path AtomicWrite.besideSuffix).toOption
  source :: (a.options.toList ++ a.output.toList ++ beside.toList)

/-- What lies at a place. -/
def lookAt (place : List String) : IO (Option Node) := do
  try
    return some (.file (← IO.FS.readBinFile (placeText place)))
  catch
    | .noFileOrDirectory .. | .invalidArgument .. => return none
    | .inappropriateType _ code _ => return if code = 21 then some .folder else none
    | error => throw error

/-- What lies at the places that arguments name. -/
def Arguments.look (a : Arguments) : IO Files := do
  let places := ((a.paths.flatMap placesOf).filter fun place => !Files.isBase place).eraseDups
  let nodes ← places.filterMapM fun place => do
    return (← lookAt place).map fun node => (place, node)
  return ⟨nodes⟩

/-- Carries out an effect. -/
def perform : FileEffect → IO Unit
  | .makeFolder place => IO.FS.createDir (placeText place)
  | .truncate place => IO.FS.writeBinFile (placeText place) ByteArray.empty
  | .append place content => do
    let handle ← IO.FS.Handle.mk (placeText place) .append
    handle.write content
  | .rename source target => IO.FS.rename (placeText source) (placeText target)
  | .remove place => IO.FS.removeFile (placeText place)

/-- How many levels of collections there is room for on a stack of the usual size. -/
def usualRoom : Nat := 480

/-- What the system tells the program. -/
def currentHost : IO Host := do
  let now ← Std.Time.Timestamp.now
  let status ← IO.FS.readFile "/proc/self/stat"
  return {
    now := Binary64.ofRatio false now.toNanosecondsSinceUnixEpoch.val.toNat 1000000000
    process := ofDigits 10 (spanDigits status.toList).1
    terminal := ← (← IO.getStderr).isTty
    room := usualRoom }

/-- Writes what a report says and gives the code that the program ends with. -/
def Report.carryOut (report : Report) : IO UInt32 := do
  report.effects.forM perform
  (← IO.getStdout).putStr report.output
  let errors ← IO.getStderr
  errors.putStr report.errors
  match report.ending with
  | .exit code => return UInt32.ofNat code
  | .noLog fault => do
    errors.putStrLn fault.message
    return 1
  | .abandoned error => do
    errors.putStrLn error.reason
    return 1

end LabelPress.CommandLine

/-- Runs the program on the system. -/
def main (arguments : List String) : IO UInt32 := do
  try
    let files ← match LabelPress.CommandLine.Arguments.read arguments with
      | .ok a => a.look
      | .error _ => pure LabelPress.Files.empty
    let host ← LabelPress.CommandLine.currentHost
    (LabelPress.CommandLine.run arguments host files).carryOut
  catch error =>
    (← IO.getStderr).putStrLn error.toString
    return 1
