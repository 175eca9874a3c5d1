import LabelPress.AtomicWrite
import LabelPress.CommandLine.Arguments
import LabelPress.Generation
import LabelPress.Sources

/-!
# Jobs

What the program does for its arguments: it reads the options and the labels, makes the document and, if there
is an output file, writes it there in one piece. Nothing is written unless the document is complete.
-/

namespace LabelPress.CommandLine

/-- Why a job fails. -/
inductive JobError where
  | options (error : OptionsFileError)
  | source (error : SourceError)
  | generation (error : GenerationError)
  | unwritable (fault : EncodingFault)
  | output (fault : WriteFault)
  deriving DecidableEq, Repr

namespace JobError

/-- What is said of a failure to generate. -/
def generationReason : GenerationError → String
  | .options error => error.report
  | .pages fault => fault.message
  | .rendering fault => fault.message

/-- What is said of a failure. -/
def reason : JobError → String
  | .options (.invalid error) => error.report
  | .options error => error.message
  | .source error => error.message
  | .generation error => generationReason error
  | .unwritable fault => fault.message
  | .output fault => fault.message

/-- Whether the fault of a scalar is reported: all are but those of scalars that do not have the form of their
type at all, of numbers whose digits weigh too much, and of characters whose number does not even fit in a word of
32 bits. -/
def isScalarReported : Yaml.ScalarFault → Bool
  | .noTruth _ | .noMoment | .momentOfMapping | .emptyNumber | .weightTooBig => false
  | .noCharacter n => n < Nat.pow 2 31
  | _ => true

/-- Whether a failure is reported in the log. The others cut the program short: a pitch that cannot be written, a
cell that is too long, and some faults of scalars. -/
def isReported : JobError → Bool
  | .options (.unreadable (.scalar fault)) => isScalarReported fault
  | .source .cellTooLong => false
  | .generation (.rendering .noPitch) => false
  | _ => true

end JobError

/-- The size of labels if nobody names one. -/
def defaultSize : Value := .text Stock.small.name

/-- The size of labels: the one that the caller names, else that of the options file, else the default one. -/
def sizeOf (given : Option String) (fromFile : Value) : Value :=
  match given with
  | some size =>
    if size ≠ "" then .text size
    else if fromFile.isGiven then fromFile
    else defaultSize
  | none => if fromFile.isGiven then fromFile else defaultSize

/-- A document and how many labels are on it. -/
structure Sheet where
  labels : Nat
  document : Document
  deriving DecidableEq, Repr

/-! ## Halves of pairs -/

/-- The first code points of two planes without characters of their own. -/
def firstPrivatePlane : Nat := 0xF0000

/-- The first code point of the last plane. -/
def secondPrivatePlane : Nat := 0x100000

/-- The character of a plane that stands for half of a pair. -/
def standIn (plane unit : Nat) : String :=
  String.singleton (Char.ofNat (plane + (unit - 0xD800)))

/-- The fault of a text with halves in it, of which two versions are given, one for each plane of stand-ins. -/
def halvesAmong (text other : List Char) : EncodingFault :=
  let same := ((text.zip other).takeWhile fun (c, d) => c = d).length
  let run := ((text.zip other).drop same).takeWhile fun (c, d) => c ≠ d
  .halves same (run.map fun (c, _) => c.toNat - firstPrivatePlane + 0xD800)

/-! ## Making documents -/

namespace Arguments

/-- What a caller sets besides the options file. -/
def directOptions (a : Arguments) : Sources.DirectOptions where
  itemsPerPage := a.itemsPerPage
  includeId := a.includeId

/-- Makes the document, with room for so many levels in the options file, and with texts that stand for halves of
pairs. -/
def sheetWith (a : Arguments) (room : Nat) (half : Nat → String) (files : Files) : Logged JobError Sheet := do
  let (fileSize, overrides) ←
    (Sources.buildOptions room files a.options a.directOptions).mapError .options
  let size := sizeOf a.size fileSize
  match a.source with
  | .records path =>
    let records ← Logged.ofExcept ((Sources.readRecords files path half).mapError .source)
    let document ← (Generation.ofRecords size records (.validated overrides)).mapError .generation
    return ⟨records.length, document⟩
  | .values path =>
    let values ← Logged.ofExcept ((Sources.readValues files path).mapError .source)
    let document ← (Generation.ofValues values size (.validated overrides)).mapError .generation
    return ⟨values.length, document⟩

/-- Makes the document. One that comes out differently if other characters stand for halves of pairs has halves in it,
and cannot be written. -/
def sheet (a : Arguments) (room : Nat) (files : Files) : Logged JobError Sheet := do
  let s ← a.sheetWith room (standIn firstPrivatePlane) files
  let other ← Logged.ofExcept (a.sheetWith room (standIn secondPrivatePlane) files).outcome
  if s.document = other.document then return s
  else .fail (.unwritable (halvesAmong s.document.text.toList other.document.text.toList))

end Arguments

/-- What becomes of a job: the text for the standard output, the effects on files, the events and how it ends. -/
structure Delivery where
  output : String := ""
  effects : List FileEffect := []
  events : List Event := []
  outcome : Except JobError Unit

namespace Delivery

/-- Hands out a document: writes it to a file, or gives its text. -/
def ofSheet (target : Option Path) (s : Sheet) (files : Files) : Delivery :=
  match target with
  | none => { output := s.document.text, outcome := .ok () }
  | some path =>
    match AtomicWrite.writeText path s.document.text "utf-8" files with
    | (effects, .ok ()) => { effects, events := [.wrote s.labels path.text], outcome := .ok () }
    | (effects, .error fault) => { effects, outcome := .error (.output fault) }

/-- Does a job, up to what is said of its failure. -/
def ofArguments (a : Arguments) (room : Nat) (files : Files) : Delivery :=
  let made := a.sheet room files
  match made.outcome with
  | .error error => { events := made.events, outcome := .error error }
  | .ok s =>
    let delivery := ofSheet a.output s files
    { delivery with events := made.events ++ delivery.events }

/-- All events of a job: a failure that is reported is the last of them. -/
def allEvents (d : Delivery) : List Event :=
  match d.outcome with
  | .error error => if error.isReported then d.events ++ [.failed error.reason] else d.events
  | .ok () => d.events

end Delivery
end LabelPress.CommandLine
