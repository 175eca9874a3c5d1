import LabelPress.Files.Effect
import LabelPress.Text.Encoding

/-!
# Atomic writes

A file is written under another name beside its own and then renamed, so its own name never stands for half
of what is written. If that fails the file beside it is removed and the target is as it was.
-/

namespace LabelPress

/-- Why a file is not written. -/
inductive WriteFault where
  /-- The text has no bytes in the encoding. -/
  | encoding (fault : EncodingFault)
  /-- The name of the file beside the target cannot be made. -/
  | suffix (fault : SuffixFault)
  /-- A step that is not made good fails. -/
  | file (fault : FileFault)
  /-- Writing or renaming fails. -/
  | failed (path : Path) (fault : FileFault)
  deriving DecidableEq, Repr

/-- The wording of a fault. -/
def WriteFault.message : WriteFault → String
  | .encoding fault => fault.message
  | .suffix fault => fault.message
  | .file fault => fault.message
  | .failed path fault => "Failed to write " ++ path.text ++ " atomically: " ++ fault.message

namespace AtomicWrite

/-- The suffix that is added to the name of the file beside the target. -/
def besideSuffix : String := ".tmp"

/-- The path of the file beside the target. -/
def beside (path : Path) (suffix : String) : Except SuffixFault Path :=
  path.withSuffix (path.suffix ++ suffix)

/-- Writes the file beside the target and renames it. -/
def writeBeside (path other : Path) (content : ByteArray) : FileAction FileFault Unit := do
  let place ← .ask (Files.writablePlace other)
  .perform (.truncate place)
  .perform (.append place content)
  Files.rename other path

/-- Removes the file beside the target if it is there. -/
def cleanUp (other : Path) : FileAction FileFault Unit := do
  let node ← .ask (·.lookup other)
  if node.isSome then Files.unlink other else return

/-- Writes bytes. -/
def writeBytes (path : Path) (content : ByteArray) (suffix : String) : FileAction WriteFault Unit := do
  (Files.ensureFolder path.parent).mapError .file
  let other ← .ended ((beside path suffix).mapError .suffix)
  (writeBeside path other content).rescue fun
    | .nullCharacter => .fail (.file .nullCharacter)
    | fault => do
      (cleanUp other).mapError .file
      .fail (.failed path fault)

/-- Writes a text under the name of an encoding. Nothing happens to the files unless it has bytes. -/
def writeText (path : Path) (text : String) (encoding : String) : FileAction WriteFault Unit := do
  let content ← .ended ((encodeText encoding text).mapError .encoding)
  writeBytes path content besideSuffix

end AtomicWrite
end LabelPress
