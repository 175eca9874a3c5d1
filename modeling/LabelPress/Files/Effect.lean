import LabelPress.Files

/-!
# Effects on files

What an action does to the files is a list of effects, each of them a single step of the system: an action
that is cut short has done a first part of its list. An action looks at the files as its own effects so far
have left them, and ends with a result or a failure; the effects before a failure stay.
-/

namespace LabelPress

/-- One step that changes files. -/
inductive FileEffect where
  | makeFolder (place : List String)
  /-- Makes the file at a place empty; it is made if it is not there. -/
  | truncate (place : List String)
  /-- Writes bytes after those that a file has. -/
  | append (place : List String) (content : ByteArray)
  /-- Puts what lies at a place at another, in the stead of what lies there. -/
  | rename (source target : List String)
  | remove (place : List String)
  deriving DecidableEq

namespace FileEffect

/-- The files after an effect. -/
def apply (files : Files) : FileEffect → Files
  | .makeFolder place => files.put place .folder
  | .truncate place => files.put place (.file ByteArray.empty)
  | .append place content =>
    match files.get? place with
    | some (.file before) => files.put place (.file (before ++ content))
    | _ => files.put place (.file content)
  | .rename source target =>
    match files.get? source with
    | some node => (files.remove source).put target node
    | none => files
  | .remove place => files.remove place

/-- The files after some effects. -/
def applyAll (files : Files) (effects : List FileEffect) : Files :=
  effects.foldl apply files

end FileEffect

/-- An action on files: its effects and how it ends. -/
def FileAction (ε α : Type) : Type :=
  Files → List FileEffect × Except ε α

namespace FileAction

/-- The effects of an action. -/
def effects {ε α : Type} (a : FileAction ε α) (files : Files) : List FileEffect :=
  (a files).1

/-- How an action ends. -/
def outcome {ε α : Type} (a : FileAction ε α) (files : Files) : Except ε α :=
  (a files).2

/-- The files that an action leaves. -/
def filesAfter {ε α : Type} (a : FileAction ε α) (files : Files) : Files :=
  FileEffect.applyAll files (a.effects files)

/-- An action without effects, which may look at the files. -/
def ask {ε α : Type} (question : Files → Except ε α) : FileAction ε α :=
  fun files => ([], question files)

/-- The action of one effect. -/
def perform {ε : Type} (effect : FileEffect) : FileAction ε Unit :=
  fun _ => ([effect], .ok ())

/-- One action and then another, which depends on how the first one ends. -/
def continueWith {ε ε' α β : Type} (a : FileAction ε α) (next : Except ε α → FileAction ε' β) :
    FileAction ε' β :=
  fun files =>
    let first := a files
    let rest := next first.2 (FileEffect.applyAll files first.1)
    (first.1 ++ rest.1, rest.2)

/-- An action that ends with an outcome and does nothing. -/
def ended {ε α : Type} (outcome : Except ε α) : FileAction ε α :=
  fun _ => ([], outcome)

instance {ε : Type} : Monad (FileAction ε) where
  pure x := ended (.ok x)
  bind a f := a.continueWith fun
    | .ok x => f x
    | .error e => ended (.error e)

/-- Another action in the stead of a failure. -/
def rescue {ε ε' α : Type} (a : FileAction ε α) (handler : ε → FileAction ε' α) : FileAction ε' α :=
  a.continueWith fun
    | .ok x => ended (.ok x)
    | .error e => handler e

/-- Fails. -/
def fail {ε α : Type} (e : ε) : FileAction ε α :=
  ended (.error e)

/-- The same action with its failure renamed. -/
def mapError {ε ε' α : Type} (f : ε → ε') (a : FileAction ε α) : FileAction ε' α :=
  a.rescue fun e => fail (f e)

end FileAction

namespace Files

/-- The place of a folder that is to be made. -/
def newFolderPlace (path : Path) (files : Files) : Except FileFault (List String) := do
  let place ← files.locate path
  if (files.get? place).isSome ∨ path.name = ".." then .error (.refused .alreadyExists path none)
  else .ok place

/-- Makes a folder in a folder that is there. -/
def makeFolder (path : Path) : FileAction FileFault Unit := do
  let place ← .ask (newFolderPlace path)
  .perform (.makeFolder place)

/-- Forgives that a folder cannot be made if it is there already. -/
def unlessThere (path : Path) (fault : FileFault) : FileAction FileFault Unit :=
  .ask fun files => do
    if ← files.isFolder path then .ok () else .error fault

/-- Makes a folder unless it is there; missing folders on the way are made first. `depth` bounds how many
of them there are. -/
def ensureFolderWithin : (depth : Nat) → Path → FileAction FileFault Unit
  | 0, path => makeFolder path
  | depth + 1, path =>
    (makeFolder path).rescue fun
      | .refused .notFound p t =>
        if path.parent = path then .fail (.refused .notFound p t)
        else do
          ensureFolderWithin depth path.parent
          (makeFolder path).rescue (unlessThere path)
      | .nullCharacter => .fail .nullCharacter
      | fault => unlessThere path fault

/-- Makes a folder unless it is there, and the folders it lies in. -/
def ensureFolder (path : Path) : FileAction FileFault Unit :=
  ensureFolderWithin (path.names.length + 1) path

/-- The place of a file that is opened for writing. -/
def writablePlace (path : Path) (files : Files) : Except FileFault (List String) := do
  let place ← files.locate path
  match files.get? place with
  | some .folder => .error (.refused .isFolder path none)
  | _ => .ok place

/-- Puts a file at the place of another path. -/
def rename (path target : Path) : FileAction FileFault Unit := do
  let refuse (error : SystemError) : FileFault := .refused error path (some target)
  let ofBoth : FileFault → FileFault
    | .refused error _ _ => refuse error
    | .nullCharacter => .nullCharacter
  let (source, goal) ← .ask fun files => do
    let source ← (files.locate path).mapError ofBoth
    let goal ← (files.locate target).mapError ofBoth
    if ["", ".."].contains path.name ∨ ["", ".."].contains target.name then .error (refuse .busy)
    else if (files.get? source).isNone then .error (refuse .notFound)
    else if files.get? goal == some .folder then .error (refuse .isFolder)
    else .ok (source, goal)
  if source = goal then return else .perform (.rename source goal)

/-- The place of a file that is there. -/
def filePlace (path : Path) (files : Files) : Except FileFault (List String) := do
  let place ← writablePlace path files
  if (files.get? place).isNone then .error (.refused .notFound path none) else .ok place

/-- Removes a file. -/
def unlink (path : Path) : FileAction FileFault Unit := do
  let place ← .ask (filePlace path)
  .perform (.remove place)

end Files
end LabelPress
