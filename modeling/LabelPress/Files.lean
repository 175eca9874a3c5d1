import LabelPress.Path

/-!
# Files

A tree of folders and files, held as a list of places and what lies there. A place is the list of names that
leads to it, from the working folder or, after the name `/`, from the root. Both are always there and are
folders, and so are the folders above the working one, whose places are made of `..` alone. A path is followed
name by name, and every name but the last must be that of a folder.
-/

namespace LabelPress

-- The one of several instances that is taken for the contents of files, whatever is imported.
instance decidableEqContent : DecidableEq ByteArray := ByteArray.instDecidableEq

/-- What lies at a place. -/
inductive Node where
  | folder
  | file (content : ByteArray)
  deriving DecidableEq

/-- A tree of files. -/
structure Files where
  nodes : List (List String × Node)

/-- Why the system refuses something. -/
inductive SystemError where
  | notFound
  | busy
  | alreadyExists
  | notFolder
  | isFolder
  | nameTooLong
  deriving DecidableEq, Repr

/-- Why something cannot be done with a file. -/
inductive FileFault where
  /-- The system refuses; `target` is the second path of a renaming. -/
  | refused (error : SystemError) (path : Path) (target : Option Path)
  /-- A path with a null character cannot even be passed on. -/
  | nullCharacter
  deriving DecidableEq, Repr

namespace SystemError

/-- The number of an error. -/
def number : SystemError → Nat
  | .notFound => 2
  | .busy => 16
  | .alreadyExists => 17
  | .notFolder => 20
  | .isFolder => 21
  | .nameTooLong => 36

/-- The wording of an error. -/
def message : SystemError → String
  | .notFound => "No such file or directory"
  | .busy => "Device or resource busy"
  | .alreadyExists => "File exists"
  | .notFolder => "Not a directory"
  | .isFolder => "Is a directory"
  | .nameTooLong => "File name too long"

end SystemError

/-- The wording of a fault. -/
def FileFault.message : FileFault → String
  | .refused error path target =>
    "[Errno " ++ numeral error.number ++ "] " ++ error.message ++ ": " ++ quoted path.text ++
      (match target with
      | some t => " -> " ++ quoted t.text
      | none => "")
  | .nullCharacter => "embedded null byte"

namespace Files

/-- No files. -/
def empty : Files := ⟨[]⟩

/-- Whether a place is there in every tree. -/
def isBase (place : List String) : Bool :=
  place = ["/"] || place.all (· = "..")

/-- What lies at a place. -/
def get? (files : Files) (place : List String) : Option Node :=
  if isBase place then some .folder
  else (files.nodes.find? fun entry => entry.1 = place).map Prod.snd

/-- The tree with nothing at a place. -/
def remove (files : Files) (place : List String) : Files :=
  ⟨files.nodes.filter fun entry => entry.1 ≠ place⟩

/-- The tree with something else at a place. -/
def put (files : Files) (place : List String) (node : Node) : Files :=
  ⟨(place, node) :: (files.remove place).nodes⟩

theorem get?_remove_of_ne {files : Files} {place other : List String} (h : other ≠ place) :
    (files.remove place).get? other = files.get? other := by
  simp only [get?, remove, List.find?_filter]
  congr 3
  funext entry
  by_cases he : entry.1 = other
  · simp [he, h]
  · simp [he]

@[simp] theorem get?_remove_self {files : Files} {place : List String} (h : isBase place = false) :
    (files.remove place).get? place = none := by
  simp [get?, remove, h, List.find?_filter]

@[simp] theorem get?_put_self {files : Files} {place : List String} {node : Node}
    (h : isBase place = false) : (files.put place node).get? place = some node := by
  simp [get?, put, h]

theorem get?_put_of_ne {files : Files} {place other : List String} {node : Node} (h : other ≠ place) :
    (files.put place node).get? other = files.get? other := by
  have hremoved : (files.remove place).get? other = files.get? other := get?_remove_of_ne h
  rw [← hremoved]
  simp only [get?, put]
  rw [List.find?_cons_of_neg (by simpa using fun he => h he.symm)]

/-- The place that `..` leads to. -/
def above (place : List String) : List String :=
  if place = ["/"] then place
  else if isBase place then place ++ [".."]
  else place.dropLast

/-- How many bytes a name may have. -/
def nameLimit : Nat := 255

/-- How many bytes a path may have. -/
def pathLimit : Nat := 4095

/-- Follows names from a folder. -/
def follow (files : Files) : (place : List String) → List String → Except SystemError (List String)
  | place, [] => .ok place
  | place, name :: names =>
    if nameLimit < name.utf8ByteSize then .error .nameTooLong
    else
      let next := if name = ".." then above place else place ++ [name]
      match names with
      | [] => .ok next
      | names =>
        match files.get? next with
        | none => .error .notFound
        | some (.file _) => .error .notFolder
        | some .folder => follow files next names

/-- The place that a path leads to. Nothing need lie there, but its folder does. -/
def locate (files : Files) (path : Path) : Except FileFault (List String) :=
  if path.text.toList.contains '\x00' then .error .nullCharacter
  else if pathLimit < path.text.utf8ByteSize then .error (.refused .nameTooLong path none)
  else
    (follow files (if path.root = "" then [] else ["/"]) path.names).mapError
      fun error => .refused error path none

/-- What a path leads to, if anything lies there. A path that cannot be followed for want of a folder on
the way leads to nothing. -/
def lookup (files : Files) (path : Path) : Except FileFault (Option Node) :=
  match files.locate path with
  | .ok place => .ok (files.get? place)
  | .error (.refused .notFound ..) | .error (.refused .notFolder ..) => .ok none
  | .error .nullCharacter => .ok none
  | .error fault => .error fault

/-- Whether a path leads to a folder. -/
def isFolder (files : Files) (path : Path) : Except FileFault Bool :=
  (files.lookup path).map (· == some .folder)

/-- The content of the file that a path leads to. -/
def read (files : Files) (path : Path) : Except FileFault ByteArray := do
  let place ← files.locate path
  match files.get? place with
  | none => .error (.refused .notFound path none)
  | some .folder => .error (.refused .isFolder path none)
  | some (.file content) => .ok content

end Files
end LabelPress
