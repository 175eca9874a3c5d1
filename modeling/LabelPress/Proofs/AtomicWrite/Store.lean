import LabelPress.Proofs.AtomicWrite

/-!
# Writes one after another

Files that are written one after another are a store: a file holds what was last written to it (`writes_store`).
There is one exception. A write uses the file beside its target, and if a file is there already it is gone
afterwards, whoever has written it and whether or not the write ends well.
-/

namespace LabelPress

/-- The content of the file at a place. -/
def Files.contentAt? (files : Files) (place : List String) : Option ByteArray :=
  match files.get? place with
  | some (.file content) => some content
  | _ => none

theorem Files.contentAt?_congr {files later : Files} {place : List String}
    (h : later.get? place = files.get? place) : later.contentAt? place = files.contentAt? place := by
  rw [contentAt?, contentAt?, h]

theorem Files.GainsFolders.contentAt?_eq {path : Path} {files later : Files} (h : GainsFolders path files later)
    (place : List String) : later.contentAt? place = files.contentAt? place := by
  rcases h place with hsame | hnew
  · exact contentAt?_congr hsame
  · rw [contentAt?, contentAt?, hnew.isFolder, hnew.missing]

/-- A write that is asked for. -/
inductive WriteRequest where
  | bytes (path : Path) (content : ByteArray)
  | text (path : Path) (text encoding : String)

namespace WriteRequest

open AtomicWrite

def path : WriteRequest → Path
  | .bytes path _ | .text path .. => path

/-- The bytes to be written, if there are any. -/
def content? : WriteRequest → Option ByteArray
  | .bytes _ content => some content
  | .text _ words encoding => (encodeText encoding words).toOption

def action : WriteRequest → FileAction WriteFault Unit
  | .bytes path content => writeBytes path content besideSuffix
  | .text path words encoding => writeText path words encoding

/-- What a request makes of the file at a place: the content that it writes there, or nothing if it opens the file
as the one beside its target. All other files are none of its business. -/
def mark? (r : WriteRequest) (files : Files) (place : List String) : Option (Option ByteArray) :=
  if r.action.outcome files = .ok () ∧ (r.action.filesAfter files).locate r.path = .ok place then some r.content?
  else if .truncate place ∈ r.action.effects files then some none
  else none

/-- The files after requests one after another, whether they end well or not. -/
def filesAfterAll : List WriteRequest → Files → Files
  | [], files => files
  | r :: requests, files => filesAfterAll requests (r.action.filesAfter files)

/-- What the last of the requests that make anything of the file at a place makes of it. -/
def lastMark? : List WriteRequest → Files → List String → Option (Option ByteArray)
  | [], _, _ => none
  | r :: requests, files, place =>
    (lastMark? requests (r.action.filesAfter files) place).or (r.mark? files place)

end WriteRequest

namespace AtomicWrite

variable {path other : Path} {content : ByteArray} {files : Files}

theorem truncate_not_mem_folders (path : Path) (files : Files) (place : List String) :
    .truncate place ∉ (Files.ensureFolder path).effects files := by
  have htrace : ∀ effects files, FileEffect.IsTrace (Files.MakesMissing path) files effects →
      .truncate place ∉ effects := by
    intro effects
    induction effects with
    | nil => simp
    | cons e effects ih =>
      rintro files ⟨⟨_, _, rfl, -⟩, hrest⟩
      simpa using ih _ hrest
  exact htrace _ _ (Files.ensureFolder_doesOnly path files)

/-- A file that a write with new folders does not name keeps its content. -/
theorem contentAt?_of_not_mem {effects : List FileEffect} {place : List String} (h : ∀ e ∈ effects, place ∉ e.places) :
    (FileEffect.applyAll files ((Files.ensureFolder path.parent).effects files ++ effects)).contentAt? place =
      files.contentAt? place := by
  rw [FileEffect.applyAll_append, Files.contentAt?_congr (FileEffect.get?_applyAll h)]
  exact (gainsFolders_prepared path files).contentAt?_eq place

/-- The file beside a target is gone when its write has failed. -/
theorem contentAt?_unfinished (content : ByteArray) {place : List String}
    (hplace : Files.writablePlace other (prepared path files) = .ok place) :
    (FileEffect.applyAll files ((Files.ensureFolder path.parent).effects files ++
      (writing place content ++ [.remove place]))).contentAt? place = none := by
  have hbase := Files.isBase_eq_false_of_get? (Files.writablePlace_eq_ok.1 hplace).2
  rw [← List.append_assoc, FileEffect.applyAll_append]
  generalize FileEffect.applyAll files _ = written
  change (written.remove place).contentAt? place = none
  rw [Files.contentAt?, Files.get?_remove_self hbase]

theorem truncate_mem_iff {place place' : List String} {e : FileEffect} (he : ∀ p, e ≠ .truncate p) :
    .truncate place' ∈ (Files.ensureFolder path.parent).effects files ++ (writing place content ++ [e]) ↔
      place' = place := by
  have hnot := truncate_not_mem_folders path.parent files place'
  have hlast : .truncate place' ≠ e := (he place').symm
  simp [writing, hnot, hlast]

/-- What effects and an outcome do to the contents of files: the target holds the content if all goes well, a
file that is opened is the one beside the target and gone, and all other files hold what they held. -/
structure IsStored (path : Path) (content? : Option ByteArray) (files : Files) (effects : List FileEffect)
    (outcome : Except WriteFault Unit) : Prop where
  target : outcome = .ok () → ∀ place, (FileEffect.applyAll files effects).locate path = .ok place →
    (FileEffect.applyAll files effects).contentAt? place = content?
  opened : ∀ place, .truncate place ∈ effects → (FileEffect.applyAll files effects).contentAt? place = none ∧
    ∃ other, beside path besideSuffix = .ok other ∧ (FileEffect.applyAll files effects).locate other = .ok place
  same : ∀ place, .truncate place ∉ effects →
    (outcome = .ok () → (FileEffect.applyAll files effects).locate path ≠ .ok place) →
    (FileEffect.applyAll files effects).contentAt? place = files.contentAt? place

theorem unfinished_isStored (content : ByteArray) {besidePlace : List String} {outcome : Except WriteFault Unit}
    (houtcome : outcome ≠ .ok ()) (hother : beside path besideSuffix = .ok other)
    (hplace : Files.writablePlace other (prepared path files) = .ok besidePlace) :
    IsStored path (some content) files
      ((Files.ensureFolder path.parent).effects files ++ (writing besidePlace content ++ [.remove besidePlace]))
      outcome := by
  obtain ⟨hlocated, hfolder⟩ := Files.writablePlace_eq_ok.1 hplace
  constructor
  · intro hok
    exact absurd hok houtcome
  · intro place hopened
    obtain rfl := (truncate_mem_iff (by simp)).1 hopened
    refine ⟨contentAt?_unfinished content hplace, other, hother, ?_⟩
    rw [FileEffect.applyAll_append]
    exact Files.locate_mono (keepsFolders_of_isOnFile (isOnFile_writing_remove place content) hfolder) hlocated
  · intro place hopened _
    have hne : place ≠ besidePlace := mt (truncate_mem_iff (by simp)).2 hopened
    apply contentAt?_of_not_mem
    simp [writing, FileEffect.places, hne]

theorem finished_isStored {besidePlace goal : List String} (hother : beside path besideSuffix = .ok other)
    (hplace : Files.writablePlace other (prepared path files) = .ok besidePlace)
    (hgoal : Files.writablePlace path (prepared path files) = .ok goal) (hname : path.name ≠ "..")
    (hne : besidePlace ≠ goal) :
    IsStored path (some content) files
      ((Files.ensureFolder path.parent).effects files ++ (writing besidePlace content ++ [.rename besidePlace goal]))
      (.ok ()) := by
  have hplaced : IsPlacedAt path content (prepared path files) (FileEffect.applyAll files
      ((Files.ensureFolder path.parent).effects files ++
        (writing besidePlace content ++ [.rename besidePlace goal]))) besidePlace goal := by
    rw [FileEffect.applyAll_append]
    exact isPlacedAt_rename ⟨other, hother, hplace⟩ hgoal hname hne
  constructor
  · intro _ place hlocate
    obtain rfl := Except.ok.inj (hplaced.locate_eq.symm.trans hlocate)
    rw [Files.contentAt?, hplaced.placed]
  · intro place hopened
    rw [(truncate_mem_iff (by simp)).1 hopened, Files.contentAt?, hplaced.gone]
    exact ⟨rfl, other, hother, Files.locate_mono hplaced.keepsFolders (Files.writablePlace_eq_ok.1 hplace).1⟩
  · intro place hopened htarget
    have hne : place ≠ besidePlace := mt (truncate_mem_iff (by simp)).2 hopened
    have hne' : place ≠ goal := fun h => htarget rfl (h ▸ hplaced.locate_eq)
    rw [Files.contentAt?_congr (hplaced.same place hne hne')]
    exact (gainsFolders_prepared path files).contentAt?_eq place

/-- **A write stores its content**, at the cost of the file beside its target. -/
theorem writeBytes_isStored (path : Path) (content : ByteArray) (files : Files) :
    IsStored path (some content) files (writeBytes path content besideSuffix files).1
      (writeBytes path content besideSuffix files).2 := by
  have hcourse := writeBytes_course path content files
  generalize (writeBytes path content besideSuffix files).1 = effects at hcourse
  generalize (writeBytes path content besideSuffix files).2 = outcome at hcourse
  cases hcourse with
  | unopened fault =>
    constructor
    · intro hok
      cases hok
    · intro place hopened
      exact absurd hopened (truncate_not_mem_folders path.parent files place)
    · intro place _ _
      exact (gainsFolders_prepared path files).contentAt?_eq place
  | unfinished fault hother hplace =>
    exact unfinished_isStored content (fun h => nomatch h) hother hplace
  | finished hother hplace hgoal hname hne => exact finished_isStored hother hplace hgoal hname hne

end AtomicWrite

namespace WriteRequest

open AtomicWrite

theorem action_isStored (r : WriteRequest) (files : Files) :
    IsStored r.path r.content? files (r.action files).1 (r.action files).2 := by
  cases r with
  | bytes path content => exact writeBytes_isStored path content files
  | text path words encoding =>
    unfold content? action WriteRequest.path
    cases hencode : encodeText encoding words with
    | ok content =>
      dsimp only
      rw [writeText_of_ok path hencode, hencode]
      exact writeBytes_isStored path content files
    | error fault =>
      dsimp only
      rw [writeText_of_error path hencode]
      exact ⟨fun h => (nomatch h), fun place h => absurd h List.not_mem_nil, fun place _ _ => rfl⟩

/-- **One request** makes of every file what its mark says, and leaves the others alone. -/
theorem contentAt?_filesAfter (r : WriteRequest) (files : Files) (place : List String) :
    (r.action.filesAfter files).contentAt? place = (r.mark? files place).getD (files.contentAt? place) := by
  obtain ⟨htarget, hopened, hsame⟩ := r.action_isStored files
  unfold mark?
  split
  · next h => exact htarget h.1 place h.2
  · next h =>
    split
    · next hmem => exact (hopened place hmem).1
    · next hmem => exact hsame place hmem fun hok hlocate => h ⟨hok, hlocate⟩

/-- **Requests one after another** make of every file what the last mark of it says. A request opens no file
but the one beside its target. -/
theorem writes_store (requests : List WriteRequest) (files : Files) :
    (∀ place, (filesAfterAll requests files).contentAt? place =
      (lastMark? requests files place).getD (files.contentAt? place)) ∧
    ∀ (r : WriteRequest) (files : Files) (place : List String), .truncate place ∈ r.action.effects files →
      ∃ other, beside r.path besideSuffix = .ok other ∧ (r.action.filesAfter files).locate other = .ok place := by
  constructor
  · intro place
    induction requests generalizing files with
    | nil => rfl
    | cons r requests ih =>
      rw [filesAfterAll, lastMark?, ih, contentAt?_filesAfter]
      cases lastMark? requests (r.action.filesAfter files) place <;> rfl
  · intro r files place hmem
    exact ((r.action_isStored files).opened place hmem).2

/-- A file that is written first and then used by the write of another is gone. -/
theorem writes_beside_gone :
    (filesAfterAll [.bytes ⟨"", ["a.tmp"]⟩ "x".toUTF8] Files.empty).contentAt? ["a.tmp"] = some "x".toUTF8 ∧
    (bytes ⟨"", ["a"]⟩ "y".toUTF8).action.outcome
      (filesAfterAll [.bytes ⟨"", ["a.tmp"]⟩ "x".toUTF8] Files.empty) = .ok () ∧
    (filesAfterAll [.bytes ⟨"", ["a.tmp"]⟩ "x".toUTF8, .bytes ⟨"", ["a"]⟩ "y".toUTF8] Files.empty).contentAt?
      ["a.tmp"] = none := by
  refine ⟨?_, ?_, ?_⟩
  · decide +kernel
  · decide +kernel
  · decide +kernel

end WriteRequest
end LabelPress
