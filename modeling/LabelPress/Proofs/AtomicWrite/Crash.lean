import LabelPress.Proofs.AtomicWrite

/-!
# Writes that are cut short

A system can stop at any moment of a write, and any step of it can fail for a reason of its own. Its target holds
what it held or all of the content even so (`write_crashAtomic`). The path of the target must not lead back
from a folder that is yet to be made: making that folder is then what makes the path lead anywhere.
-/

namespace LabelPress.AtomicWrite

variable {path : Path} {content : ByteArray} {files : Files}

/-- What the target of a write holds in later files, when the effects `done` of the write are done: what it held
or, if they are all of them and the write ends well, the content. -/
def HoldsOldOrNew (path : Path) (content : ByteArray) (files : Files) (done : List FileEffect) (later : Files) :
    Prop :=
  later.subtree path = files.subtree path ∨
    (done = (writeBytes path content besideSuffix).effects files ∧
      (writeBytes path content besideSuffix).outcome files = .ok () ∧ later.subtree path = loneFile content)

/-- A write that is atomic, whenever it is cut short and however it ends. -/
structure IsCrashAtomic (path : Path) (content : ByteArray) (files : Files) : Prop where
  /-- At any time the target holds what it held or the content, and so it does when a write that has failed at
  that time has cleaned up. -/
  anytime : files.IsAnchored path → ∀ done,
    FileEffect.Cut done ((writeBytes path content besideSuffix).effects files) →
    HoldsOldOrNew path content files done (FileEffect.applyAll files done) ∧
    ∀ other, beside path besideSuffix = .ok other →
      HoldsOldOrNew path content files done ((cleanUp other).filesAfter (FileEffect.applyAll files done))
  /-- A write that fails leaves its target as it was. -/
  failed : files.IsAnchored path → ∀ fault, (writeBytes path content besideSuffix).outcome files = .error fault →
    ((writeBytes path content besideSuffix).filesAfter files).subtree path = files.subtree path
  /-- A write that ends well leaves the content at its target and nothing beside it. -/
  finished : (writeBytes path content besideSuffix).outcome files = .ok () →
    ((writeBytes path content besideSuffix).filesAfter files).subtree path = loneFile content ∧
    ∃ other, beside path besideSuffix = .ok other ∧
      ((writeBytes path content besideSuffix).filesAfter files).lookup other = .ok none
  /-- At no time does anything differ but the target, the file beside it and new folders on the way. -/
  elsewhere : ∀ done, FileEffect.Cut done ((writeBytes path content besideSuffix).effects files) → ∀ place,
    (FileEffect.applyAll files done).get? place ≠ files.get? place →
    Files.IsNewFolder path.parent files (FileEffect.applyAll files done) place ∨
    (∃ other, beside path besideSuffix = .ok other ∧ (FileEffect.applyAll files done).locate other = .ok place) ∨
    (done = (writeBytes path content besideSuffix).effects files ∧
      (writeBytes path content besideSuffix).outcome files = .ok () ∧
      (FileEffect.applyAll files done).locate path = .ok place)

/-- A cut of a write leaves the target untouched or is the whole of a write that ends well. -/
theorem untouched_or_whole {done : List FileEffect}
    (hcut : FileEffect.Cut done ((writeBytes path content besideSuffix).effects files)) :
    Untouched path files (FileEffect.applyAll files done) ∨
      (done = (writeBytes path content besideSuffix).effects files ∧
        (writeBytes path content besideSuffix).outcome files = .ok () ∧
        Placed path content files (FileEffect.applyAll files done)) := by
  by_cases hwhole : done = (writeBytes path content besideSuffix).effects files ∧
      (writeBytes path content besideSuffix).outcome files = .ok ()
  · obtain ⟨rfl, hok⟩ := hwhole
    exact .inr ⟨rfl, hok, writeBytes_placed hok⟩
  · exact .inl (writeBytes_untouched hcut fun hall hok => hwhole ⟨hall, hok⟩)

theorem holdsOldOrNew_of_cut (ht : files.IsTree) (hanchored : files.IsAnchored path) {done : List FileEffect}
    (hcut : FileEffect.Cut done ((writeBytes path content besideSuffix).effects files)) :
    HoldsOldOrNew path content files done (FileEffect.applyAll files done) ∧
    ∀ other, beside path besideSuffix = .ok other →
      HoldsOldOrNew path content files done ((cleanUp other).filesAfter (FileEffect.applyAll files done)) := by
  rcases untouched_or_whole hcut with huntouched | ⟨hall, hok, mid, place, goal, hmid, hplaced⟩
  · constructor
    · exact .inl (huntouched.subtree_eq ht hanchored)
    · intro other hother
      exact .inl ((huntouched.cleanUp hother).subtree_eq ht hanchored)
  · have hnew := hplaced.subtree_eq (hmid.isTree ht)
    constructor
    · exact .inr ⟨hall, hok, hnew⟩
    · intro other hother
      rw [hplaced.cleanUp_eq hother]
      exact .inr ⟨hall, hok, hnew⟩

theorem Untouched.elsewhere {later : Files} (h : Untouched path files later) {place : List String}
    (hdiffers : later.get? place ≠ files.get? place) : Files.IsNewFolder path.parent files later place ∨
      ∃ other, beside path besideSuffix = .ok other ∧ later.locate other = .ok place := by
  obtain ⟨mid, hmid, hlater⟩ := h
  rcases hlater place with hsame | ⟨⟨other, hother, hplace⟩, -⟩
  · rcases hmid place with hsame' | hnew
    · exact absurd (hsame.trans hsame') hdiffers
    · exact .inl (hnew.mono hlater.keepsFolders)
  · exact .inr ⟨other, hother, Files.locate_mono hlater.keepsFolders (Files.writablePlace_eq_ok.1 hplace).1⟩

theorem Placed.elsewhere {later : Files} (h : Placed path content files later) {place : List String}
    (hdiffers : later.get? place ≠ files.get? place) : Files.IsNewFolder path.parent files later place ∨
      (∃ other, beside path besideSuffix = .ok other ∧ later.locate other = .ok place) ∨
      later.locate path = .ok place := by
  obtain ⟨mid, besidePlace, goal, hmid, hplaced⟩ := h
  by_cases hgoal : place = goal
  · exact .inr (.inr (hgoal ▸ hplaced.locate_eq))
  by_cases hbeside : place = besidePlace
  · obtain ⟨other, hother, hplace⟩ := hplaced.isBesidePlace
    have hlocate := Files.locate_mono hplaced.keepsFolders (Files.writablePlace_eq_ok.1 hplace).1
    exact .inr (.inl ⟨other, hother, hbeside ▸ hlocate⟩)
  · rcases hmid place with hsame | hnew
    · exact absurd ((hplaced.same place hbeside hgoal).trans hsame) hdiffers
    · exact .inl (hnew.mono hplaced.keepsFolders)

theorem writeBytes_finished (ht : files.IsTree)
    (h : (writeBytes path content besideSuffix).outcome files = .ok ()) :
    ((writeBytes path content besideSuffix).filesAfter files).subtree path = loneFile content ∧
    ∃ other, beside path besideSuffix = .ok other ∧
      ((writeBytes path content besideSuffix).filesAfter files).lookup other = .ok none := by
  obtain ⟨mid, place, goal, hmid, hplaced⟩ := writeBytes_placed h
  obtain ⟨other, hother, hplace⟩ := hplaced.isBesidePlace
  refine ⟨hplaced.subtree_eq (hmid.isTree ht), other, hother, ?_⟩
  rw [Files.lookup, Files.locate_mono hplaced.keepsFolders (Files.writablePlace_eq_ok.1 hplace).1]
  exact congrArg Except.ok hplaced.gone

/-- **Writes are atomic, whenever they are cut short.** A text is written as its bytes, and nothing happens to
the files if it has none. -/
theorem write_crashAtomic (ht : files.IsTree) (path : Path) : (∀ content, IsCrashAtomic path content files) ∧
    ∀ text encoding, match encodeText encoding text with
      | .ok content => writeText path text encoding files = writeBytes path content besideSuffix files
      | .error fault => writeText path text encoding files = ([], .error (.encoding fault)) := by
  constructor
  · intro content
    refine ⟨fun hanchored done hcut => holdsOldOrNew_of_cut ht hanchored hcut, fun hanchored fault hfault => ?_,
      writeBytes_finished ht, fun done hcut place hdiffers => ?_⟩
    · rcases untouched_or_whole (.refl _) with huntouched | ⟨-, hok, -⟩
      · exact huntouched.subtree_eq ht hanchored
      · cases hfault.symm.trans hok
    · rcases untouched_or_whole hcut with huntouched | ⟨hall, hok, hplaced⟩
      · rcases huntouched.elsewhere hdiffers with hnew | hbeside
        · exact .inl hnew
        · exact .inr (.inl hbeside)
      · rcases hplaced.elsewhere hdiffers with hnew | hbeside | htarget
        · exact .inl hnew
        · exact .inr (.inl hbeside)
        · exact .inr (.inr ⟨hall, hok, htarget⟩)
  · intro text encoding
    split
    · next hencode => exact writeText_of_ok path hencode files
    · next hencode => exact writeText_of_error path hencode files

/-- A folder with labels and with a file that an earlier write has left beside them. -/
def printedLabels : Files := ⟨[
  (["out"], .folder),
  (["out", "labels.txt"], .file "first".toUTF8),
  (["out", "labels.txt.tmp"], .file "fir".toUTF8)]⟩

theorem printedLabels_isTree : printedLabels.IsTree :=
  Files.isTree_of_nodes (by decide)

/-- The labels are written anew, and a text without bytes is not written. -/
theorem write_crashAtomic_labels : printedLabels.IsTree ∧
    (writeBytes ⟨"", ["out", "labels.txt"]⟩ "second".toUTF8 besideSuffix).outcome printedLabels = .ok () ∧
    IsCrashAtomic ⟨"", ["out", "labels.txt"]⟩ "second".toUTF8 printedLabels ∧
    writeText ⟨"", ["new", "labels.txt"]⟩ "é" "ascii" printedLabels =
      ([], .error (.encoding (.unencodable .ascii 0 ['é']))) := by
  have h := write_crashAtomic printedLabels_isTree
  have hencode : encodeText "ascii" "é" = .error (.unencodable .ascii 0 ['é']) := by decide +kernel
  have htext := (h ⟨"", ["new", "labels.txt"]⟩).2 "é" "ascii"
  rw [hencode] at htext
  exact ⟨printedLabels_isTree, by decide +kernel, (h ⟨"", ["out", "labels.txt"]⟩).1 _, htext⟩

/-- Through a missing folder and back: the write fails, but the folder that it has made on the way is there, and
the path of the target leads to it. -/
theorem writeBytes_detour_makes_target : Files.empty.IsTree ∧
    (writeBytes ⟨"", ["b", "..", "b"]⟩ "x".toUTF8 besideSuffix).outcome Files.empty ≠ .ok () ∧
    Files.empty.subtree ⟨"", ["b", "..", "b"]⟩ [] = none ∧
    ((writeBytes ⟨"", ["b", "..", "b"]⟩ "x".toUTF8 besideSuffix).filesAfter Files.empty).subtree
      ⟨"", ["b", "..", "b"]⟩ [] = some .folder := by
  refine ⟨Files.isTree_of_nodes (by decide), ?_, ?_, ?_⟩
  · decide +kernel
  · decide +kernel
  · decide +kernel

end LabelPress.AtomicWrite
