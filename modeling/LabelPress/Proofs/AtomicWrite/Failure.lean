import LabelPress.Proofs.AtomicWrite

/-!
# Writes that fail

An error of the system can stop a write when it opens the file beside its target, while it writes that file, and when
it renames it. What is done about it is the same each time: the file beside the target is removed, and the write is
reported as failed. That succeeds unless a folder lies in the place of that file or its name is too long for it to be
looked up (`cleanUp_cases`): then the clean-up fails with an error of its own, which is passed on instead
(`failure_endsCleanly_iff`).
-/

namespace LabelPress

namespace Path

theorem splitSuffix_snd (name : List Char) :
    (splitSuffix name).2 = [] ∨ ∃ rest, (splitSuffix name).2 = '.' :: rest ∧ rest ≠ [] := by
  unfold splitSuffix
  dsimp only
  split
  · exact .inl rfl
  · next hproper =>
    rw [Bool.or_eq_true, not_or, List.isEmpty_iff] at hproper
    exact .inr ⟨_, rfl, by simpa using hproper.1⟩

theorem isSuffix_iff {s : String} :
    isSuffix s ↔ s.toList = [] ∨ ∃ rest, s.toList = '.' :: rest ∧ rest ≠ [] ∧ '/' ∉ rest := by
  unfold isSuffix
  split <;> simp_all

/-- What follows the last point of a name is lengthened to a suffix by a suffix. -/
theorem isSuffix_append (path : Path) {s : String} (hslash : '/' ∉ path.name.toList) (hs : isSuffix s) :
    isSuffix (path.suffix ++ s) := by
  rw [isSuffix_iff] at hs ⊢
  rw [suffix, String.toList_append, String.toList_ofList]
  rcases splitSuffix_snd path.name.toList with hnone | ⟨rest, hrest, hne⟩
  · rwa [hnone]
  · rw [← splitSuffix_append path.name.toList, hrest] at hslash
    refine .inr ⟨rest ++ s.toList, by rw [hrest, List.cons_append], by simp [hne], ?_⟩
    rcases hs with hs | ⟨more, hs, -, hmore⟩ <;> simp_all

end Path

namespace Files
variable {files : Files} {path : Path} {fault : FileFault}

theorem follow_eq_error {place : List String} {names : List String} {error : SystemError}
    (h : files.follow place names = .error error) : error = .nameTooLong ∨ error = .notFound ∨ error = .notFolder := by
  induction names generalizing place with
  | nil =>
    rw [follow_nil] at h
    cases h
  | cons name names ih =>
    rw [follow] at h
    split at h
    · exact .inl (Except.error.inj h).symm
    dsimp only at h
    split at h
    · cases h
    split at h
    · exact .inr (.inl (Except.error.inj h).symm)
    · exact .inr (.inr (Except.error.inj h).symm)
    · exact ih h

/-- Looking up a path fails for long names only. -/
theorem lookup_eq_error (h : files.lookup path = .error fault) : fault = .refused .nameTooLong path none := by
  unfold lookup at h
  split at h
  case h_5 cause hnotFound hnotFolder hnull hlocate =>
    obtain rfl := Except.error.inj h
    unfold locate at hlocate
    split at hlocate
    · exact absurd (Except.error.inj hlocate).symm hnull
    split at hlocate
    · exact (Except.error.inj hlocate).symm
    obtain ⟨error, hfollow, rfl⟩ := except_mapError_eq_error.1 hlocate
    rcases follow_eq_error hfollow with rfl | rfl | rfl
    · rfl
    · exact absurd rfl (hnotFound _ _)
    · exact absurd rfl (hnotFolder _ _)
  all_goals cases h

theorem lookup_of_locate {place : List String} (h : files.locate path = .ok place) :
    files.lookup path = .ok (files.get? place) := by
  rw [lookup, h]

theorem lookup_eq_some {node : Node} (h : files.lookup path = .ok (some node)) :
    ∃ place, files.locate path = .ok place ∧ files.get? place = some node := by
  unfold lookup at h
  split at h
  case h_1 place hplace => exact ⟨place, hplace, Except.ok.inj h⟩
  all_goals cases h

end Files

namespace AtomicWrite
variable {path other : Path} {content : ByteArray} {files mid : Files} {done : List FileEffect}
  {fault reported : FileFault}

/-- Whether an action fails as a write of a path for a reported fault, and nothing lies at another path after it. -/
def EndsCleanly (path other : Path) (reported : FileFault) (a : FileAction WriteFault Unit) (files : Files) : Prop :=
  a.outcome files = .error (.failed path reported) ∧ (a.filesAfter files).lookup other = .ok none

/-- Whether a path can be cleared of a file: it does not lead to a folder, and it is short enough to be looked up. -/
def IsClearable (other : Path) (files : Files) : Prop :=
  files.lookup other ≠ .ok (some .folder) ∧ files.lookup other ≠ .error (.refused .nameTooLong other none)

theorem isClearable_of_writablePlace {place : List String} (h : Files.writablePlace other files = .ok place) :
    IsClearable other files := by
  obtain ⟨hlocate, hfolder⟩ := Files.writablePlace_eq_ok.1 h
  rw [IsClearable, Files.lookup_of_locate hlocate]
  exact ⟨fun hsame => hfolder (Except.ok.inj hsame), fun hsame => nomatch hsame⟩

/-! ## Recovering -/

theorem cleanUp_of_none (h : files.lookup other = .ok none) : cleanUp other files = ([], .ok ()) := by
  rw [cleanUp, FileAction.ask_bind, h]
  rfl

theorem cleanUp_of_error (h : files.lookup other = .error fault) : cleanUp other files = ([], .error fault) := by
  rw [cleanUp, FileAction.ask_bind, h]

theorem cleanUp_of_folder (h : files.lookup other = .ok (some .folder)) :
    cleanUp other files = ([], .error (.refused .isFolder other none)) := by
  obtain ⟨place, hlocate, hfolder⟩ := Files.lookup_eq_some h
  have hplace : Files.filePlace other files = .error (.refused .isFolder other none) := by
    rw [Files.filePlace, Files.writablePlace, hlocate]
    dsimp only [bind, Except.bind]
    rw [hfolder]
  rw [cleanUp, FileAction.ask_bind, h]
  change Files.unlink other files = _
  rw [Files.unlink, FileAction.ask_bind, hplace]

/-- **Cleaning up works where the path can be cleared**, and only there. -/
theorem cleanUp_cases (other : Path) (files : Files) :
    (¬ IsClearable other files ∧ ∃ cause, cleanUp other files = ([], .error cause)) ∨
      (IsClearable other files ∧ ∃ effects, cleanUp other files = (effects, .ok ()) ∧
        (FileEffect.applyAll files effects).lookup other = .ok none) := by
  cases hlookup : files.lookup other with
  | error cause =>
    obtain rfl := Files.lookup_eq_error hlookup
    exact .inl ⟨fun h => h.2 hlookup, _, cleanUp_of_error hlookup⟩
  | ok node =>
    rcases node with _ | _ | before
    case none => exact .inr ⟨by simp [IsClearable, hlookup], _, cleanUp_of_none hlookup, hlookup⟩
    case some.folder => exact .inl ⟨fun h => h.1 hlookup, _, cleanUp_of_folder hlookup⟩
    case some.file =>
      obtain ⟨place, hlocate, hfile⟩ := Files.lookup_eq_some hlookup
      have hfolder : files.get? place ≠ some .folder := by simp [hfile]
      have hwritable : Files.writablePlace other files = .ok place := Files.writablePlace_eq_ok.2 ⟨hlocate, hfolder⟩
      have hplace : Files.filePlace other files = .ok place := Files.filePlace_eq_ok.2 ⟨hwritable, by simp [hfile]⟩
      have hremove : ∀ e ∈ [FileEffect.remove place], IsOnFile place e := by simp [IsOnFile]
      have hgone : (FileEffect.applyAll files [.remove place]).get? place = none :=
        Files.get?_remove_self (Files.isBase_eq_false_of_get? hfolder)
      refine .inr ⟨isClearable_of_writablePlace hwritable, _, cleanUp_of_file hplace, ?_⟩
      rw [Files.lookup_of_locate (Files.locate_mono (keepsFolders_of_isOnFile hremove hfolder) hlocate), hgone]

theorem recover_of_cleanUp_ok (hfault : fault ≠ .nullCharacter) {effects : List FileEffect}
    (h : cleanUp other files = (effects, .ok ())) :
    recover path other fault files = (effects, .error (.failed path fault)) := by
  cases fault with
  | nullCharacter => exact absurd rfl hfault
  | refused error refusedPath target =>
    have hfirst : (cleanUp other).mapError WriteFault.file files = (effects, .ok ()) := by
      rw [FileAction.mapError_eq, h]
      rfl
    refine (FileAction.bind_of_ok hfirst _).trans ?_
    exact Prod.ext (List.append_nil effects) rfl

theorem recover_of_cleanUp_error (hfault : fault ≠ .nullCharacter) {effects : List FileEffect} {cause : FileFault}
    (h : cleanUp other files = (effects, .error cause)) :
    recover path other fault files = (effects, .error (.file cause)) := by
  cases fault with
  | nullCharacter => exact absurd rfl hfault
  | refused error refusedPath target =>
    refine FileAction.bind_of_error ?_ _
    rw [FileAction.mapError_eq, h]
    rfl

/-- What is done about a fault reports it and leaves nothing where the path can be cleared, and only there. -/
theorem recover_endsCleanly_iff (hfault : fault ≠ .nullCharacter) :
    EndsCleanly path other reported (recover path other fault) files ↔ reported = fault ∧ IsClearable other files := by
  unfold EndsCleanly FileAction.filesAfter FileAction.outcome FileAction.effects
  rcases cleanUp_cases other files with ⟨hunclear, cause, hcleanUp⟩ | ⟨hclear, effects, hcleanUp, hgone⟩
  · rw [recover_of_cleanUp_error hfault hcleanUp]
    exact iff_of_false (fun h => nomatch h.1) fun h => hunclear h.2
  · rw [recover_of_cleanUp_ok hfault hcleanUp]
    simp [hgone, hclear, eq_comm]

/-! ## Stopped writes -/

/-- Whether a write can be stopped when it has done some effects: they are a first part of what it does, and not all
of a write that ends well. -/
def StopsAfter (path other : Path) (content : ByteArray) (files : Files) (done : List FileEffect) : Prop :=
  FileEffect.Cut done ((writeBeside path other content).effects files) ∧
    (done = (writeBeside path other content).effects files →
      (writeBeside path other content).outcome files ≠ .ok ())

/-- An action that some effects and a fault are left of. -/
def brokenOff (done : List FileEffect) (fault : FileFault) : FileAction FileFault Unit :=
  fun _ => (done, .error fault)

/-- A write in which an error of the system stops the writing of the file beside its target. -/
def stopped (path other : Path) (done : List FileEffect) (fault : FileFault) : FileAction WriteFault Unit := do
  (Files.ensureFolder path.parent).mapError .file
  (brokenOff done fault).rescue (recover path other)

theorem isClearable_iff_of_cut {place : List String} (hplace : Files.writablePlace other mid = .ok place)
    (hcut : FileEffect.Cut done (writing place content)) :
    IsClearable other (FileEffect.applyAll mid done) ↔ IsClearable other mid := by
  have honFile := isOnFile_of_cut hcut (isOnFile_writing place content)
  obtain ⟨hlocate, hfolder⟩ := Files.writablePlace_eq_ok.1 hplace
  have hlater : Files.writablePlace other (FileEffect.applyAll mid done) = .ok place :=
    Files.writablePlace_eq_ok.2 ⟨Files.locate_mono (keepsFolders_of_isOnFile honFile hfolder) hlocate,
      get?_of_isOnFile honFile hfolder⟩
  exact iff_of_true (isClearable_of_writablePlace hlater) (isClearable_of_writablePlace hplace)

/-- What a stopped write has done leaves the file beside its target as clearable as it was. -/
theorem StopsAfter.isClearable_iff (hother : beside path besideSuffix = .ok other)
    (h : StopsAfter path other content mid done) :
    IsClearable other (FileEffect.applyAll mid done) ↔ IsClearable other mid := by
  obtain ⟨hcut, hend⟩ := h
  unfold FileAction.effects FileAction.outcome at *
  rcases writeBeside_cases content mid hother with
    ⟨fault, -, hwrite⟩ | ⟨place, hplace, ⟨fault, -, hwrite⟩ | ⟨goal, -, -, -, hwrite⟩⟩
  · rw [hwrite] at hcut
    cases hcut
    exact Iff.rfl
  · rw [hwrite] at hcut
    exact isClearable_iff_of_cut hplace hcut
  · rw [hwrite] at hcut hend
    rcases hcut.append with hcut | ⟨rest, rfl, hrest⟩
    · exact isClearable_iff_of_cut hplace hcut
    · cases hrest with
      | stop =>
        have hall : FileEffect.Cut (writing place content ++ []) (writing place content) :=
          (List.append_nil _).symm ▸ .refl _
        exact isClearable_iff_of_cut hplace hall
      | next e hnothing =>
        cases hnothing
        exact absurd rfl (hend rfl)

/-- What is done about a stopped write ends it cleanly if the file beside its target could be cleared before it. -/
theorem rescued_endsCleanly_iff (hother : beside path besideSuffix = .ok other) (hfault : fault ≠ .nullCharacter)
    (hstop : StopsAfter path other content mid done) {a : FileAction FileFault Unit}
    (ha : a mid = (done, .error fault)) :
    EndsCleanly path other reported (a.rescue (recover path other)) mid ↔ reported = fault ∧ IsClearable other mid := by
  have hrecover := @recover_endsCleanly_iff path other (FileEffect.applyAll mid done) fault reported hfault
  rw [← hstop.isClearable_iff hother, ← hrecover]
  unfold EndsCleanly FileAction.filesAfter FileAction.outcome FileAction.effects
  rw [FileAction.rescue_of_error ha, FileEffect.applyAll_append]

theorem endsCleanly_after_folders (hmade : (Files.ensureFolder path.parent).outcome files = .ok ())
    {a : FileAction WriteFault Unit} :
    EndsCleanly path other reported ((Files.ensureFolder path.parent).mapError .file >>= fun _ => a) files ↔
      EndsCleanly path other reported a (prepared path files) := by
  have hfirst : (Files.ensureFolder path.parent).mapError WriteFault.file files =
      ((Files.ensureFolder path.parent).effects files, .ok ()) := by
    rw [FileAction.outcome] at hmade
    rw [FileAction.mapError_eq, hmade]
    rfl
  have hrun := FileAction.bind_of_ok hfirst fun _ => a
  unfold EndsCleanly FileAction.filesAfter FileAction.outcome FileAction.effects
  rw [hrun, FileEffect.applyAll_append]
  rfl

theorem endsCleanly_writeBytes (hother : beside path besideSuffix = .ok other)
    (hmade : (Files.ensureFolder path.parent).outcome files = .ok ()) :
    EndsCleanly path other reported (writeBytes path content besideSuffix) files ↔
      EndsCleanly path other reported ((writeBeside path other content).rescue (recover path other))
        (prepared path files) := by
  rw [writeBytes_eq, endsCleanly_after_folders hmade, hother]
  unfold EndsCleanly FileAction.filesAfter FileAction.outcome FileAction.effects
  rw [FileAction.ended_bind]
  rfl

theorem exists_beside (hname : path.name ≠ "") (hslash : '/' ∉ path.name.toList) :
    ∃ other, beside path besideSuffix = .ok other := by
  rw [beside, Path.withSuffix, Path.isSuffix_append path hslash (by decide), if_neg (by decide), if_neg hname]
  exact ⟨_, rfl⟩

/-- **A failure ends cleanly if the file beside the target can be cleared**, and only then: whether the files themselves
are the reason of it, or the system stops the write after some of its effects. -/
theorem failure_endsCleanly_iff (hname : path.name ≠ "") (hslash : '/' ∉ path.name.toList)
    (hmade : (Files.ensureFolder path.parent).outcome files = .ok ()) :
    ∃ other, beside path besideSuffix = .ok other ∧ ∀ fault ≠ .nullCharacter, ∀ done reported,
      (writeBeside path other content (prepared path files) = (done, .error fault) →
        (EndsCleanly path other reported (writeBytes path content besideSuffix) files ↔
          reported = fault ∧ IsClearable other (prepared path files))) ∧
      (StopsAfter path other content (prepared path files) done →
        (EndsCleanly path other reported (stopped path other done fault) files ↔
          reported = fault ∧ IsClearable other (prepared path files))) := by
  obtain ⟨other, hother⟩ := exists_beside hname hslash
  refine ⟨other, hother, fun fault hfault done reported => ⟨fun hwrite => ?_, fun hstop => ?_⟩⟩
  · have hstop : StopsAfter path other content (prepared path files) done := by
      unfold StopsAfter FileAction.effects FileAction.outcome
      rw [hwrite]
      exact ⟨.refl _, fun _ h => nomatch h⟩
    rw [endsCleanly_writeBytes hother hmade]
    exact rescued_endsCleanly_iff hother hfault hstop hwrite
  · rw [stopped, endsCleanly_after_folders hmade]
    exact rescued_endsCleanly_iff hother hfault hstop rfl

/-- A folder is at the target, so the file beside it cannot be renamed; and the write is stopped in the middle. -/
theorem failure_endsCleanly_iff_folder :
    let files : Files := ⟨[(["labels"], .folder), (["labels.tmp"], .file "old".toUTF8)]⟩
    let path : Path := ⟨"", ["labels"]⟩
    let other : Path := ⟨"", ["labels.tmp"]⟩
    let fault : FileFault := .refused .isFolder other (some path)
    (Files.ensureFolder path.parent).outcome files = .ok () ∧
      EndsCleanly path other fault (writeBytes path "new".toUTF8 besideSuffix) files ∧
      EndsCleanly path other fault (stopped path other [.truncate ["labels.tmp"]] fault) files := by
  intro files path other fault
  have hmade : (Files.ensureFolder path.parent).outcome files = .ok () := by decide +kernel
  obtain ⟨_, hother, hends⟩ :=
    @failure_endsCleanly_iff path "new".toUTF8 files (by decide) (by decide) hmade
  obtain rfl : _ = other :=
    Except.ok.inj (hother.symm.trans (show beside path besideSuffix = .ok other by decide +kernel))
  have hclear : IsClearable other (prepared path files) := ⟨by decide +kernel, by decide +kernel⟩
  have hwrite : writeBeside path other "new".toUTF8 (prepared path files) =
      (writing ["labels.tmp"] "new".toUTF8, .error fault) := by decide +kernel
  have hstop : StopsAfter path other "new".toUTF8 (prepared path files) [.truncate ["labels.tmp"]] := by
    unfold StopsAfter FileAction.effects FileAction.outcome
    rw [hwrite]
    exact ⟨.next _ (.stop _), fun _ h => nomatch h⟩
  have hfault : fault ≠ .nullCharacter := nofun
  exact ⟨hmade, ((hends fault hfault _ fault).1 hwrite).2 ⟨rfl, hclear⟩,
    ((hends fault hfault _ fault).2 hstop).2 ⟨rfl, hclear⟩⟩

/-- A folder in the place of the file beside the target stops the write and stays, and what is reported is that it
cannot be removed. -/
theorem failure_not_endsCleanly :
    let files : Files := ⟨[(["a.tmp"], .folder)]⟩
    let path : Path := ⟨"", ["a"]⟩
    let other : Path := ⟨"", ["a.tmp"]⟩
    let write := writeBytes path "x".toUTF8 besideSuffix
    beside path besideSuffix = .ok other ∧ (Files.ensureFolder path.parent).outcome files = .ok () ∧
      (writeBeside path other "x".toUTF8).outcome files = .error (.refused .isFolder other none) ∧
      write.outcome files = .error (.file (.refused .isFolder other none)) ∧
      (write.filesAfter files).lookup other = .ok (some .folder) ∧
      ∀ reported, ¬ EndsCleanly path other reported write files := by
  intro files path other write
  have hwrite : write.outcome files = .error (.file (.refused .isFolder other none)) := by decide +kernel
  refine ⟨?_, ?_, ?_, hwrite, ?_, fun reported h => nomatch hwrite.symm.trans h.1⟩
  all_goals decide +kernel

end AtomicWrite
end LabelPress
