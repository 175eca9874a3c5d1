import LabelPress.Proofs.AtomicWrite.Course

/-!
# Atomic writes are all or nothing

However early a write is cut short, its target is untouched (`writeBytes_untouched`), and a write that ends well
has placed its content (`writeBytes_placed`). So a write that ends well leaves its bytes at the target
(`writeBytes_read`), and one that fails leaves there what was there (`writeBytes_subtree`).
-/

namespace LabelPress

namespace AtomicWrite

variable {path other : Path} {content : ByteArray} {files : Files}

/-! ## How far a write has come -/

/-- A place where the file beside a target can be written. -/
def IsBesidePlace (path : Path) (files : Files) (place : List String) : Prop :=
  ∃ other, beside path besideSuffix = .ok other ∧ Files.writablePlace other files = .ok place

/-- Later files that differ by the file beside a target and nothing else. -/
def DiffersBeside (path : Path) (files later : Files) : Prop :=
  ∀ place, later.get? place = files.get? place ∨ (IsBesidePlace path files place ∧ later.get? place ≠ some .folder)

/-- Later files that differ by new folders for a target, and by the file beside it. -/
def Untouched (path : Path) (files later : Files) : Prop :=
  ∃ mid, Files.GainsFolders path.parent files mid ∧ DiffersBeside path mid later

/-- Files in which a content takes the place of a target and the file beside it is gone. -/
structure IsPlacedAt (path : Path) (content : ByteArray) (files later : Files) (place goal : List String) : Prop where
  isBesidePlace : IsBesidePlace path files place
  target : Files.writablePlace path files = .ok goal
  name_ne : path.name ≠ ".."
  placed : later.get? goal = some (.file content)
  gone : later.get? place = none
  same : ∀ other, other ≠ place → other ≠ goal → later.get? other = files.get? other

/-- Later files that differ by new folders for a target, by the content that is placed there, and by the file
beside it. -/
def Placed (path : Path) (content : ByteArray) (files later : Files) : Prop :=
  ∃ mid place goal, Files.GainsFolders path.parent files mid ∧ IsPlacedAt path content mid later place goal

theorem IsBesidePlace.ne_folder {place : List String} (h : IsBesidePlace path files place) :
    files.get? place ≠ some .folder := by
  obtain ⟨other, -, hplace⟩ := h
  exact (Files.writablePlace_eq_ok.1 hplace).2

theorem isOnFile_of_cut {place : List String} {done effects : List FileEffect} (hcut : FileEffect.Cut done effects)
    (h : ∀ e ∈ effects, IsOnFile place e) : ∀ e ∈ done, IsOnFile place e := by
  induction hcut with
  | stop => exact fun _ he => absurd he List.not_mem_nil
  | within other content count rest =>
    rcases h _ List.mem_cons_self with hsame | ⟨_, hsame⟩ | hsame <;> cases hsame
    exact fun e he => .inr (.inl ⟨_, List.mem_singleton.1 he⟩)
  | next e _ ih =>
    rw [List.forall_mem_cons] at h ⊢
    exact ⟨h.1, ih h.2⟩

theorem get?_of_isOnFile {place : List String} {effects : List FileEffect} (h : ∀ e ∈ effects, IsOnFile place e)
    (hfile : files.get? place ≠ some .folder) : (FileEffect.applyAll files effects).get? place ≠ some .folder := by
  induction effects generalizing files with
  | nil => exact hfile
  | cons e effects ih =>
    rw [List.forall_mem_cons] at h
    have hbase := Files.isBase_eq_false_of_get? hfile
    apply ih h.2
    rcases h.1 with rfl | ⟨content, rfl⟩ | rfl
    · simp [FileEffect.apply, hbase]
    · rw [FileEffect.apply]
      split <;> simp [hbase]
    · simp [FileEffect.apply, hbase]

theorem Untouched.of_gainsFolders {later : Files} (h : Files.GainsFolders path.parent files later) :
    Untouched path files later :=
  ⟨later, h, fun _ => .inl rfl⟩

theorem Untouched.of_isOnFile {mid : Files} (hmid : Files.GainsFolders path.parent files mid) {place : List String}
    (hplace : IsBesidePlace path mid place) {effects : List FileEffect} (h : ∀ e ∈ effects, IsOnFile place e) :
    Untouched path files (FileEffect.applyAll mid effects) := by
  refine ⟨mid, hmid, fun other => ?_⟩
  by_cases hsame : other = place
  · rw [hsame]
    exact .inr ⟨hplace, get?_of_isOnFile h hplace.ne_folder⟩
  · exact .inl (get?_of_isOnFile_of_ne h hsame)

theorem gainsFolders_prepared (path : Path) (files : Files) :
    Files.GainsFolders path.parent files (prepared path files) :=
  Files.gainsFolders_of_isTrace (Files.ensureFolder_doesOnly path.parent files) (.refl _)

/-- A cut of a write that has not opened the file beside the target, or has done with it no more than effects
on that file. -/
theorem untouched_of_cut {place : List String} (hplace : IsBesidePlace path (prepared path files) place)
    {effects done : List FileEffect} (h : ∀ e ∈ effects, IsOnFile place e)
    (hcut : FileEffect.Cut done ((Files.ensureFolder path.parent).effects files ++ effects)) :
    Untouched path files (FileEffect.applyAll files done) := by
  rcases hcut.append with hfolders | ⟨rest, rfl, hrest⟩
  · exact .of_gainsFolders (Files.gainsFolders_of_isTrace (Files.ensureFolder_doesOnly path.parent files) hfolders)
  · rw [FileEffect.applyAll_append]
    exact .of_isOnFile (gainsFolders_prepared path files) hplace (isOnFile_of_cut hrest h)

/-- **A write that is cut short or fails leaves its target untouched.** -/
theorem writeBytes_untouched {done : List FileEffect}
    (hcut : FileEffect.Cut done ((writeBytes path content besideSuffix).effects files))
    (hend : done = (writeBytes path content besideSuffix).effects files →
      (writeBytes path content besideSuffix).outcome files ≠ .ok ()) :
    Untouched path files (FileEffect.applyAll files done) := by
  have hcourse := writeBytes_course path content files
  unfold FileAction.outcome at hend
  unfold FileAction.effects at hcut hend
  generalize (writeBytes path content besideSuffix files).1 = effects at *
  generalize (writeBytes path content besideSuffix files).2 = outcome at *
  cases hcourse with
  | unopened fault =>
    exact .of_gainsFolders (Files.gainsFolders_of_isTrace (Files.ensureFolder_doesOnly path.parent files) hcut)
  | unfinished fault hother hplace =>
    exact untouched_of_cut ⟨_, hother, hplace⟩ (isOnFile_writing_remove _ content) hcut
  | finished hother hplace hgoal hname hne =>
    refine untouched_of_cut ⟨_, hother, hplace⟩ (isOnFile_writing _ content) ?_
    rw [← List.append_assoc] at hcut hend
    rcases hcut.append with hwriting | ⟨rest, rfl, hrest⟩
    · exact hwriting
    · -- Either nothing is left to do, or all that is left is the renaming and it has not been done.
      cases hrest with
      | stop => exact (List.append_nil _).symm ▸ .refl _
      | next e hnothing =>
        cases hnothing
        exact absurd rfl (hend rfl)

/-- A file that is written beside its target and renamed is placed there. -/
theorem isPlacedAt_rename {place goal : List String} (hplace : IsBesidePlace path files place)
    (hgoal : Files.writablePlace path files = .ok goal) (hname : path.name ≠ "..") (hne : place ≠ goal) :
    IsPlacedAt path content files
      (FileEffect.applyAll files (writing place content ++ [.rename place goal])) place goal := by
  have hfolder := hplace.ne_folder
  have hwritten := get?_writing content hfolder
  have hsame : ∀ p, p ≠ place → (FileEffect.applyAll files (writing place content)).get? p = files.get? p :=
    fun _ hp => get?_of_isOnFile_of_ne (isOnFile_writing place content) hp
  rw [FileEffect.applyAll_append, FileEffect.applyAll_cons, FileEffect.applyAll_nil]
  generalize FileEffect.applyAll files (writing place content) = written at *
  rw [FileEffect.apply, hwritten]
  refine ⟨hplace, hgoal, hname, ?_, ?_, fun p hp hp' => ?_⟩
  · exact Files.get?_put_self (Files.isBase_eq_false_of_get? (Files.writablePlace_eq_ok.1 hgoal).2)
  · rw [Files.get?_put_of_ne hne, Files.get?_remove_self (Files.isBase_eq_false_of_get? hfolder)]
  · rw [Files.get?_put_of_ne hp', Files.get?_remove_of_ne hp, hsame p hp]

/-- **A write that ends well has placed its content.** -/
theorem writeBytes_placed (h : (writeBytes path content besideSuffix).outcome files = .ok ()) :
    Placed path content files ((writeBytes path content besideSuffix).filesAfter files) := by
  have hcourse := writeBytes_course path content files
  unfold FileAction.filesAfter FileAction.effects
  rw [FileAction.outcome] at h
  rw [h] at hcourse
  generalize (writeBytes path content besideSuffix files).1 = effects at hcourse
  cases hcourse with
  | @finished other place goal hother hplace hgoal hname hne =>
    rw [FileEffect.applyAll_append]
    exact ⟨prepared path files, place, goal, gainsFolders_prepared path files,
      isPlacedAt_rename ⟨other, hother, hplace⟩ hgoal hname hne⟩

/-! ## What the target holds -/

/-- What a path holds that leads to a file with a content: nothing is below. -/
def loneFile (content : ByteArray) (below : List String) : Option Node :=
  if below = [] then some (.file content) else none

theorem DiffersBeside.keepsFolders {later : Files} (h : DiffersBeside path files later) :
    files.KeepsFolders later := by
  intro place hplace
  rcases h place with hsame | ⟨hbeside, -⟩
  · rwa [hsame]
  · exact absurd hplace hbeside.ne_folder

/-- Cleaning up beside an untouched target leaves it untouched. -/
theorem Untouched.cleanUp {later : Files} (h : Untouched path files later)
    (hother : beside path besideSuffix = .ok other) :
    Untouched path files ((AtomicWrite.cleanUp other).filesAfter later) := by
  unfold FileAction.filesAfter FileAction.effects
  rcases cleanUp_effects other later with hnothing | ⟨place, hplace, hremoved⟩
  · rwa [hnothing, FileEffect.applyAll_nil]
  obtain ⟨mid, hmid, hlater⟩ := h
  obtain ⟨hlocated, hfolder⟩ := Files.writablePlace_eq_ok.1 (Files.filePlace_eq_ok.1 hplace).1
  have hback : later.KeepsFolders mid := by
    intro p hp
    rcases hlater p with hsame | ⟨-, hfile⟩
    · rwa [← hsame]
    · exact absurd hp hfile
  have hbeside : IsBesidePlace path mid place :=
    ⟨other, hother, Files.writablePlace_eq_ok.2
      ⟨Files.locate_mono hback hlocated, fun hmid => hfolder (hlater.keepsFolders _ hmid)⟩⟩
  rw [hremoved]
  refine ⟨mid, hmid, fun p => ?_⟩
  by_cases hsame : p = place
  · subst hsame
    exact .inr ⟨hbeside, get?_of_isOnFile (by simp [IsOnFile]) hfolder⟩
  · have hkept : (FileEffect.applyAll later [.remove place]).get? p = later.get? p := Files.get?_remove_of_ne hsame
    rw [hkept]
    exact hlater p

theorem Untouched.keepsFolders {later : Files} (h : Untouched path files later) : files.KeepsFolders later := by
  obtain ⟨mid, hmid, hlater⟩ := h
  exact hmid.keepsFolders.trans hlater.keepsFolders

/-- **An untouched target holds what it held**, with all that lies below it. -/
theorem Untouched.subtree_eq {later : Files} (h : Untouched path files later) (ht : files.IsTree)
    (hanchored : files.IsAnchored path) : later.subtree path = files.subtree path := by
  refine Files.subtree_eq ht h.keepsFolders hanchored fun goal hgoal below => ?_
  obtain ⟨mid, hmid, hlater⟩ := h
  rcases hlater (goal ++ below) with hsame | ⟨⟨other, hother, hplace⟩, -⟩
  · rw [hsame]
    rcases hmid (goal ++ below) with hsame | hnew
    · exact hsame
    · exact absurd rfl (hnew.ne_below hanchored hmid.keepsFolders hlater.keepsFolders hgoal below)
  · exact absurd rfl (beside_frame hother hanchored.name_ne hlater.keepsFolders
      (Files.writablePlace_eq_ok.1 hplace).1 hgoal below)

namespace IsPlacedAt

variable {later : Files} {place goal : List String}

theorem keepsFolders (h : IsPlacedAt path content files later place goal) : files.KeepsFolders later := by
  intro other hother
  rw [h.same, hother]
  · rintro rfl
    exact h.isBesidePlace.ne_folder hother
  · rintro rfl
    exact (Files.writablePlace_eq_ok.1 h.target).2 hother

theorem locate_eq (h : IsPlacedAt path content files later place goal) : later.locate path = .ok goal :=
  Files.locate_mono h.keepsFolders (Files.writablePlace_eq_ok.1 h.target).1

theorem append_ne (h : IsPlacedAt path content files later place goal) (below : List String) :
    goal ++ below ≠ place := by
  obtain ⟨other, hother, hplace⟩ := h.isBesidePlace
  exact beside_frame hother h.name_ne h.keepsFolders (Files.writablePlace_eq_ok.1 hplace).1 h.locate_eq below

/-- A placed content is all that its target holds. -/
theorem subtree_eq (h : IsPlacedAt path content files later place goal) (ht : files.IsTree) :
    later.subtree path = loneFile content := by
  funext below
  rw [Files.subtree, h.locate_eq]
  dsimp only
  by_cases hempty : below = []
  · rw [hempty, List.append_nil]
    exact h.placed
  · rw [loneFile, if_neg hempty, h.same _ (h.append_ne below) (by simpa using hempty)]
    by_contra hsome
    exact (Files.writablePlace_eq_ok.1 h.target).2 (ht.get?_of_append hempty hsome)

/-- Nothing is left to clean up beside a placed content. -/
theorem cleanUp_eq (h : IsPlacedAt path content files later place goal)
    (hother : beside path besideSuffix = .ok other) : (cleanUp other).filesAfter later = later := by
  unfold FileAction.filesAfter FileAction.effects
  rcases cleanUp_effects other later with hnothing | ⟨place', hplace', -⟩
  · rw [hnothing, FileEffect.applyAll_nil]
  · obtain ⟨hwritable, hthere⟩ := Files.filePlace_eq_ok.1 hplace'
    obtain ⟨other', hother', hplace⟩ := h.isBesidePlace
    obtain rfl := Except.ok.inj (hother.symm.trans hother')
    have hkept := Files.locate_mono h.keepsFolders (Files.writablePlace_eq_ok.1 hplace).1
    rw [Except.ok.inj ((Files.writablePlace_eq_ok.1 hwritable).1.symm.trans hkept)] at hthere
    exact absurd h.gone hthere

end IsPlacedAt

theorem writeBytes_read (h : (writeBytes path content besideSuffix).outcome files = .ok ()) :
    ((writeBytes path content besideSuffix).filesAfter files).read path = .ok content := by
  obtain ⟨mid, place, goal, -, hplaced⟩ := writeBytes_placed h
  exact Files.read_eq_ok hplaced.locate_eq hplaced.placed

/-- **A write that fails leaves its target as it was**, with all that lies below it. -/
theorem writeBytes_subtree (ht : files.IsTree) (hanchored : files.IsAnchored path) {fault : WriteFault}
    (h : (writeBytes path content besideSuffix).outcome files = .error fault) :
    ((writeBytes path content besideSuffix).filesAfter files).subtree path = files.subtree path := by
  have huntouched : Untouched path files ((writeBytes path content besideSuffix).filesAfter files) := by
    refine writeBytes_untouched (.refl _) fun _ => ?_
    rw [h]
    exact fun hok => nomatch hok
  exact huntouched.subtree_eq ht hanchored

theorem writeText_of_ok (path : Path) {text encoding : String} (h : encodeText encoding text = .ok content)
    (files : Files) : writeText path text encoding files = writeBytes path content besideSuffix files := by
  rw [writeText, h, FileAction.ended_bind]
  rfl

theorem writeText_of_error (path : Path) {text encoding : String} {fault : EncodingFault}
    (h : encodeText encoding text = .error fault) (files : Files) :
    writeText path text encoding files = ([], .error (.encoding fault)) := by
  rw [writeText, h, FileAction.ended_bind]
  rfl

theorem writeText_utf8 (path : Path) (text : String) (files : Files) :
    writeText path text "utf-8" files = writeBytes path text.toUTF8 besideSuffix files := by
  have hencoding : Encoding.ofName? "utf-8" = some .utf8 := by decide
  apply writeText_of_ok
  rw [encodeText, hencoding]
  rfl

end AtomicWrite
end LabelPress
