import LabelPress.AtomicWrite
import LabelPress.Proofs.Files.Effect

/-!
# The course of a write

A write makes folders on the way to its target, writes the file beside it and renames that file; if it cannot be
renamed it is removed. These are all the courses that a write takes (`writeBytes_course`).
-/

namespace LabelPress

theorem Path.splitSuffix_append (name : List Char) : (splitSuffix name).1 ++ (splitSuffix name).2 = name := by
  unfold splitSuffix
  dsimp only
  split
  · exact List.append_nil name
  · next hproper =>
    rw [Bool.or_eq_true, not_or, List.isEmpty_iff, List.isEmpty_iff] at hproper
    have hsplit := List.takeWhile_append_dropWhile (p := fun c => decide (c ≠ '.')) (l := name.reverse)
    generalize hrest : name.reverse.dropWhile (fun c => decide (c ≠ '.')) = rest at hsplit
    generalize name.reverse.takeWhile (fun c => decide (c ≠ '.')) = tail at *
    cases rest with
    | nil =>
      rw [List.append_nil] at hsplit
      rw [← hsplit] at hproper
      exact absurd (by simp) hproper.2
    | cons point stem =>
      have hpoint : point = '.' := by
        have := List.head?_dropWhile_not (fun c => decide (c ≠ '.')) name.reverse
        rw [hrest] at this
        simpa using this
      rw [← List.reverse_reverse name, ← hsplit, hpoint]
      simp

/-- A longer last name makes the text of a path longer by as much. -/
theorem Path.text_append {path : Path} (h : path.names ≠ []) (s : String) :
    text { path with names := path.names.dropLast ++ [path.name ++ s] } = path.text ++ s := by
  have hjoin : ∀ (init : List String) (last : String),
      String.intercalate "/" (init ++ [last ++ s]) = String.intercalate "/" (init ++ [last]) ++ s := by
    intro init last
    induction init with
    | nil => rw [List.nil_append, List.nil_append, String.intercalate_singleton, String.intercalate_singleton]
    | cons name init ih =>
      rw [List.cons_append, List.cons_append, String.intercalate_cons_of_ne_nil (by simp),
        String.intercalate_cons_of_ne_nil (by simp), ih]
      simp only [String.append_assoc]
  have hnames : path.names = path.names.dropLast ++ [path.name] := Files.names_eq_concat h
  rw [text, text, if_neg (by simp), if_neg (by simp [h]), hjoin, ← hnames, String.append_assoc]

namespace Files

variable {path target : Path} {files : Files}

/-- What a renaming does if it ends well: its paths lead to places, the goal is no folder and not reached by going
back, and the file is moved unless it is there already. -/
theorem rename_eq_ok {effects : List FileEffect} (h : rename path target files = (effects, .ok ())) :
    ∃ source goal, files.locate path = .ok source ∧ writablePlace target files = .ok goal ∧ target.name ≠ ".." ∧
      ((source = goal ∧ effects = []) ∨ (source ≠ goal ∧ effects = [.rename source goal])) := by
  rw [rename, FileAction.ask_bind] at h
  split at h
  case h_2 => cases h
  case h_1 places hplaces =>
    obtain ⟨source, hsource, hplaces⟩ := except_bind_eq_ok.1 hplaces
    obtain ⟨goal, hgoal, hplaces⟩ := except_bind_eq_ok.1 hplaces
    split at hplaces
    · cases hplaces
    next hbusy =>
    split at hplaces
    · cases hplaces
    split at hplaces
    · cases hplaces
    next hfolder =>
      obtain rfl := Except.ok.inj hplaces
      refine ⟨source, goal, except_mapError_eq_ok.1 hsource,
        writablePlace_eq_ok.2 ⟨except_mapError_eq_ok.1 hgoal, by simpa using hfolder⟩, ?_, ?_⟩
      · intro hname
        exact hbusy (.inr (by rw [hname]; decide))
      · dsimp only at h
        split at h
        · next hsame => exact .inl ⟨hsame, (Prod.mk.inj h).1.symm⟩
        · next hother => exact .inr ⟨hother, (Prod.mk.inj h).1.symm⟩

/-- A renaming that fails has done nothing, and has not failed for want of a path that can be passed on unless
one of its paths cannot. -/
theorem rename_eq_error {effects : List FileEffect} {fault : FileFault}
    (h : rename path target files = (effects, .error fault)) : effects = [] ∧
      (fault = .nullCharacter →
        files.locate path = .error .nullCharacter ∨ files.locate target = .error .nullCharacter) := by
  rw [rename, FileAction.ask_bind] at h
  split at h
  · dsimp only at h
    split at h <;> cases h
  · next fault' hplaces =>
    obtain ⟨rfl, hfault⟩ := Prod.mk.inj h
    obtain rfl := Except.error.inj hfault
    refine ⟨rfl, ?_⟩
    rintro rfl
    rcases except_bind_eq_error.1 hplaces with hsource | ⟨source, -, hplaces⟩
    · obtain ⟨cause, hcause, hnull⟩ := except_mapError_eq_error.1 hsource
      cases cause with
      | refused => cases hnull
      | nullCharacter => exact .inl hcause
    rcases except_bind_eq_error.1 hplaces with hgoal | ⟨goal, -, hplaces⟩
    · obtain ⟨cause, hcause, hnull⟩ := except_mapError_eq_error.1 hgoal
      cases cause with
      | refused => cases hnull
      | nullCharacter => exact .inr hcause
    · split at hplaces
      · cases hplaces
      split at hplaces
      · cases hplaces
      split at hplaces <;> cases hplaces

end Files

namespace AtomicWrite

variable {path other : Path} {content : ByteArray} {files : Files}

/-- Cleaning up removes the file of a path, or does nothing. -/
theorem cleanUp_effects (other : Path) (files : Files) : (cleanUp other files).1 = [] ∨
    ∃ place, Files.filePlace other files = .ok place ∧ (cleanUp other files).1 = [.remove place] := by
  rw [cleanUp, FileAction.ask_bind]
  split
  · split
    · rw [Files.unlink, FileAction.ask_bind]
      split
      · next place hplace => exact .inr ⟨place, hplace, rfl⟩
      · exact .inl rfl
    · exact .inl rfl
  · exact .inl rfl

theorem cleanUp_of_file {place : List String} (h : Files.filePlace other files = .ok place) :
    cleanUp other files = ([.remove place], .ok ()) := by
  obtain ⟨hwritable, hthere⟩ := Files.filePlace_eq_ok.1 h
  obtain ⟨node, hnode⟩ := Option.ne_none_iff_exists'.1 hthere
  have hlookup : files.lookup other = .ok (some node) := by
    rw [Files.lookup, (Files.writablePlace_eq_ok.1 hwritable).1]
    dsimp only
    rw [hnode]
  rw [cleanUp, FileAction.ask_bind, hlookup]
  dsimp only [Option.isSome_some]
  rw [if_pos rfl, Files.unlink, FileAction.ask_bind, h]
  rfl

/-- The file beside a target has the name of the target and a suffix more. -/
theorem beside_eq_ok {path other : Path} (h : beside path besideSuffix = .ok other) :
    path.name ≠ "" ∧ other = { path with names := path.names.dropLast ++ [path.name ++ besideSuffix] } := by
  unfold beside Path.withSuffix at h
  split at h
  · cases h
  · split at h
    · cases h
    · next hname =>
      obtain rfl := Except.ok.inj h
      refine ⟨hname, ?_⟩
      have hjoined : String.ofList (Path.splitSuffix path.name.toList).1 ++ path.suffix = path.name := by
        rw [Path.suffix, ← String.ofList_append, Path.splitSuffix_append, String.ofList_toList]
      rw [← String.append_assoc, hjoined]

/-- The steps that write a file. -/
def writing (place : List String) (content : ByteArray) : List FileEffect :=
  [.truncate place, .append place content]

/-- The files once the folders on the way to a target are made. -/
def prepared (path : Path) (files : Files) : Files :=
  (Files.ensureFolder path.parent).filesAfter files

/-! ## Effects on one file -/

/-- The effects that a file can have without being renamed. -/
def IsOnFile (place : List String) (e : FileEffect) : Prop :=
  e = .truncate place ∨ (∃ content, e = .append place content) ∨ e = .remove place

theorem IsOnFile.places_eq {place : List String} {e : FileEffect} (h : IsOnFile place e) : e.places = [place] := by
  rcases h with rfl | ⟨content, rfl⟩ | rfl <;> rfl

theorem isOnFile_writing (place : List String) (content : ByteArray) :
    ∀ e ∈ writing place content, IsOnFile place e := by
  intro e he
  simp only [writing, List.mem_cons, List.not_mem_nil, or_false] at he
  rcases he with rfl | rfl
  · exact .inl rfl
  · exact .inr (.inl ⟨content, rfl⟩)

theorem isOnFile_writing_remove (place : List String) (content : ByteArray) :
    ∀ e ∈ writing place content ++ [.remove place], IsOnFile place e := by
  intro e he
  rcases List.mem_append.1 he with he | he
  · exact isOnFile_writing place content e he
  · exact .inr (.inr (List.mem_singleton.1 he))

theorem get?_of_isOnFile_of_ne {place other : List String} {effects : List FileEffect}
    (h : ∀ e ∈ effects, IsOnFile place e) (hne : other ≠ place) :
    (FileEffect.applyAll files effects).get? other = files.get? other := by
  apply FileEffect.get?_applyAll
  intro e he hmem
  rw [(h e he).places_eq] at hmem
  exact hne (List.mem_singleton.1 hmem)

theorem keepsFolders_of_isOnFile {place : List String} {effects : List FileEffect}
    (h : ∀ e ∈ effects, IsOnFile place e) (hfile : files.get? place ≠ some .folder) :
    files.KeepsFolders (FileEffect.applyAll files effects) := by
  refine FileEffect.keepsFolders_of_places fun e he other hother => ?_
  rw [(h e he).places_eq, List.mem_singleton] at hother
  rwa [hother]

theorem keepsFolders_writing {place : List String} (content : ByteArray) (h : files.get? place ≠ some .folder) :
    files.KeepsFolders (FileEffect.applyAll files (writing place content)) :=
  keepsFolders_of_isOnFile (isOnFile_writing place content) h

/-! ## Courses -/

/-- The course of a write. -/
inductive Course (path : Path) (content : ByteArray) (files : Files) :
    List FileEffect → Except WriteFault Unit → Prop
  /-- The file beside the target has not been opened. -/
  | unopened (fault : WriteFault) :
    Course path content files ((Files.ensureFolder path.parent).effects files) (.error fault)
  /-- The file beside the target is written but cannot be renamed, so it is removed. -/
  | unfinished {other : Path} {place : List String} (fault : FileFault)
    (hother : beside path besideSuffix = .ok other)
    (hplace : Files.writablePlace other (prepared path files) = .ok place) :
    Course path content files
      ((Files.ensureFolder path.parent).effects files ++ (writing place content ++ [.remove place]))
      (.error (.failed path fault))
  /-- The file beside the target is written and then takes the place of the target. -/
  | finished {other : Path} {place goal : List String}
    (hother : beside path besideSuffix = .ok other)
    (hplace : Files.writablePlace other (prepared path files) = .ok place)
    (hgoal : Files.writablePlace path (prepared path files) = .ok goal)
    (hname : path.name ≠ "..") (hne : place ≠ goal) :
    Course path content files
      ((Files.ensureFolder path.parent).effects files ++ (writing place content ++ [.rename place goal])) (.ok ())

theorem get?_writing {place : List String} (content : ByteArray) (h : files.get? place ≠ some .folder) :
    (FileEffect.applyAll files (writing place content)).get? place = some (.file content) := by
  have hbase : Files.isBase place = false :=
    Bool.eq_false_iff.2 fun hbase => h (Files.get?_of_isBase hbase)
  change (FileEffect.apply (files.put place (.file ByteArray.empty)) (.append place content)).get? place = _
  rw [FileEffect.apply, Files.get?_put_self hbase]
  dsimp only
  rw [Files.get?_put_self hbase, ByteArray.empty_append]

/-- Writing a file makes no folder. -/
theorem keepsFolders_before_writing {place : List String} (content : ByteArray)
    (h : files.get? place ≠ some .folder) :
    (FileEffect.applyAll files (writing place content)).KeepsFolders files := by
  intro other hother
  by_cases hsame : other = place
  · subst hsame
    rw [get?_writing content h] at hother
    cases hother
  · rwa [get?_of_isOnFile_of_ne (isOnFile_writing place content) hsame] at hother

theorem writablePlace_before_writing {place goal : List String} (content : ByteArray)
    (h : files.get? place ≠ some .folder)
    (hgoal : Files.writablePlace path (FileEffect.applyAll files (writing place content)) = .ok goal) :
    Files.writablePlace path files = .ok goal := by
  obtain ⟨hlocated, hfolder⟩ := Files.writablePlace_eq_ok.1 hgoal
  exact Files.writablePlace_eq_ok.2 ⟨Files.locate_mono (keepsFolders_before_writing content h) hlocated,
    fun hbefore => hfolder (keepsFolders_writing content h _ hbefore)⟩

/-- The file beside a target is not at its place or below. -/
theorem beside_frame (hother : beside path besideSuffix = .ok other) (hname : path.name ≠ "..")
    {later : Files} (hkeeps : files.KeepsFolders later) {place goal : List String}
    (hplace : files.locate other = .ok place) (hgoal : later.locate path = .ok goal) (below : List String) :
    goal ++ below ≠ place := by
  obtain ⟨hnamed, rfl⟩ := beside_eq_ok hother
  have hnames : path.names ≠ [] := fun h => hnamed (by rw [Path.name, h]; rfl)
  have hfollow := (Files.locate_eq_ok.1 hplace).2
  have hfollow' := (Files.locate_eq_ok.1 hgoal).2
  rw [Files.names_eq_concat hnames] at hfollow'
  obtain ⟨folder, hfolder, -, -, rfl⟩ := Files.follow_concat_eq_ok.1 hfollow
  obtain ⟨folder', hfolder', -, -, rfl⟩ := Files.follow_concat_eq_ok.1 hfollow'
  obtain rfl : folder' = folder :=
    Except.ok.inj (hfolder'.symm.trans (Files.follow_mono hkeeps hfolder))
  -- Both lie in one folder, and the suffix makes the name of the one longer.
  have hsize : (path.name ++ besideSuffix).length = path.name.length + 4 := String.length_append ..
  have hbeside : path.name ++ besideSuffix ≠ ".." := fun h => by
    have htwo : "..".length = 2 := rfl
    rw [h] at hsize
    omega
  rw [Files.next, Files.next, if_neg hname, if_neg hbeside, List.append_assoc]
  intro hsame
  have hlast := (List.append_cancel_left_eq ..).mp hsame
  rw [← (List.cons.inj hlast).1] at hsize
  omega

/-- A target can be passed on if the file beside it can. -/
theorem locate_ne_nullCharacter (hother : beside path besideSuffix = .ok other) {place : List String}
    (h : files.locate other = .ok place) (later : Files) : later.locate path ≠ .error .nullCharacter := by
  obtain ⟨hname, rfl⟩ := beside_eq_ok hother
  have hnames : path.names ≠ [] := fun h => hname (by rw [Path.name, h]; rfl)
  have hnone := (Files.locate_eq_ok.1 h).1.1
  rw [Path.text_append hnames, String.toList_append] at hnone
  intro hnull
  rw [Files.locate_eq_nullCharacter, List.contains_iff_mem] at hnull
  rw [List.contains_iff_mem.2 (List.mem_append_left _ hnull)] at hnone
  cases hnone

/-- How far the file beside a target is written and renamed. -/
theorem writeBeside_cases (content : ByteArray) (files : Files) (hother : beside path besideSuffix = .ok other) :
    (∃ fault, Files.writablePlace other files = .error fault ∧
      writeBeside path other content files = ([], .error fault)) ∨
    ∃ place, Files.writablePlace other files = .ok place ∧
      ((∃ fault, fault ≠ .nullCharacter ∧
          writeBeside path other content files = (writing place content, .error fault)) ∨
        ∃ goal, Files.writablePlace path files = .ok goal ∧ path.name ≠ ".." ∧ place ≠ goal ∧
          writeBeside path other content files = (writing place content ++ [.rename place goal], .ok ())) := by
  cases hplace : Files.writablePlace other files with
  | error fault =>
    refine .inl ⟨fault, rfl, ?_⟩
    rw [writeBeside, FileAction.ask_bind, hplace]
  | ok place =>
    refine .inr ⟨place, rfl, ?_⟩
    have hsteps : writeBeside path other content files =
        (writing place content ++ (Files.rename other path (FileEffect.applyAll files (writing place content))).1,
          (Files.rename other path (FileEffect.applyAll files (writing place content))).2) := by
      rw [writeBeside, FileAction.ask_bind, hplace]
      dsimp only
      rw [FileAction.perform_bind, FileAction.perform_bind]
      rfl
    obtain ⟨hlocated, hfolder⟩ := Files.writablePlace_eq_ok.1 hplace
    have hkept := Files.locate_mono (keepsFolders_writing content hfolder) hlocated
    rcases hrename : Files.rename other path (FileEffect.applyAll files (writing place content)) with
      ⟨last, outcome⟩
    rw [hsteps, hrename]
    cases outcome with
    | error fault =>
      obtain ⟨rfl, hnull⟩ := Files.rename_eq_error hrename
      refine .inl ⟨fault, fun h => ?_, by rw [List.append_nil]⟩
      rcases hnull h with hnull | hnull
      · cases hkept.symm.trans hnull
      · exact locate_ne_nullCharacter hother hlocated _ hnull
    | ok =>
      obtain ⟨source, goal, hsource, hgoal, hname, hlast⟩ := Files.rename_eq_ok hrename
      obtain rfl : source = place := Except.ok.inj (hsource.symm.trans hkept)
      have hne : source ≠ goal := by
        have hframe := beside_frame hother hname (keepsFolders_writing content hfolder) hlocated
          (Files.writablePlace_eq_ok.1 hgoal).1 []
        rw [List.append_nil] at hframe
        exact hframe.symm
      rcases hlast with ⟨hsame, -⟩ | ⟨-, rfl⟩
      · exact absurd hsame hne
      · exact .inr ⟨goal, writablePlace_before_writing content hfolder hgoal, hname, hne, rfl⟩

/-- What is done about a fault: the file beside the target is removed, unless its path cannot be passed on, and
the write fails anyway. -/
def recover (path other : Path) : FileFault → FileAction WriteFault Unit
  | .nullCharacter => .fail (.file .nullCharacter)
  | fault => do
    (cleanUp other).mapError .file
    .fail (.failed path fault)

theorem writeBytes_eq (path : Path) (content : ByteArray) (suffix : String) : writeBytes path content suffix = (do
    (Files.ensureFolder path.parent).mapError .file
    let other ← .ended ((beside path suffix).mapError .suffix)
    (writeBeside path other content).rescue (recover path other)) :=
  rfl

/-- Nothing is removed if the file beside the target could not be opened. -/
theorem recover_unopened (path : Path) {fault : FileFault} (h : Files.writablePlace other files = .error fault) :
    ∃ reported, recover path other fault files = ([], .error reported) := by
  cases fault with
  | nullCharacter => exact ⟨_, rfl⟩
  | refused error refusedPath target =>
    rcases hclean : cleanUp other files with ⟨effects, outcome⟩
    have hnothing : effects = [] := by
      rcases cleanUp_effects other files with heffects | ⟨place, hplace, -⟩
      · rwa [hclean] at heffects
      · cases h.symm.trans (Files.filePlace_eq_ok.1 hplace).1
    subst hnothing
    have hfirst : (cleanUp other).mapError WriteFault.file files = ([], outcome.mapError .file) := by
      rw [FileAction.mapError_eq, hclean]
    cases outcome with
    | error fault => exact ⟨_, FileAction.bind_of_error hfirst _⟩
    | ok => exact ⟨_, FileAction.bind_of_ok hfirst _⟩

theorem recover_opened (path : Path) {fault : FileFault} (hfault : fault ≠ .nullCharacter) {place : List String}
    (h : Files.filePlace other files = .ok place) :
    recover path other fault files = ([.remove place], .error (.failed path fault)) := by
  cases fault with
  | nullCharacter => exact absurd rfl hfault
  | refused error refusedPath target =>
    have hfirst : (cleanUp other).mapError WriteFault.file files = ([.remove place], .ok ()) := by
      rw [FileAction.mapError_eq, cleanUp_of_file h]
      rfl
    exact FileAction.bind_of_ok hfirst _

/-- Once its folders are made, a write is unopened, unfinished or finished. -/
theorem rescued_course (content : ByteArray) (hother : beside path besideSuffix = .ok other) :
    Course path content files
      ((Files.ensureFolder path.parent).effects files ++
        ((writeBeside path other content).rescue (recover path other) (prepared path files)).1)
      ((writeBeside path other content).rescue (recover path other) (prepared path files)).2 := by
  rcases writeBeside_cases content (prepared path files) hother with
    ⟨fault, hplace, hwrite⟩ | ⟨place, hplace, ⟨fault, hfault, hwrite⟩ | ⟨goal, hgoal, hname, hne, hwrite⟩⟩
  · obtain ⟨reported, hrecover⟩ := recover_unopened path hplace
    rw [FileAction.rescue_of_error hwrite, FileEffect.applyAll_nil, hrecover, List.append_nil, List.append_nil]
    exact .unopened _
  · obtain ⟨hlocated, hfolder⟩ := Files.writablePlace_eq_ok.1 hplace
    have hwritten := get?_writing content hfolder
    have hfile : Files.filePlace other (FileEffect.applyAll (prepared path files) (writing place content)) =
        .ok place := by
      rw [Files.filePlace_eq_ok, Files.writablePlace_eq_ok]
      exact ⟨⟨Files.locate_mono (keepsFolders_writing content hfolder) hlocated, by simp [hwritten]⟩,
        by simp [hwritten]⟩
    rw [FileAction.rescue_of_error hwrite, recover_opened path hfault hfile]
    exact .unfinished fault hother hplace
  · rw [FileAction.rescue_of_ok hwrite]
    exact .finished hother hplace hgoal hname hne

/-- **Every write takes one of its courses.** -/
theorem writeBytes_course (path : Path) (content : ByteArray) (files : Files) :
    Course path content files (writeBytes path content besideSuffix files).1
      (writeBytes path content besideSuffix files).2 := by
  rw [writeBytes_eq]
  rcases hfolders : Files.ensureFolder path.parent files with ⟨folders, outcome⟩
  have heffects : (Files.ensureFolder path.parent).effects files = folders := by
    rw [FileAction.effects, hfolders]
  have hprepared : prepared path files = FileEffect.applyAll files folders := by
    rw [prepared, FileAction.filesAfter, heffects]
  have hfirst : (Files.ensureFolder path.parent).mapError WriteFault.file files =
      (folders, outcome.mapError .file) := by
    rw [FileAction.mapError_eq, hfolders]
  cases outcome with
  | error fault =>
    rw [FileAction.bind_of_error hfirst, ← heffects]
    exact .unopened _
  | ok =>
    rw [FileAction.bind_of_ok hfirst, ← hprepared, ← heffects]
    cases hother : beside path besideSuffix with
    | error fault =>
      rw [FileAction.ended_bind]
      exact (List.append_nil _).symm ▸ .unopened (.suffix fault)
    | ok other =>
      rw [FileAction.ended_bind]
      exact rescued_course content hother

end AtomicWrite
end LabelPress
