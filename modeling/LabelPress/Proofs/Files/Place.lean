import LabelPress.Files
import LabelPress.Proofs.Outcome
import Mathlib.Data.List.Induction

/-!
# Places that paths lead to

Following a path depends on nothing but the folders there are (`follow_mono`), so a path keeps its place as long
as no folder goes. What a path holds is its place with all that lies below it (`Files.subtree`); a path whose folder
is not there holds nothing.
-/

namespace LabelPress

/-- The folder that a path starts from. -/
def Path.start (path : Path) : List String :=
  if path.root = "" then [] else ["/"]

/-- A path that can be passed on to the system. -/
def Path.IsPassable (path : Path) : Prop :=
  path.text.toList.contains '\x00' = false ∧ path.text.utf8ByteSize ≤ Files.pathLimit

namespace Files

/-- The place behind a name. -/
def next (place : List String) (name : String) : List String :=
  if name = ".." then above place else place ++ [name]

/-- A tree of files: whatever lies at a place lies in a folder. -/
def IsTree (files : Files) : Prop :=
  ∀ place, files.get? place ≠ none → files.get? (above place) = some .folder

/-- Later files that have every folder there was. -/
def KeepsFolders (files later : Files) : Prop :=
  ∀ place, files.get? place = some .folder → later.get? place = some .folder

/-- What lies at the place of a path and below it, by the names that lead there from the path. -/
def subtree (files : Files) (path : Path) (below : List String) : Option Node :=
  match files.locate path with
  | .ok place => files.get? (place ++ below)
  | .error _ => none

theorem KeepsFolders.trans {files later last : Files} (h : files.KeepsFolders later)
    (h' : later.KeepsFolders last) : files.KeepsFolders last :=
  fun place hplace => h' place (h place hplace)

theorem get?_of_isBase {files : Files} {place : List String} (h : isBase place = true) :
    files.get? place = some .folder :=
  if_pos h

theorem isBase_eq_false_of_get? {files : Files} {place : List String} (h : files.get? place ≠ some .folder) :
    isBase place = false :=
  Bool.eq_false_iff.2 fun hbase => h (get?_of_isBase hbase)

theorem isBase_of_missing {files : Files} {place : List String} (h : files.get? place = none) :
    isBase place = false :=
  isBase_eq_false_of_get? (h.trans_ne (Option.some_ne_none _).symm)

/-! ## Following names -/

theorem follow_cons_eq_ok {files : Files} {place goal : List String} {name : String} {names : List String} :
    files.follow place (name :: names) = .ok goal ↔ name.utf8ByteSize ≤ nameLimit ∧
      (names ≠ [] → files.get? (next place name) = some .folder) ∧
      files.follow (next place name) names = .ok goal := by
  by_cases hlong : nameLimit < name.utf8ByteSize
  · rw [follow, if_pos hlong]
    exact iff_of_false (fun h => nomatch h) fun h => absurd hlong (Nat.not_lt.2 h.1)
  · rw [and_iff_right (Nat.le_of_not_lt hlong)]
    cases names with
    | nil => simp [follow, hlong, next]
    | cons second names =>
      rw [follow, if_neg hlong]
      dsimp only
      rw [← next]
      split
      · next h => simp [h]
      · next h => simp [h]
      · next h => simp [h]

theorem follow_nil (files : Files) (place : List String) : files.follow place [] = .ok place := by
  rw [follow]

/-- **A path keeps its place** as long as the folders on the way are kept. -/
theorem follow_mono {files later : Files} (h : files.KeepsFolders later) {place goal : List String}
    {names : List String} (hfollow : files.follow place names = .ok goal) :
    later.follow place names = .ok goal := by
  induction names generalizing place with
  | nil => rwa [follow_nil] at hfollow ⊢
  | cons name names ih =>
    rw [follow_cons_eq_ok] at hfollow ⊢
    exact ⟨hfollow.1, fun hne => h _ (hfollow.2.1 hne), ih hfollow.2.2⟩

/-- A path is followed by following a first part of it and then the rest from there. -/
theorem follow_append_eq_ok {files : Files} {place goal : List String} {first second : List String} :
    files.follow place (first ++ second) = .ok goal ↔ ∃ mid, files.follow place first = .ok mid ∧
      (first ≠ [] → second ≠ [] → files.get? mid = some .folder) ∧ files.follow mid second = .ok goal := by
  induction first generalizing place with
  | nil =>
    rw [List.nil_append, follow_nil]
    simp
  | cons name names ih =>
    rw [List.cons_append, follow_cons_eq_ok, ih]
    constructor
    · rintro ⟨hname, hfolder, mid, hfollow, hmid, hrest⟩
      refine ⟨mid, follow_cons_eq_ok.2 ⟨hname, fun hne => hfolder (by simp [hne]), hfollow⟩, ?_, hrest⟩
      intro _ hsecond
      by_cases hnames : names = []
      · subst hnames
        rw [follow_nil] at hfollow
        exact Except.ok.inj hfollow ▸ hfolder (by simp [hsecond])
      · exact hmid hnames hsecond
    · rintro ⟨mid, hfollow, hmid, hrest⟩
      obtain ⟨hname, hfolder, hfollow⟩ := follow_cons_eq_ok.1 hfollow
      refine ⟨hname, fun hne => ?_, mid, hfollow, fun _ => hmid (by simp), hrest⟩
      by_cases hnames : names = []
      · subst hnames
        rw [follow_nil] at hfollow
        exact Except.ok.inj hfollow ▸ hmid (by simp) hne
      · exact hfolder hnames

/-- The last name of a path is followed from the place that the names before it lead to. -/
theorem follow_concat_eq_ok {files : Files} {place goal : List String} {names : List String} {name : String} :
    files.follow place (names ++ [name]) = .ok goal ↔ ∃ folder, files.follow place names = .ok folder ∧
      (names ≠ [] → files.get? folder = some .folder) ∧ name.utf8ByteSize ≤ nameLimit ∧
      goal = next folder name := by
  rw [follow_append_eq_ok]
  simp [follow_cons_eq_ok, follow_nil, eq_comm (a := goal)]

theorem follow_straight {files : Files} {place goal : List String} {names : List String}
    (hnames : ∀ name ∈ names, name ≠ "..") (h : files.follow place names = .ok goal) :
    goal = place ++ names := by
  induction names generalizing place with
  | nil =>
    rw [follow_nil] at h
    rw [List.append_nil, Except.ok.inj h]
  | cons name names ih =>
    rw [List.forall_mem_cons] at hnames
    have hrest := ih hnames.2 (follow_cons_eq_ok.1 h).2.2
    rwa [next, if_neg hnames.1, List.append_assoc] at hrest

theorem utf8ByteSize_le_of_follow {files : Files} {place goal : List String} {names : List String}
    (h : files.follow place names = .ok goal) : ∀ name ∈ names, name.utf8ByteSize ≤ nameLimit := by
  induction names generalizing place with
  | nil => exact fun _ h => absurd h List.not_mem_nil
  | cons name names ih =>
    obtain ⟨hname, -, hrest⟩ := follow_cons_eq_ok.1 h
    exact List.forall_mem_cons.2 ⟨hname, ih hrest⟩

/-! ## Trees -/

theorem above_concat {place : List String} {name : String} (h : isBase (place ++ [name]) = false) :
    above (place ++ [name]) = place := by
  rw [above, if_neg, if_neg, List.dropLast_concat]
  · simp [h]
  · intro hroot
    rw [hroot] at h
    exact absurd h (by decide)

/-- A list of files is a tree if the folders of its own places are there. -/
theorem isTree_of_nodes {files : Files} (h : ∀ entry ∈ files.nodes, files.get? (above entry.1) = some .folder) :
    files.IsTree := by
  intro place hplace
  cases hbase : isBase place with
  | true =>
    refine get?_of_isBase ?_
    unfold above
    split
    · exact hbase
    · next hroot =>
      simp only [isBase, decide_eq_false hroot, Bool.false_or] at hbase
      simp [isBase, hbase]
  | false =>
    obtain ⟨node, hnode⟩ := Option.ne_none_iff_exists'.1 hplace
    simp only [get?, hbase, Bool.false_eq_true, if_false, Option.map_eq_some_iff] at hnode
    obtain ⟨entry, hentry, -⟩ := hnode
    have hsame : entry.1 = place := by simpa using List.find?_some hentry
    exact hsame ▸ h entry (List.mem_of_find?_eq_some hentry)

/-- In a tree every place above one where something lies is a folder. -/
theorem IsTree.get?_of_append {files : Files} (ht : files.IsTree) {place : List String} {rest : List String}
    (hrest : rest ≠ []) (h : files.get? (place ++ rest) ≠ none) : files.get? place = some .folder := by
  have hstep : ∀ (place : List String) (name : String), files.get? (place ++ [name]) ≠ none →
      files.get? place = some .folder := by
    intro place name h
    cases hbase : isBase (place ++ [name]) with
    | false =>
      rw [← above_concat hbase]
      exact ht _ h
    | true =>
      refine get?_of_isBase ?_
      simp only [isBase, Bool.or_eq_true, decide_eq_true_eq, List.all_append, Bool.and_eq_true] at hbase ⊢
      rcases hbase with hroot | hall
      · have hempty : place = [] := (List.append_eq_singleton_iff.1 hroot).elim (·.1) fun h => nomatch h.2
        subst hempty
        exact .inr rfl
      · exact .inr hall.1
  induction rest using List.reverseRecOn with
  | nil => exact absurd rfl hrest
  | append_singleton rest name ih =>
    rw [← List.append_assoc] at h
    have hfolder := hstep _ name h
    by_cases hempty : rest = []
    · rwa [hempty, List.append_nil] at hfolder
    · exact ih hempty (by simp [hfolder])

/-- In a tree a path with anything at its place, or below it, can be followed. -/
theorem IsTree.follow_of_get? {files : Files} (ht : files.IsTree) {place below : List String}
    {names : List String} (hnames : ∀ name ∈ names, name ≠ ".." ∧ name.utf8ByteSize ≤ nameLimit)
    (h : files.get? (place ++ names ++ below) ≠ none) :
    files.follow place names = .ok (place ++ names) := by
  induction names generalizing place with
  | nil => rw [follow_nil, List.append_nil]
  | cons name names ih =>
    obtain ⟨⟨hstraight, hsize⟩, hnames⟩ := List.forall_mem_cons.1 hnames
    have hsplit : place ++ name :: names = place ++ [name] ++ names := by simp
    rw [follow_cons_eq_ok, next, if_neg hstraight, hsplit]
    rw [hsplit] at h
    refine ⟨hsize, fun hne => ?_, ih hnames h⟩
    have hbelow : names ++ below ≠ [] := List.append_ne_nil_of_left_ne_nil hne below
    rw [List.append_assoc] at h
    exact ht.get?_of_append hbelow h

/-! ## Locating paths -/

theorem locate_eq_ok {files : Files} {path : Path} {place : List String} :
    files.locate path = .ok place ↔ path.IsPassable ∧ files.follow path.start path.names = .ok place := by
  unfold locate Path.IsPassable
  cases hnull : path.text.toList.contains '\x00' with
  | true => simp
  | false =>
    by_cases hlong : pathLimit < path.text.utf8ByteSize
    · simp [hlong, Nat.not_le.2 hlong]
    · have hfits : path.text.utf8ByteSize ≤ pathLimit := Nat.le_of_not_lt hlong
      simp only [Bool.false_eq_true, if_false, if_neg hlong, hfits, and_self, true_and]
      exact except_mapError_eq_ok

theorem locate_eq_nullCharacter {files : Files} {path : Path} :
    files.locate path = .error .nullCharacter ↔ path.text.toList.contains '\x00' = true := by
  unfold locate
  cases hnull : path.text.toList.contains '\x00' with
  | true => simp
  | false =>
    refine iff_of_false (fun h => ?_) Bool.false_ne_true
    simp only [Bool.false_eq_true, if_false] at h
    split at h
    · cases h
    · obtain ⟨_, -, h⟩ := except_mapError_eq_error.1 h
      cases h

theorem locate_mono {files later : Files} (h : files.KeepsFolders later) {path : Path} {place : List String}
    (hlocate : files.locate path = .ok place) : later.locate path = .ok place := by
  rw [locate_eq_ok] at hlocate ⊢
  exact ⟨hlocate.1, follow_mono h hlocate.2⟩

theorem read_eq_ok {files : Files} {path : Path} {place : List String} {content : ByteArray}
    (hlocate : files.locate path = .ok place) (h : files.get? place = some (.file content)) :
    files.read path = .ok content := by
  refine except_bind_eq_ok.2 ⟨place, hlocate, ?_⟩
  rw [h]

/-! ## What paths hold -/

/-- A path with a first part that leads to a folder and a rest that never leads back to the folder above. -/
structure IsAnchored (files : Files) (path : Path) : Prop where
  name_ne : path.name ≠ ".."
  anchor : ∃ before after folder, path.names = before ++ after ∧ files.follow path.start before = .ok folder ∧
    files.get? folder = some .folder ∧ ∀ name ∈ after, name ≠ ".."

theorem names_eq_concat {path : Path} (h : path.names ≠ []) : path.names = path.parent.names ++ [path.name] := by
  rw [Path.parent, Path.name, List.getLastD_eq_getLast?, List.getLast?_eq_some_getLast h]
  exact (List.dropLast_concat_getLast h).symm

theorem isBase_start (path : Path) : isBase path.start = true := by
  unfold Path.start
  split <;> decide

/-- **An anchored path holds what it held**, folders kept, if nothing changes where it leads now and below. -/
theorem subtree_eq {files later : Files} (ht : files.IsTree) (h : files.KeepsFolders later) {path : Path}
    (hanchored : files.IsAnchored path)
    (hsame : ∀ place, later.locate path = .ok place → ∀ below,
      later.get? (place ++ below) = files.get? (place ++ below)) :
    later.subtree path = files.subtree path := by
  funext below
  unfold subtree
  cases hlater : later.locate path with
  | error fault =>
    cases hbefore : files.locate path with
    | error _ => rfl
    | ok place => cases hlater.symm.trans (locate_mono h hbefore)
  | ok place =>
    cases hbefore : files.locate path with
    | ok place' =>
      obtain rfl := Except.ok.inj (hlater.symm.trans (locate_mono h hbefore))
      exact hsame place hlater below
    | error fault =>
      -- The path leads nowhere before, so nothing may lie where it leads later.
      dsimp only
      rw [hsame place hlater below]
      by_contra hsome
      obtain ⟨-, before, after, folder, hnames, hfirst, hfolder, hafter⟩ := hanchored
      obtain ⟨hpassable, hfollow⟩ := locate_eq_ok.1 hlater
      rw [hnames, follow_append_eq_ok] at hfollow
      obtain ⟨mid, hmid, -, hrest⟩ := hfollow
      obtain rfl : mid = folder := Except.ok.inj (hmid.symm.trans (follow_mono h hfirst))
      obtain rfl := follow_straight hafter hrest
      have hfits : ∀ name ∈ after, name ≠ ".." ∧ name.utf8ByteSize ≤ nameLimit := fun name hname =>
        ⟨hafter name hname, utf8ByteSize_le_of_follow hrest name hname⟩
      have hthere : files.follow path.start path.names = .ok (mid ++ after) := by
        rw [hnames, follow_append_eq_ok]
        exact ⟨mid, hfirst, fun _ _ => hfolder, ht.follow_of_get? hfits hsome⟩
      cases hbefore.symm.trans (locate_eq_ok.2 ⟨hpassable, hthere⟩)

end Files
end LabelPress
