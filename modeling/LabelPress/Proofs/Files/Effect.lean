import LabelPress.Files.Effect
import LabelPress.Proofs.Files.Place
import LabelPress.Proofs.Outcome

/-!
# What effects change

An effect changes what lies at the places it names and nothing else (`get?_applyAll`). Making folders takes no
folder away, and neither do effects on places where there is none, so they leave every path where it leads
(`keepsFolders_of_places`). All that is ever made for a path are missing folders on the way to it
(`ensureFolder_doesOnly`), however early that is cut short (`gainsFolders_of_isTrace`).
-/

namespace LabelPress

namespace FileEffect

/-- The places that an effect changes. -/
def places : FileEffect → List (List String)
  | .makeFolder place | .truncate place | .append place _ | .remove place => [place]
  | .rename source target => [source, target]

variable {files : Files} {effects : List FileEffect} {place : List String}

theorem get?_apply {e : FileEffect} (h : place ∉ e.places) : (apply files e).get? place = files.get? place := by
  cases e with
  | makeFolder other | truncate other =>
    have hne : place ≠ other := by simpa [places] using h
    exact Files.get?_put_of_ne hne
  | remove other =>
    have hne : place ≠ other := by simpa [places] using h
    exact Files.get?_remove_of_ne hne
  | append other content =>
    have hne : place ≠ other := by simpa [places] using h
    rw [apply]
    split <;> exact Files.get?_put_of_ne hne
  | rename source target =>
    obtain ⟨hsource, htarget⟩ : place ≠ source ∧ place ≠ target := by simpa [places] using h
    rw [apply]
    split
    · rw [Files.get?_put_of_ne htarget, Files.get?_remove_of_ne hsource]
    · rfl

theorem applyAll_nil : applyAll files [] = files :=
  rfl

theorem applyAll_cons (e : FileEffect) : applyAll files (e :: effects) = applyAll (apply files e) effects :=
  rfl

theorem applyAll_append (first second : List FileEffect) :
    applyAll files (first ++ second) = applyAll (applyAll files first) second :=
  List.foldl_append

/-- **Effects change nothing but the places they name.** -/
theorem get?_applyAll (h : ∀ e ∈ effects, place ∉ e.places) :
    (applyAll files effects).get? place = files.get? place := by
  induction effects generalizing files with
  | nil => rfl
  | cons e effects ih =>
    obtain ⟨he, heffects⟩ := List.forall_mem_cons.1 h
    rw [applyAll_cons, ih heffects, get?_apply he]

theorem keepsFolders_of_places (h : ∀ e ∈ effects, ∀ place ∈ e.places, files.get? place ≠ some .folder) :
    files.KeepsFolders (applyAll files effects) := by
  intro place hplace
  rwa [get?_applyAll fun e he hmem => h e he place hmem hplace]

/-! ## Effects that are cut short -/

/-- What has been done of effects that are cut short: a first part of them and, if the next one writes bytes, a
first part of these. -/
inductive Cut : List FileEffect → List FileEffect → Prop
  | stop (effects : List FileEffect) : Cut [] effects
  | within (place : List String) (content : ByteArray) (count : Nat) (rest : List FileEffect) :
    Cut [.append place (content.extract 0 count)] (.append place content :: rest)
  | next (e : FileEffect) {done effects : List FileEffect} (h : Cut done effects) : Cut (e :: done) (e :: effects)

theorem Cut.refl : (effects : List FileEffect) → Cut effects effects
  | [] => .stop []
  | e :: effects => .next e (refl effects)

theorem Cut.append {done first second : List FileEffect} (h : Cut done (first ++ second)) :
    Cut done first ∨ ∃ rest, done = first ++ rest ∧ Cut rest second := by
  induction first generalizing done with
  | nil => exact .inr ⟨done, rfl, h⟩
  | cons e first ih =>
    cases h with
    | stop => exact .inl (.stop _)
    | within place content count => exact .inl (.within place content count first)
    | next _ hcut =>
      rcases ih hcut with hfirst | ⟨rest, rfl, hrest⟩
      · exact .inl (.next e hfirst)
      · exact .inr ⟨rest, rfl, hrest⟩

/-- Effects each of which has a property in the files that the ones before it leave. -/
def IsTrace (P : Files → FileEffect → Prop) : Files → List FileEffect → Prop
  | _, [] => True
  | files, e :: effects => P files e ∧ IsTrace P (apply files e) effects

theorem isTrace_append {P : Files → FileEffect → Prop} {first second : List FileEffect} :
    IsTrace P files (first ++ second) ↔ IsTrace P files first ∧ IsTrace P (applyAll files first) second := by
  induction first generalizing files with
  | nil => simp [IsTrace, applyAll_nil]
  | cons e first ih => simp only [List.cons_append, IsTrace, ih, applyAll_cons, and_assoc]

end FileEffect

/-! ## Running actions -/

namespace FileAction

variable {ε ε' α β : Type} {files : Files} {a : FileAction ε α} {effects : List FileEffect}

theorem bind_of_ok {x : α} (h : a files = (effects, .ok x)) (f : α → FileAction ε β) :
    (a >>= f) files = (effects ++ (f x (FileEffect.applyAll files effects)).1,
      (f x (FileEffect.applyAll files effects)).2) := by
  change continueWith a _ files = _
  rw [continueWith, h]

theorem bind_of_error {e : ε} (h : a files = (effects, .error e)) (f : α → FileAction ε β) :
    (a >>= f) files = (effects, .error e) := by
  change continueWith a _ files = _
  rw [continueWith, h]
  exact congrArg (·, _) (List.append_nil effects)

theorem rescue_of_ok {x : α} (h : a files = (effects, .ok x)) (handler : ε → FileAction ε' α) :
    a.rescue handler files = (effects, .ok x) := by
  rw [rescue, continueWith, h]
  exact congrArg (·, _) (List.append_nil effects)

theorem rescue_of_error {e : ε} (h : a files = (effects, .error e)) (handler : ε → FileAction ε' α) :
    a.rescue handler files = (effects ++ (handler e (FileEffect.applyAll files effects)).1,
      (handler e (FileEffect.applyAll files effects)).2) := by
  rw [rescue, continueWith, h]

theorem mapError_eq (f : ε → ε') : a.mapError f files = ((a files).1, (a files).2.mapError f) := by
  rcases h : a files with ⟨effects, outcome⟩
  cases outcome with
  | ok x => exact rescue_of_ok h _
  | error e =>
    rw [mapError, rescue_of_error h]
    exact congrArg (·, _) (List.append_nil effects)

theorem ended_bind (outcome : Except ε α) (f : α → FileAction ε β) :
    (ended outcome >>= f) files = match outcome with
      | .ok x => f x files
      | .error e => ([], .error e) := by
  cases outcome with
  | ok x => exact bind_of_ok (Prod.ext rfl rfl) f
  | error e => exact bind_of_error (Prod.ext rfl rfl) f

/-- What follows a question is done to the same files. -/
theorem ask_bind (question : Files → Except ε α) (f : α → FileAction ε β) :
    (ask question >>= f) files = match question files with
      | .ok x => f x files
      | .error e => ([], .error e) := by
  cases h : question files with
  | ok x => exact bind_of_ok (Prod.ext rfl h) f
  | error e => exact bind_of_error (Prod.ext rfl h) f

theorem perform_bind (e : FileEffect) (f : Unit → FileAction ε β) :
    (perform e >>= f) files = (e :: (f () (FileEffect.apply files e)).1, (f () (FileEffect.apply files e)).2) :=
  bind_of_ok (show perform e files = ([e], .ok ()) from rfl) f

/-- An action whose effects all have a property, each in the files that it finds. -/
def DoesOnly (P : Files → FileEffect → Prop) (a : FileAction ε α) : Prop :=
  ∀ files, FileEffect.IsTrace P files (a files).1

namespace DoesOnly

variable {P Q : Files → FileEffect → Prop}

theorem ended (outcome : Except ε α) : DoesOnly P (ended outcome) :=
  fun _ => trivial

theorem continueWith (ha : DoesOnly P a) {next : Except ε α → FileAction ε' β} (hnext : ∀ r, DoesOnly P (next r)) :
    DoesOnly P (a.continueWith next) := by
  intro files
  apply FileEffect.isTrace_append.2
  exact ⟨ha files, hnext _ _⟩

theorem bind (ha : DoesOnly P a) {f : α → FileAction ε β} (hf : ∀ x, DoesOnly P (f x)) :
    DoesOnly P (a >>= f) := by
  refine ha.continueWith fun r => ?_
  cases r with
  | ok x => exact hf x
  | error e => exact ended _

theorem rescue (ha : DoesOnly P a) {handler : ε → FileAction ε' α} (hhandler : ∀ e, DoesOnly P (handler e)) :
    DoesOnly P (a.rescue handler) := by
  refine ha.continueWith fun r => ?_
  cases r with
  | ok x => exact ended _
  | error e => exact hhandler e

theorem mono (ha : DoesOnly P a) (hPQ : ∀ files e, P files e → Q files e) : DoesOnly Q a := by
  have hmono : ∀ effects files, FileEffect.IsTrace P files effects → FileEffect.IsTrace Q files effects := by
    intro effects
    induction effects with
    | nil => exact fun _ _ => trivial
    | cons e effects ih => exact fun files h => ⟨hPQ files e h.1, ih _ h.2⟩
  exact fun files => hmono _ files (ha files)

end DoesOnly

end FileAction

/-! ## Folders -/

namespace Files

theorem makeFolder_eq (path : Path) (files : Files) : makeFolder path files =
    match newFolderPlace path files with
    | .ok place => ([.makeFolder place], .ok ())
    | .error fault => ([], .error fault) := by
  rw [makeFolder, FileAction.ask_bind]
  cases newFolderPlace path files <;> rfl

/-- An effect that makes a folder that is missing on the way to a path, in a folder that is there. -/
def MakesMissing (path : Path) (files : Files) (e : FileEffect) : Prop :=
  ∃ place names, e = .makeFolder place ∧ names <+: path.names ∧ files.follow path.start names = .ok place ∧
    files.get? place = none ∧ files.get? (above place) = some .folder

theorem MakesMissing.of_parent {path : Path} {files : Files} {e : FileEffect} (h : MakesMissing path.parent files e) :
    MakesMissing path files e := by
  obtain ⟨place, names, rfl, hnames, hplace⟩ := h
  exact ⟨place, names, rfl, hnames.trans (List.dropLast_prefix _), hplace⟩

theorem newFolderPlace_eq_ok {path : Path} {files : Files} {place : List String}
    (h : newFolderPlace path files = .ok place) :
    files.locate path = .ok place ∧ files.get? place = none ∧ path.name ≠ ".." := by
  obtain ⟨located, hlocated, hnew⟩ := except_bind_eq_ok.1 h
  split at hnew
  · cases hnew
  · next hmissing =>
    obtain rfl := Except.ok.inj hnew
    rw [not_or, Option.isSome_iff_ne_none, ne_eq, not_not] at hmissing
    exact ⟨hlocated, hmissing⟩

theorem makeFolder_doesOnly (path : Path) : (makeFolder path).DoesOnly (MakesMissing path) := by
  intro files
  rw [makeFolder_eq]
  cases hplace : newFolderPlace path files with
  | error fault => trivial
  | ok place =>
    obtain ⟨hlocated, hmissing, hname⟩ := newFolderPlace_eq_ok hplace
    have hfollow := (locate_eq_ok.1 hlocated).2
    refine ⟨⟨place, path.names, rfl, List.prefix_rfl, hfollow, hmissing, ?_⟩, trivial⟩
    by_cases hnames : path.names = []
    · rw [hnames, follow_nil] at hfollow
      rw [← Except.ok.inj hfollow, get?_of_isBase (isBase_start path)] at hmissing
      cases hmissing
    · rw [names_eq_concat hnames, follow_concat_eq_ok] at hfollow
      obtain ⟨folder, hfolder, hthere, -, rfl⟩ := hfollow
      rw [next, if_neg hname] at hmissing ⊢
      rw [above_concat (isBase_of_missing hmissing)]
      by_cases hparent : path.parent.names = []
      · rw [hparent, follow_nil] at hfolder
        rw [← Except.ok.inj hfolder, get?_of_isBase (isBase_start path)]
      · exact hthere hparent

theorem unlessThere_doesOnly {P : Files → FileEffect → Prop} {path : Path} {fault : FileFault} :
    (unlessThere path fault).DoesOnly P :=
  fun _ => trivial

theorem ensureFolderWithin_doesOnly (depth : Nat) (path : Path) :
    (ensureFolderWithin depth path).DoesOnly (MakesMissing path) := by
  induction depth generalizing path with
  | zero => exact makeFolder_doesOnly path
  | succ depth ih =>
    refine (makeFolder_doesOnly path).rescue fun fault => ?_
    split
    · split
      · exact .ended _
      · refine ((ih path.parent).mono fun _ _ => MakesMissing.of_parent).bind fun _ => ?_
        exact (makeFolder_doesOnly path).rescue fun _ => unlessThere_doesOnly
    · exact .ended _
    · exact unlessThere_doesOnly

theorem ensureFolder_doesOnly (path : Path) : (ensureFolder path).DoesOnly (MakesMissing path) :=
  ensureFolderWithin_doesOnly _ path

/-! ## Files -/

theorem writablePlace_eq_ok {path : Path} {files : Files} {place : List String} :
    writablePlace path files = .ok place ↔ files.locate path = .ok place ∧ files.get? place ≠ some .folder := by
  refine except_bind_eq_ok.trans ⟨?_, ?_⟩
  · rintro ⟨located, hlocated, h⟩
    split at h
    · cases h
    · next hfolder =>
      obtain rfl := Except.ok.inj h
      exact ⟨hlocated, hfolder⟩
  · rintro ⟨hlocated, hfolder⟩
    refine ⟨place, hlocated, ?_⟩
    split
    · next h => exact absurd h hfolder
    · rfl

theorem filePlace_eq_ok {path : Path} {files : Files} {place : List String} :
    filePlace path files = .ok place ↔ writablePlace path files = .ok place ∧ files.get? place ≠ none := by
  refine except_bind_eq_ok.trans ⟨?_, ?_⟩
  · rintro ⟨writable, hwritable, h⟩
    split at h
    · cases h
    · next hthere =>
      obtain rfl := Except.ok.inj h
      exact ⟨hwritable, by simpa using hthere⟩
  · rintro ⟨hwritable, hthere⟩
    exact ⟨place, hwritable, if_neg (by simpa using hthere)⟩

/-! ## New folders -/

/-- A folder of later files that was missing, on the way to a path. -/
structure IsNewFolder (path : Path) (files later : Files) (place : List String) : Prop where
  missing : files.get? place = none
  isFolder : later.get? place = some .folder
  above_isFolder : later.get? (above place) = some .folder
  onWay : ∃ names, names <+: path.names ∧ later.follow path.start names = .ok place

theorem IsNewFolder.mono {path : Path} {files later last : Files} {place : List String}
    (h : IsNewFolder path files later place) (hkeeps : later.KeepsFolders last) :
    IsNewFolder path files last place := by
  obtain ⟨names, hnames, hfollow⟩ := h.onWay
  exact ⟨h.missing, hkeeps _ h.isFolder, hkeeps _ h.above_isFolder, names, hnames, follow_mono hkeeps hfollow⟩

/-- A folder that is new on the way to the parent of an anchored path is not where the path leads, nor below. -/
theorem IsNewFolder.ne_below {path : Path} {files mid later : Files} {place : List String}
    (hnew : IsNewFolder path.parent files mid place) (hanchored : files.IsAnchored path)
    (hmid : files.KeepsFolders mid) (hlater : mid.KeepsFolders later) {goal : List String}
    (hgoal : later.locate path = .ok goal) (below : List String) : goal ++ below ≠ place := by
  obtain ⟨-, before, after, folder, hsplit, hbefore, hfolder, hafter⟩ := hanchored
  obtain ⟨names, hnames, hplace⟩ := hnew.onWay
  have hmissing := hnew.missing
  have hnamed : names ≠ [] := by
    rintro rfl
    rw [follow_nil] at hplace
    rw [← Except.ok.inj hplace] at hmissing
    cases (get?_of_isBase (isBase_start path)).symm.trans hmissing
  rcases List.prefix_or_prefix_of_prefix (hnames.trans (List.dropLast_prefix _)) ⟨after, hsplit.symm⟩ with
    ⟨rest, hrest⟩ | ⟨rest, rfl⟩
  · -- The folder would be on the way to one that was there.
    rw [← hrest, follow_append_eq_ok] at hbefore
    obtain ⟨mid', hfollow, hthere, hfollow'⟩ := hbefore
    obtain rfl : mid' = place := Except.ok.inj ((follow_mono hmid hfollow).symm.trans hplace)
    by_cases hnothing : rest = []
    · rw [hnothing, follow_nil] at hfollow'
      rw [Except.ok.inj hfollow', hfolder] at hmissing
      cases hmissing
    · rw [hthere hnamed hnothing] at hmissing
      cases hmissing
  · -- Behind the anchor the path only goes on, and it goes on further than to the folder.
    have hgoal := (locate_eq_ok.1 hgoal).2
    rw [hsplit, follow_append_eq_ok] at hgoal
    rw [follow_append_eq_ok] at hplace
    obtain ⟨start, hstart, -, hgoal⟩ := hgoal
    obtain ⟨start', hstart', -, hplace⟩ := hplace
    obtain rfl := Except.ok.inj (hstart.symm.trans (follow_mono (hmid.trans hlater) hbefore))
    obtain rfl := Except.ok.inj (hstart'.symm.trans (follow_mono hmid hbefore))
    have hlength := hnames.length_le
    have hmore : rest <+: after := by
      have hprefix := hnames.trans (List.dropLast_prefix _)
      rwa [hsplit, List.prefix_append_right_inj] at hprefix
    obtain rfl := follow_straight hafter hgoal
    obtain rfl := follow_straight (fun name hname => hafter name (hmore.subset hname)) hplace
    intro hsame
    rw [List.append_assoc, List.append_cancel_left_eq] at hsame
    have hpositive := List.length_pos_iff.2 hnamed
    rw [Path.parent, List.length_dropLast, hsplit, ← hsame] at hlength
    simp only [List.length_append, ← hsame] at hlength hpositive
    omega

/-- Later files that differ by new folders on the way to a path and nothing else. -/
def GainsFolders (path : Path) (files later : Files) : Prop :=
  ∀ place, later.get? place = files.get? place ∨ IsNewFolder path files later place

namespace GainsFolders

variable {path : Path} {files later last : Files}

theorem refl (path : Path) (files : Files) : GainsFolders path files files :=
  fun _ => .inl rfl

theorem keepsFolders (h : GainsFolders path files later) : files.KeepsFolders later := by
  intro place hplace
  rcases h place with hsame | hnew
  · rw [hsame, hplace]
  · exact hnew.isFolder

theorem trans (h : GainsFolders path files later) (h' : GainsFolders path later last) :
    GainsFolders path files last := by
  intro place
  rcases h' place with hsame' | hnew' <;> rcases h place with hsame | hnew
  · exact .inl (hsame'.trans hsame)
  · exact .inr (hnew.mono h'.keepsFolders)
  · exact .inr ⟨hsame ▸ hnew'.missing, hnew'.isFolder, hnew'.above_isFolder, hnew'.onWay⟩
  · cases hnew.isFolder.symm.trans hnew'.missing

theorem of_makesMissing {e : FileEffect} (h : MakesMissing path files e) :
    GainsFolders path files (FileEffect.apply files e) := by
  obtain ⟨place, names, rfl, hnames, hfollow, hmissing, habove⟩ := h
  have hbase : isBase place = false := isBase_of_missing hmissing
  have hkeeps : files.KeepsFolders (files.put place .folder) := by
    intro other hother
    rwa [get?_put_of_ne]
    rintro rfl
    cases hother.symm.trans hmissing
  intro other
  by_cases hsame : other = place
  · rw [hsame]
    exact .inr ⟨hmissing, get?_put_self hbase, hkeeps _ habove, names, hnames, follow_mono hkeeps hfollow⟩
  · exact .inl (get?_put_of_ne hsame)

/-- New folders lie in folders, so a tree stays one. -/
theorem isTree (h : GainsFolders path files later) (ht : files.IsTree) : later.IsTree := by
  intro place hplace
  rcases h place with hsame | hnew
  · rw [hsame] at hplace
    exact h.keepsFolders _ (ht place hplace)
  · exact hnew.above_isFolder

end GainsFolders

/-- **Making folders for a path**, however early it is cut short, leaves new folders on the way and all else as
it was. -/
theorem gainsFolders_of_isTrace {path : Path} {files : Files} {done effects : List FileEffect}
    (h : FileEffect.IsTrace (MakesMissing path) files effects) (hcut : FileEffect.Cut done effects) :
    GainsFolders path files (FileEffect.applyAll files done) := by
  induction hcut generalizing files with
  | stop => exact .refl path files
  | within place content count rest =>
    obtain ⟨⟨_, _, hmade, -⟩, -⟩ := h
    cases hmade
  | next e hcut ih => exact (GainsFolders.of_makesMissing h.1).trans (ih h.2)

end Files
end LabelPress
