import LabelPress.Proofs.Options.Given
import Mathlib.Data.List.Basic

/-!
# Names of options

A setting goes by its name, by its name in one word with capitals, and in one case by a third word. Which of
them a mapping uses makes no difference to what is read, and shows in the places of faults only
(`validate_rename`): checks are told the key just to say where a fault is. A mapping that gives a setting
under two names at once is never valid.
-/

namespace LabelPress

/-! ## Names of settings -/

/-- The characters of a name in one word: a letter behind an underscore is a capital in its place. -/
def camelChars : List Char → List Char
  | '_' :: c :: cs => c.toUpper :: camelChars cs
  | c :: cs => c :: camelChars cs
  | [] => []

namespace Setting
variable {s t : Setting} {key : String} {ρ : String → String}

/-- Whether a setting goes by a name. -/
def GoesBy (s : Setting) (key : String) : Prop :=
  key = s.name ∨ key = String.ofList (camelChars s.name.toList) ∨ s = .itemsPerPage ∧ key = "itemsPerRow"

instance (s : Setting) (key : String) : Decidable (s.GoesBy key) :=
  inferInstanceAs (Decidable (_ ∨ _ ∨ _))

theorem goesBy_iff : s.GoesBy key ↔ key ∈ s.keys := by
  have hkeys : ∀ s ∈ all, ∀ key ∈ s.keys, s.GoesBy key := by decide +kernel
  have hnames : ∀ s ∈ all, s.name ∈ s.keys ∧ String.ofList (camelChars s.name.toList) ∈ s.keys := by
    decide +kernel
  constructor
  · rintro (rfl | rfl | ⟨rfl, rfl⟩)
    · exact (hnames s (mem_all s)).1
    · exact (hnames s (mem_all s)).2
    · decide
  · exact hkeys s (mem_all s) key

theorem eq_of_goesBy (hs : s.GoesBy key) (ht : t.GoesBy key) : s = t :=
  eq_of_mem_keys (goesBy_iff.1 hs) (goesBy_iff.1 ht)

/-- Whether a change of keys only takes names of a setting to names of the same setting. -/
def IsRenaming (ρ : String → String) : Prop :=
  ∀ key, ρ key = key ∨ ∃ s : Setting, s.GoesBy key ∧ s.GoesBy (ρ key)

theorem IsRenaming.goesBy_iff (h : IsRenaming ρ) : s.GoesBy (ρ key) ↔ s.GoesBy key := by
  rcases h key with heq | ⟨t, hkey, hnew⟩
  · rw [heq]
  · constructor
    · intro hs
      obtain rfl := eq_of_goesBy hs hnew
      exact hkey
    · intro hs
      obtain rfl := eq_of_goesBy hs hkey
      exact hnew

end Setting

/-! ## Mappings by their names -/

namespace Mapping
variable {m : Mapping} {s : Setting} {key key' : String} {v v' : Value} {ρ : String → String}
  {keep : Value × Value → Bool}

/-- Whether a mapping names a setting, be it with null. -/
def Names (m : Mapping) (s : Setting) (key : String) (v : Value) : Prop :=
  s.GoesBy key ∧ (.text key, v) ∈ m

/-- Whether all keys are texts. -/
def HasTextKeys (m : Mapping) : Prop :=
  ∀ entry ∈ m, ∃ key, entry.1 = .text key

/-- Whether no setting is named by two entries. -/
def NamesOnce (m : Mapping) : Prop :=
  ∀ ⦃s key key' v v'⦄, m.Names s key v → m.Names s key' v' → key = key' ∧ v = v'

/-- The mapping with other text keys. -/
def rename (ρ : String → String) (m : Mapping) : Mapping :=
  m.map fun
    | (.text key, v) => (.text (ρ key), v)
    | entry => entry

theorem mem_rename_text : (.text key, v) ∈ m.rename ρ ↔ ∃ old, (.text old, v) ∈ m ∧ ρ old = key := by
  simp only [rename, List.mem_map]
  constructor
  · rintro ⟨⟨k, w⟩, hmem, heq⟩
    cases k with
    | text old =>
      obtain ⟨hkey, rfl⟩ := Prod.mk.inj heq
      exact ⟨old, hmem, Value.text.inj hkey⟩
    | _ => cases (Prod.mk.inj heq).1
  · rintro ⟨old, hmem, rfl⟩
    exact ⟨_, hmem, rfl⟩

theorem names_rename (hρ : Setting.IsRenaming ρ) :
    (m.rename ρ).Names s key v ↔ ∃ old, m.Names s old v ∧ ρ old = key := by
  constructor
  · rintro ⟨hkey, hmem⟩
    obtain ⟨old, hold, rfl⟩ := mem_rename_text.1 hmem
    exact ⟨old, ⟨hρ.goesBy_iff.1 hkey, hold⟩, rfl⟩
  · rintro ⟨old, ⟨hkey, hmem⟩, rfl⟩
    exact ⟨hρ.goesBy_iff.2 hkey, mem_rename_text.2 ⟨old, hmem, rfl⟩⟩

theorem NamesOnce.rename (h : m.NamesOnce) (hρ : Setting.IsRenaming ρ) : (m.rename ρ).NamesOnce := by
  intro s key key' v v' hkey hkey'
  obtain ⟨old, hold, rfl⟩ := (names_rename hρ).1 hkey
  obtain ⟨old', hold', rfl⟩ := (names_rename hρ).1 hkey'
  obtain ⟨rfl, rfl⟩ := h hold hold'
  exact ⟨rfl, rfl⟩

theorem NamesOnce.filter (h : m.NamesOnce) : NamesOnce (m.filter keep) := by
  intro s key key' v v' hkey hkey'
  exact h ⟨hkey.1, (List.mem_filter.1 hkey.2).1⟩ ⟨hkey'.1, (List.mem_filter.1 hkey'.2).1⟩

end Mapping

/-- The place of a fault with another key in front. -/
def OptionDetail.rename (ρ : String → String) : OptionDetail → OptionDetail
  | ⟨.key key :: steps, fault⟩ => ⟨.key (ρ key) :: steps, fault⟩
  | d => d

namespace Options
variable {m : Mapping} {s : Setting} {key : String} {v : Value} {ρ : String → String}
  {keep : Value × Value → Bool}

/-! ## What is given under a name -/

theorem names_of_given? (h : given? m s = some (key, v)) : m.Names s key v := by
  obtain ⟨hkey, hget⟩ := given?_eq_some h
  exact ⟨Setting.goesBy_iff.2 hkey, Mapping.mem_of_get? hget⟩

theorem given?_of_names (h : m.Names s key v) (honly : ∀ other w, m.Names s other w → other = key ∧ w = v) :
    given? m s = some (key, v) := by
  cases hgiven : given? m s with
  | none =>
    obtain ⟨w, hget⟩ := Mapping.exists_get?_of_mem h.2
    rw [given?_eq_none_iff.1 hgiven key (Setting.goesBy_iff.1 h.1)] at hget
    cases hget
  | some entry =>
    obtain ⟨rfl, rfl⟩ := honly _ _ (names_of_given? hgiven)
    rfl

theorem given?_eq_some_iff (h : m.NamesOnce) : given? m s = some (key, v) ↔ m.Names s key v := by
  constructor
  · exact names_of_given?
  · intro hnames
    exact given?_of_names hnames fun _ _ hother => h hother hnames

theorem given?_rename (h : m.NamesOnce) (hρ : Setting.IsRenaming ρ) :
    given? (m.rename ρ) s = (given? m s).map fun (key, v) => (ρ key, v) := by
  ext ⟨key, v⟩
  rw [given?_eq_some_iff (h.rename hρ), Mapping.names_rename hρ]
  constructor
  · rintro ⟨old, hold, rfl⟩
    exact Option.map_eq_some_iff.2 ⟨_, (given?_eq_some_iff h).2 hold, rfl⟩
  · intro hmap
    obtain ⟨⟨old, w⟩, hgiven, heq⟩ := Option.map_eq_some_iff.1 hmap
    obtain ⟨rfl, rfl⟩ := Prod.mk.inj heq
    exact ⟨old, (given?_eq_some_iff h).1 hgiven, rfl⟩

/-- With each setting named once, the keys that are taken are those that name one. -/
theorem isTaken_iff_goesBy (h : m.NamesOnce) (hmem : (.text key, v) ∈ m) :
    isTaken m key = true ↔ ∃ s : Setting, s.GoesBy key := by
  rw [isTaken_iff]
  constructor
  · rintro ⟨s, w, hgiven⟩
    exact ⟨s, ((given?_eq_some_iff h).1 hgiven).1⟩
  · rintro ⟨s, hkey⟩
    exact ⟨s, v, (given?_eq_some_iff h).2 ⟨hkey, hmem⟩⟩

/-! ## Checks under another key -/

-- A check puts its key in front of every place and does nothing else with it. Each part of a check is
-- followed for itself, from the coordinates of a position up to the table.

theorem atKey_rename {α : Type} (r : Except OptionFault α) :
    atKey (ρ key) r = (atKey key r).mapError (List.map (OptionDetail.rename ρ)) := by
  cases r <;> rfl

theorem codepage_rename :
    codepage (ρ key) v = (codepage key v).mapError (List.map (OptionDetail.rename ρ)) := by
  unfold codepage
  split
  · rw [atKey_rename, except_mapError_map]
  · split
    · rfl
    · rw [atKey_rename, except_mapError_map]
    · rfl

theorem both_mapError {α β : Type} (f : OptionDetail → OptionDetail) (a : Except (List OptionDetail) α)
    (b : Except (List OptionDetail) β) :
    both (a.mapError (List.map f)) (b.mapError (List.map f)) = (both a b).mapError (List.map f) := by
  cases a <;> cases b <;> simp [both, Except.mapError]

section
variable {steps : Place}

theorem coordinate_rename (axis : String) (given : Option Value) :
    coordinate (.key (ρ key) :: steps) axis given =
      (coordinate (.key key :: steps) axis given).mapError (List.map (OptionDetail.rename ρ)) := by
  cases given with
  | none => rfl
  | some v =>
    simp only [coordinate]
    cases wholeWithin (some 0) none .notAtLeast v <;> rfl

theorem strayMembers_rename (m : Mapping) :
    strayMembers (.key (ρ key) :: steps) m =
      (strayMembers (.key key :: steps) m).map (OptionDetail.rename ρ) := by
  rw [strayMembers, strayMembers, List.map_filterMap]
  congr 1
  funext entry
  split <;> rfl

theorem positionOfMembers_rename (m : Mapping) :
    positionOfMembers (.key (ρ key) :: steps) m =
      (positionOfMembers (.key key :: steps) m).mapError (List.map (OptionDetail.rename ρ)) := by
  simp only [positionOfMembers, coordinate_rename, strayMembers_rename, both_mapError]
  generalize both (coordinate (.key key :: steps) "x" _) _ = coordinates
  cases strayMembers (.key key :: steps) m <;> cases coordinates <;>
    simp [both, Except.mapError, Except.map]

theorem entry_rename (v : Value) :
    entry (.key (ρ key) :: steps) v =
      (entry (.key key :: steps) v).mapError (List.map (OptionDetail.rename ρ)) := by
  unfold entry
  split
  case h_5 => rfl
  all_goals exact positionOfMembers_rename _

end

theorem entries_rename (i : Nat) (vs : List Value) :
    entries (ρ key) i vs = (entries key i vs).mapError (List.map (OptionDetail.rename ρ)) := by
  induction vs generalizing i with
  | nil => rfl
  | cons v vs ih => rw [entries, entries, entry_rename, ih, both_mapError, except_mapError_map]

theorem positions_rename :
    positions (ρ key) v = (positions key v).mapError (List.map (OptionDetail.rename ρ)) := by
  unfold positions
  split
  case h_1 | h_2 =>
    split
    · rfl
    · exact entries_rename 0 _
  case h_3 =>
    split
    · rfl
    · refine congrArg Except.error (List.ext_getElem? fun i => ?_)
      simp [OptionDetail.rename, Function.comp_def]
  case h_4 => rfl

theorem qrPositions_rename :
    qrPositions (ρ key) v = (qrPositions key v).mapError (List.map (OptionDetail.rename ρ)) := by
  unfold qrPositions
  rw [positions_rename]
  cases positions key v with
  | error ds => rfl
  | ok ps => cases ps <;> rfl

/-- A check under another key reads the same, or finds the same faults under that key. -/
theorem check_rename (s : Setting) :
    check s (ρ key) v = (check s key v).mapError (List.map (OptionDetail.rename ρ)) := by
  cases s with
  | codepage => exact codepage_rename
  | qrPositions => exact qrPositions_rename
  | textPositions | idTextPositions | nameTextPositions => exact positions_rename
  | _ => exact atKey_rename _

/-! ## Validation under other names -/

theorem checkSetting_rename (h : m.NamesOnce) (hρ : Setting.IsRenaming ρ) :
    checkSetting (m.rename ρ) s = (checkSetting m s).mapError (List.map (OptionDetail.rename ρ)) := by
  rw [checkSetting, checkSetting, given?_rename h hρ]
  cases given? m s with
  | none => rfl
  | some entry =>
    obtain ⟨key, v⟩ := entry
    cases v with
    | null => rfl
    | _ =>
      simp only [Option.map_some]
      rw [check_rename, except_mapError_map]

theorem strayFault?_rename (h : m.NamesOnce) (hρ : Setting.IsRenaming ρ) (hmem : (.text key, v) ∈ m) :
    strayFault? (m.rename ρ) (.text (ρ key), v) =
      (strayFault? m (.text key, v)).map (OptionDetail.rename ρ) := by
  have htaken : isTaken (m.rename ρ) (ρ key) = isTaken m key := by
    rw [Bool.eq_iff_iff, isTaken_iff_goesBy h hmem,
      isTaken_iff_goesBy (h.rename hρ) (Mapping.mem_rename_text.2 ⟨key, hmem, rfl⟩)]
    simp only [hρ.goesBy_iff]
  simp only [strayFault?, htaken]
  split <;> rfl

theorem allFaults_rename (htext : m.HasTextKeys) (h : m.NamesOnce) (hρ : Setting.IsRenaming ρ) :
    allFaults (m.rename ρ) = (allFaults m).map (OptionDetail.rename ρ) := by
  have hfaults : faults (m.rename ρ) = fun s => (faults m s).map (OptionDetail.rename ρ) := by
    funext s
    rw [faults, faults, checkSetting_rename h hρ]
    cases checkSetting m s <;> rfl
  have hstrays : (m.rename ρ).filterMap (strayFault? (m.rename ρ)) =
      (m.filterMap (strayFault? m)).map (OptionDetail.rename ρ) := by
    have hstray : ∀ key v, (.text key, v) ∈ m → strayFault? (m.rename ρ) (.text (ρ key), v) =
        (strayFault? m (.text key, v)).map (OptionDetail.rename ρ) := fun _ _ => strayFault?_rename h hρ
    generalize strayFault? (m.rename ρ) = stray at hstray
    rw [Mapping.rename, List.filterMap_map, List.map_filterMap]
    refine List.filterMap_congr fun entry hmem => ?_
    obtain ⟨k, v⟩ := entry
    obtain ⟨key, hkey⟩ := htext _ hmem
    obtain rfl : k = .text key := hkey
    exact hstray key v hmem
  rw [allFaults, allFaults, hfaults, hstrays, List.map_append, List.map_flatMap]

/-- Whether two outcomes are the same but for names: both accept and choose the same, or both reject with the
same details, each under the key that it has now. -/
def SameUpToNames (ρ : String → String) (a b : Except (List OptionDetail) Overrides) : Prop :=
  match a, b with
  | .ok o, .ok o' => o' = o
  | .error ds, .error ds' => ds'.Perm (ds.map (OptionDetail.rename ρ))
  | _, _ => False

theorem validate_rename (htext : m.HasTextKeys) (h : m.NamesOnce) (hρ : Setting.IsRenaming ρ) :
    SameUpToNames ρ (validate m) (validate (m.rename ρ)) := by
  have hchoice : choice? (m.rename ρ) = choice? m := by
    funext s
    rw [choice?, choice?, checkSetting_rename h hρ]
    cases checkSetting m s <;> rfl
  rw [validate, validate, allFaults_rename htext h hρ, hchoice]
  cases allFaults m with
  | nil => exact rfl
  | cons d ds =>
    exact (List.mergeSort_perm _ _).trans ((List.mergeSort_perm _ _).map _).symm

/-! ## Nulls under names -/

/-- Whether all that is left out of a mapping is null under a name of a setting. -/
def OmitsNulls (keep : Value × Value → Bool) (m : Mapping) : Prop :=
  ∀ entry ∈ m, keep entry = false → ∃ (s : Setting) (key : String), s.GoesBy key ∧ entry = (.text key, .null)

theorem checkSetting_filter (h : m.NamesOnce) (hkeep : OmitsNulls keep m) :
    checkSetting (m.filter keep) s = checkSetting m s := by
  cases hgiven : given? m s with
  | none =>
    have hleft : given? (m.filter keep) s = none := by
      refine Option.eq_none_iff_forall_ne_some.2 fun ⟨key, v⟩ hsome => ?_
      have hnames := (given?_eq_some_iff h.filter).1 hsome
      rw [(given?_eq_some_iff h).2 ⟨hnames.1, (List.mem_filter.1 hnames.2).1⟩] at hgiven
      cases hgiven
    rw [checkSetting, checkSetting, hgiven, hleft]
  | some entry =>
    obtain ⟨key, v⟩ := entry
    have hnames := (given?_eq_some_iff h).1 hgiven
    cases hk : keep (.text key, v) with
    | true =>
      have hleft : given? (m.filter keep) s = some (key, v) :=
        (given?_eq_some_iff h.filter).2 ⟨hnames.1, List.mem_filter.2 ⟨hnames.2, hk⟩⟩
      rw [checkSetting, checkSetting, hgiven, hleft]
    | false =>
      obtain ⟨_, _, -, heq⟩ := hkeep _ hnames.2 hk
      obtain rfl := (Prod.mk.inj heq).2
      have hwas : checkSetting m s = .ok none := by rw [checkSetting, hgiven]
      rw [hwas, checkSetting_eq_none_iff]
      intro other w hsome
      have hleft := (given?_eq_some_iff h.filter).1 hsome
      exact (h ⟨hleft.1, (List.mem_filter.1 hleft.2).1⟩ hnames).2

theorem strayFault?_filter (h : m.NamesOnce) {entry : Value × Value} (hmem : entry ∈ m.filter keep) :
    strayFault? (m.filter keep) entry = strayFault? m entry := by
  obtain ⟨k, v⟩ := entry
  cases k with
  | text key =>
    have htaken : isTaken (m.filter keep) key = isTaken m key := by
      rw [Bool.eq_iff_iff, isTaken_iff_goesBy h (List.mem_filter.1 hmem).1,
        isTaken_iff_goesBy h.filter hmem]
    simp only [strayFault?, htaken]
  | _ => rfl

/-- Null under a name is like nothing. -/
theorem validate_filter (h : m.NamesOnce) (hkeep : OmitsNulls keep m) :
    validate (m.filter keep) = validate m := by
  have hstrays : (m.filter keep).filterMap (strayFault? (m.filter keep)) = m.filterMap (strayFault? m) := by
    rw [List.filterMap_congr fun entry => strayFault?_filter h, List.filterMap_filter]
    refine List.filterMap_congr fun entry hmem => ?_
    split
    · rfl
    · next hk =>
      -- What is left out has a key that is taken, so that it was no fault before.
      obtain ⟨s, key, hkey, rfl⟩ := hkeep entry hmem (Bool.eq_false_iff.2 hk)
      exact (strayFault?_eq_none_iff.2 ⟨key, rfl, (isTaken_iff_goesBy h hmem).2 ⟨s, hkey⟩⟩).symm
  exact validate_eq_of_checks (fun _ => checkSetting_filter h hkeep) hstrays

/-! ## Two names at once -/

theorem exists_rejected_of_names {key' : String} {v' : Value} (hne : key ≠ key') (h : m.Names s key v)
    (h' : m.Names s key' v') : ∃ details, validate m = .error details := by
  cases hvalid : validate m with
  | error details => exact ⟨details, rfl⟩
  | ok o =>
    obtain ⟨w, hget⟩ := Mapping.exists_get?_of_mem h.2
    obtain ⟨w', hget'⟩ := Mapping.exists_get?_of_mem h'.2
    have hgiven := given?_of_validate hvalid (Setting.goesBy_iff.1 h.1) hget
    rw [given?_of_validate hvalid (Setting.goesBy_iff.1 h'.1) hget'] at hgiven
    exact absurd (Prod.mk.inj (Option.some.inj hgiven)).1.symm hne

/-- **Names are interchangeable.** Where no setting is named twice, other names for the same settings give the
same outcome but for the keys in the places of faults, and nulls may as well be left out. Where one is, the
mapping is rejected. -/
theorem names_interchangeable (m : Mapping) :
    (m.NamesOnce →
      (m.HasTextKeys → ∀ ρ, Setting.IsRenaming ρ → SameUpToNames ρ (validate m) (validate (m.rename ρ))) ∧
      ∀ keep, OmitsNulls keep m → validate (m.filter keep) = validate m) ∧
    ∀ s key key' v v', key ≠ key' → m.Names s key v → m.Names s key' v' →
      ∃ details, validate m = .error details := by
  refine ⟨fun h => ⟨fun htext ρ hρ => validate_rename htext h hρ, fun keep hkeep => validate_filter h hkeep⟩,
    ?_⟩
  intro s key key' v v' hne hkey hkey'
  exact exists_rejected_of_names hne hkey hkey'

theorem names_interchangeable_width :
    let m : Mapping := [(.text "widthMm", .text "wide"), (.text "gap_mm", .null)]
    let ρ := fun key => if key = "widthMm" then "width_mm" else key
    SameUpToNames ρ (validate m) (validate (m.rename ρ)) ∧
      validate (m.filter fun entry => !entry.2.isNull) = validate m ∧
      ∃ details, validate [(.text "gapMm", .int 3), (.text "gap_mm", .null)] = .error details := by
  intro m ρ
  have hwidth : ∀ s : Setting, s.GoesBy "widthMm" → ¬ s.GoesBy "gap_mm" := by
    intro s hw hg
    obtain rfl : s = .width := Setting.eq_of_goesBy hw (by decide)
    revert hg
    decide
  have honce : m.NamesOnce := by
    intro s key key' v v' ⟨hkey, hmem⟩ ⟨hkey', hmem'⟩
    simp only [m, List.mem_cons, Prod.mk.injEq, Value.text.injEq, List.not_mem_nil, or_false] at hmem hmem'
    obtain ⟨rfl, rfl⟩ | ⟨rfl, rfl⟩ := hmem <;> obtain ⟨rfl, rfl⟩ | ⟨rfl, rfl⟩ := hmem'
    · exact ⟨rfl, rfl⟩
    · exact absurd hkey' (hwidth s hkey)
    · exact absurd hkey (hwidth s hkey')
    · exact ⟨rfl, rfl⟩
  have htext : m.HasTextKeys := by simp [Mapping.HasTextKeys, m]
  have hρ : Setting.IsRenaming ρ := by
    intro key
    by_cases h : key = "widthMm"
    · exact .inr ⟨.width, by subst h; decide, by subst h; decide⟩
    · exact .inl (if_neg h)
  have hkeep : OmitsNulls (fun entry => !entry.2.isNull) m := by
    intro entry hmem hnull
    obtain rfl | rfl : entry = _ ∨ entry = _ := by simpa [m] using hmem
    · cases hnull
    · exact ⟨.gap, "gap_mm", by decide, rfl⟩
  obtain ⟨hsame, -⟩ := names_interchangeable m
  exact ⟨(hsame honce).1 htext ρ hρ, (hsame honce).2 _ hkeep,
    (names_interchangeable _).2 .gap "gapMm" "gap_mm" (.int 3) .null (by decide) ⟨by decide, by simp⟩
      ⟨by decide, by simp⟩⟩

end Options
end LabelPress
