import LabelPress.Proofs.Options.Canonical
import LabelPress.Sources

/-!
# Options of a file and of the caller

The overrides of an options file are written as a mapping under the names of the settings, the caller's are put
in, and the result is validated again. Nothing is lost on the way, and no key of the file stands beside that of
the caller: the result is the overrides of the file with those of the caller in their place
(`buildOptions_precedence`).
-/

namespace LabelPress.Sources

open Options

/-- Overrides with what a caller sets in their place. -/
def DirectOptions.over (direct : DirectOptions) (o : Overrides) : Overrides
  | .itemsPerPage => direct.itemsPerPage <|> o .itemsPerPage
  | .includeIdText => if direct.includeId then some true else o .includeIdText
  | s => o s

/-- A number of items that is zero or below. -/
def DirectOptions.IsRefused (direct : DirectOptions) : Prop :=
  ∃ n ∈ direct.itemsPerPage, n ≤ 0

theorem DirectOptions.over_eq_update (direct : DirectOptions) (o : Overrides) :
    direct.over o =
      let fromItems : Overrides := match direct.itemsPerPage with
        | some n => Function.update o .itemsPerPage (some n)
        | none => o
      if direct.includeId then Function.update fromItems .includeIdText (some true) else fromItems := by
  obtain ⟨itemsPerPage, includeId⟩ := direct
  funext s
  cases itemsPerPage <;> cases includeId <;> cases s <;> rfl

theorem DirectOptions.over_of_unset {direct : DirectOptions} (hitems : direct.itemsPerPage = none)
    (hid : direct.includeId = false) (o : Overrides) : direct.over o = o := by
  rw [over_eq_update, hitems, hid]
  rfl

/-! ## Combining -/

theorem combine_eq_validate (direct : DirectOptions) (o : Overrides) : ∃ m, IsMappingOf m (direct.over o) ∧
    combine direct o = (validate m).mapError fun details => .invalid (.invalid details) := by
  refine ⟨_, ?_, rfl⟩
  rw [DirectOptions.over_eq_update]
  have hitems : IsMappingOf
      (match direct.itemsPerPage with
        | some n => (mappingOf o).insert (.text Setting.itemsPerPage.name) (.int n)
        | none => mappingOf o)
      (match direct.itemsPerPage with
        | some n => Function.update o .itemsPerPage (some n)
        | none => o) := by
    cases direct.itemsPerPage with
    | none => exact mappingOf_isMappingOf o
    | some n => exact (mappingOf_isMappingOf o).insert .itemsPerPage n
  cases direct.includeId with
  | false => exact hitems
  | true => exact hitems.insert .includeIdText true

theorem check_itemsPerPage (key : String) (n : Int) : check .itemsPerPage key (.int n) =
    if n ≤ 0 then .error [⟨[.key key], .notGreater 0⟩] else .ok n := by
  have hcount : count (.int n) = if n < 1 then .error (.notGreater 0) else .ok n := rfl
  change atKey key (count (.int n)) = _
  rw [hcount]
  by_cases hn : n ≤ 0
  · rw [if_pos hn, if_pos (by omega)]
    rfl
  · rw [if_neg hn, if_neg (by omega)]
    rfl

variable {direct : DirectOptions} {o : Overrides}

theorem isStableAt_over (ho : ∀ s, IsStableAt o s) {s : Setting} (hs : s ≠ .itemsPerPage) :
    IsStableAt (direct.over o) s := by
  cases s with
  | itemsPerPage => exact absurd rfl hs
  | includeIdText => exact fun _ _ => rfl
  | _ => exact ho _

theorem combine_of_refused (ho : ∀ s, IsStableAt o s) (h : direct.IsRefused) :
    combine direct o =
      .error (.invalid (.invalid [⟨[.key Setting.itemsPerPage.name], .notGreater 0⟩])) := by
  obtain ⟨n, hmem, hn⟩ := h
  obtain ⟨m, hm, hcombine⟩ := combine_eq_validate direct o
  have hitems : direct.over o .itemsPerPage = some n := by
    rw [DirectOptions.over, Option.mem_def.1 hmem]
    rfl
  have hcheck := (check_itemsPerPage Setting.itemsPerPage.name n).trans (if_pos hn)
  rw [hcombine, validate_of_isMappingOf_except hm (fun _ ht => isStableAt_over ho ht) hitems hcheck,
    OptionDetail.sort, List.mergeSort_singleton]
  rfl

theorem combine_of_not_refused (ho : ∀ s, IsStableAt o s) (h : ¬ direct.IsRefused) :
    combine direct o = .ok (direct.over o) := by
  obtain ⟨m, hm, hcombine⟩ := combine_eq_validate direct o
  rw [hcombine]
  refine except_mapError_eq_ok.2 (validate_of_isMappingOf hm fun s => ?_)
  -- The number of items is the one choice of the caller that no check has seen.
  by_cases hs : s = .itemsPerPage
  · subst hs
    intro n hn
    cases hitems : direct.itemsPerPage with
    | none =>
      rw [DirectOptions.over, hitems] at hn
      exact ho .itemsPerPage n hn
    | some k =>
      rw [DirectOptions.over, hitems] at hn
      obtain rfl := Option.some.inj hn
      exact (check_itemsPerPage _ k).trans (if_neg fun hk => h ⟨k, hitems, hk⟩)
  · exact isStableAt_over ho hs

/-! ## With an options file and without -/

/-- The mapping of an options file, empty if there is no file. -/
def ReadsAs (room : Nat) (files : Files) : Option Path → Mapping → Prop
  | none, raw => raw = []
  | some path, raw => (readOptions room files path).outcome = .ok raw

theorem validate_nil : validate [] = .ok Overrides.none := by
  refine validate_of_isMappingOf ⟨fun _ h => absurd h List.not_mem_nil, fun s => rfl⟩ fun s => ?_
  exact isStableAt_none s

theorem buildOptions_outcome {room : Nat} {files : Files} {optionsFile : Option Path} {raw : Mapping}
    (hraw : ReadsAs room files optionsFile raw) (direct : DirectOptions) :
    (buildOptions room files optionsFile direct).outcome = (do
      let fromFile ← validateApartFromSize raw
      let overrides ← combine direct fromFile
      return ((raw.get? sizeKey).getD .null, overrides)) := by
  cases optionsFile with
  | none =>
    obtain rfl : raw = [] := hraw
    have hnone : validateApartFromSize [] = .ok Overrides.none := except_mapError_eq_ok.2 validate_nil
    simp only [buildOptions, Logged.outcome_bind, Logged.outcome_ofExcept, Logged.outcome_pure, hnone]
    rfl
  | some path =>
    have hread : (readOptions room files path).outcome = .ok raw := hraw
    simp only [buildOptions, Logged.outcome_bind, hread, Logged.outcome_ofExcept, Logged.outcome_pure]
    rfl

theorem buildOptions_of_rejected {room : Nat} {files : Files} {optionsFile : Option Path} {raw : Mapping}
    (hraw : ReadsAs room files optionsFile raw) (direct : DirectOptions) {details : List OptionDetail}
    (h : validate (raw.erase sizeKey) = .error details) :
    (buildOptions room files optionsFile direct).outcome = .error (.invalid (.invalid details)) := by
  rw [buildOptions_outcome hraw, validateApartFromSize, h]
  rfl

theorem buildOptions_of_valid {room : Nat} {files : Files} {optionsFile : Option Path} {raw : Mapping}
    (hraw : ReadsAs room files optionsFile raw) (direct : DirectOptions) {o : Overrides}
    (h : validate (raw.erase sizeKey) = .ok o) :
    (buildOptions room files optionsFile direct).outcome =
      (combine direct o).map fun overrides => ((raw.get? sizeKey).getD .null, overrides) := by
  have hfile : validateApartFromSize raw = .ok o := except_mapError_eq_ok.2 h
  rw [buildOptions_outcome hraw, hfile]
  change (combine direct o >>= fun overrides => pure ((raw.get? sizeKey).getD .null, overrides)) = _
  cases combine direct o <;> rfl

/-- With nothing set by the caller the overrides are those of loading the file. -/
theorem buildOptions_of_unset {room : Nat} {files : Files} {path : Path} {direct : DirectOptions}
    (hitems : direct.itemsPerPage = none) (hid : direct.includeId = false) :
    (buildOptions room files (some path) direct).outcome.map Prod.snd = (loadOptions room files path).outcome := by
  have hnotRefused : ¬ direct.IsRefused := by
    rintro ⟨n, hn, -⟩
    rw [hitems] at hn
    cases hn
  have hload : (loadOptions room files path).outcome =
      (readOptions room files path).outcome >>= validateApartFromSize := by
    simp only [loadOptions, Logged.outcome_bind, Logged.outcome_ofExcept]
  cases hread : (readOptions room files path).outcome with
  | error e =>
    rw [hload, hread]
    simp only [buildOptions, Logged.outcome_bind, hread]
    rfl
  | ok raw =>
    have hraw : ReadsAs room files (some path) raw := hread
    rw [hload, hread]
    cases hvalid : validate (raw.erase sizeKey) with
    | error details =>
      rw [buildOptions_of_rejected hraw direct hvalid]
      have hfile : validateApartFromSize raw = .error (.invalid (.invalid details)) :=
        except_mapError_eq_error.2 ⟨details, hvalid, rfl⟩
      exact hfile.symm
    | ok o =>
      rw [buildOptions_of_valid hraw direct hvalid,
        combine_of_not_refused (isStableAt_of_validate hvalid) hnotRefused, direct.over_of_unset hitems hid]
      exact (except_mapError_eq_ok.2 hvalid).symm

/-- **What the caller sets counts more than the options file, and the rest of the file is as it is read.** Building
fails exactly if the file is not valid apart from its size, or the caller's number of items is not positive, and
always as a rejection of options. With nothing set by the caller the overrides are those of loading the file. -/
theorem buildOptions_precedence {room : Nat} {files : Files} {optionsFile : Option Path} {raw : Mapping}
    (hraw : ReadsAs room files optionsFile raw) (direct : DirectOptions) :
    ((∃ details, (buildOptions room files optionsFile direct).outcome = .error (.invalid (.invalid details))) ↔
      (∃ details, validate (raw.erase sizeKey) = .error details) ∨ direct.IsRefused) ∧
    (∀ o, validate (raw.erase sizeKey) = .ok o → ¬ direct.IsRefused →
      (buildOptions room files optionsFile direct).outcome =
        .ok ((raw.get? sizeKey).getD .null, direct.over o)) ∧
    ∀ path, optionsFile = some path → direct.itemsPerPage = none → direct.includeId = false →
      (buildOptions room files optionsFile direct).outcome.map Prod.snd = (loadOptions room files path).outcome := by
  refine ⟨?_, ?_, ?_⟩
  · cases hvalid : validate (raw.erase sizeKey) with
    | error details =>
      exact iff_of_true ⟨details, buildOptions_of_rejected hraw direct hvalid⟩ (.inl ⟨details, rfl⟩)
    | ok o =>
      have hbuild := buildOptions_of_valid hraw direct hvalid
      have ho := isStableAt_of_validate hvalid
      by_cases hrefused : direct.IsRefused
      · rw [combine_of_refused ho hrefused] at hbuild
        exact iff_of_true ⟨_, hbuild⟩ (.inr hrefused)
      · rw [combine_of_not_refused ho hrefused] at hbuild
        refine iff_of_false ?_ ?_
        · rintro ⟨details, h⟩
          rw [hbuild] at h
          cases h
        · rintro (⟨details, h⟩ | h)
          · cases h
          · exact hrefused h
  · intro o hvalid hnotRefused
    rw [buildOptions_of_valid hraw direct hvalid,
      combine_of_not_refused (isStableAt_of_validate hvalid) hnotRefused]
    rfl
  · rintro path rfl hitems hid
    exact buildOptions_of_unset hitems hid

/-- An options file with a size and a number of items under the oldest of its keys. -/
def threePerRow : Files :=
  ⟨[(["o.yaml"], .file "size: large\nitemsPerRow: 3\n".toUTF8)]⟩

/-- The number of the caller takes the place of that of the file; zero is refused whatever the file says. -/
theorem buildOptions_precedence_threePerRow :
    ∃ raw o, (readOptions 8 threePerRow (Path.ofText "o.yaml")).outcome = .ok raw ∧
      validate (raw.erase sizeKey) = .ok o ∧ o .itemsPerPage = some 3 ∧
      (buildOptions 8 threePerRow (some (Path.ofText "o.yaml")) ⟨some 2, true⟩).outcome =
        .ok ((raw.get? sizeKey).getD .null, (⟨some 2, true⟩ : DirectOptions).over o) ∧
      ∃ details, (buildOptions 8 threePerRow (some (Path.ofText "o.yaml")) ⟨some 0, true⟩).outcome =
        .error (.invalid (.invalid details)) := by
  have hchosen : ((readOptions 8 threePerRow (Path.ofText "o.yaml")).outcome.toOption.bind fun raw =>
      (validate (raw.erase sizeKey)).toOption.map fun o => o .itemsPerPage) = some (some 3) := by
    decide +kernel
  obtain ⟨raw, hraw, hvalid⟩ := Option.bind_eq_some_iff.1 hchosen
  obtain ⟨o, ho, hthree⟩ := Option.map_eq_some_iff.1 hvalid
  have hraw := except_toOption_eq_some.1 hraw
  have ho := except_toOption_eq_some.1 ho
  have hfile : ReadsAs 8 threePerRow (some (Path.ofText "o.yaml")) raw := hraw
  have htwo : ¬ (⟨some 2, true⟩ : DirectOptions).IsRefused := by
    rintro ⟨n, hn, hle⟩
    obtain rfl := Option.some.inj hn
    omega
  refine ⟨raw, o, hraw, ho, hthree, ?_, ?_⟩
  · exact (buildOptions_precedence hfile ⟨some 2, true⟩).2.1 o ho htwo
  · exact (buildOptions_precedence hfile ⟨some 0, true⟩).1.2 (.inr ⟨0, rfl, Int.le_refl 0⟩)

end LabelPress.Sources
