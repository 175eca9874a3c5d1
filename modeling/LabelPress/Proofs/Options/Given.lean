import LabelPress.Options.Validation
import LabelPress.Proofs.Outcome
import LabelPress.Proofs.Value.Mapping

/-!
# What a mapping gives

A key leads to one setting (`Setting.eq_of_mem_keys`), so that settings are given apart from each other. A
mapping is valid if every check accepts and every key is taken (`validate_eq_ok_iff`). Then a setting is given
under one key at most (`given?_of_validate`), and it is chosen exactly if the mapping sets it to something
(`chosen_iff`).
-/

namespace LabelPress

/-! ## The keys of settings -/

namespace Setting

theorem ofKey?_of_mem {s : Setting} {key : String} (h : key ∈ s.keys) : ofKey? key = some s := by
  have hkeys : ∀ s ∈ all, ∀ key ∈ s.keys, ofKey? key = some s := by decide +kernel
  exact hkeys s (mem_all s) key h

/-- A key leads to one setting. -/
theorem eq_of_mem_keys {s t : Setting} {key : String} (hs : key ∈ s.keys) (ht : key ∈ t.keys) : s = t := by
  have hkey := ofKey?_of_mem hs
  rw [ofKey?_of_mem ht] at hkey
  exact (Option.some.inj hkey).symm

theorem name_mem_keys (s : Setting) : s.name ∈ s.keys := by
  cases s <;> decide

theorem name_injective {s t : Setting} (h : s.name = t.name) : s = t :=
  eq_of_mem_keys (name_mem_keys s) (h ▸ name_mem_keys t)

end Setting

/-! ## The key of a setting -/

/-- A mapping sets a setting to a value if the value is under one of the setting's keys. Null sets nothing. -/
def Mapping.Sets (m : Mapping) (s : Setting) (key : String) (v : Value) : Prop :=
  key ∈ s.keys ∧ m.get? key = some v ∧ v ≠ .null

namespace Options
variable {m : Mapping} {s : Setting} {key : String} {v : Value} {o : Overrides}

theorem given?_eq_some (h : given? m s = some (key, v)) : key ∈ s.keys ∧ m.get? key = some v := by
  obtain ⟨other, hmem, hget⟩ := List.exists_of_findSome?_eq_some h
  obtain ⟨w, hw, he⟩ := Option.map_eq_some_iff.1 hget
  obtain ⟨rfl, rfl⟩ := Prod.mk.inj he
  exact ⟨hmem, hw⟩

theorem given?_eq_none_iff : given? m s = none ↔ ∀ key ∈ s.keys, m.get? key = none := by
  simp [given?, List.findSome?_eq_none_iff]

theorem isTaken_iff : isTaken m key = true ↔ ∃ s v, given? m s = some (key, v) := by
  unfold isTaken
  constructor
  · intro h
    split at h
    · cases h
    · next s hs =>
      obtain ⟨⟨other, v⟩, hgiven, rfl⟩ := Option.map_eq_some_iff.1 (beq_iff_eq.1 h)
      exact ⟨s, v, hgiven⟩
  · rintro ⟨s, v, hgiven⟩
    rw [Setting.ofKey?_of_mem (given?_eq_some hgiven).1]
    simp [hgiven]

/-- A taken key is the one under which its setting is given. -/
theorem given?_of_isTaken (htaken : isTaken m key = true) (hkey : key ∈ s.keys)
    (hget : m.get? key = some v) : given? m s = some (key, v) := by
  obtain ⟨t, w, hgiven⟩ := isTaken_iff.1 htaken
  obtain ⟨ht, hw⟩ := given?_eq_some hgiven
  obtain rfl := Setting.eq_of_mem_keys ht hkey
  rw [hget] at hw
  obtain rfl := Option.some.inj hw
  exact hgiven

theorem checkSetting_of_given? (hgiven : given? m s = some (key, v)) (hv : v ≠ .null) :
    checkSetting m s = (check s key v).map some := by
  unfold checkSetting
  rw [hgiven]
  cases v with
  | null => exact absurd rfl hv
  | _ => rfl

theorem checkSetting_eq_some_iff {c : s.Choice} : checkSetting m s = .ok (some c) ↔
    ∃ key v, given? m s = some (key, v) ∧ v ≠ .null ∧ check s key v = .ok c := by
  unfold checkSetting
  split
  · next h => simp [h]
  · next h => simp [h]
  · next key v hnull h =>
    rw [except_map_eq_ok]
    constructor
    · rintro ⟨_, hcheck, hc⟩
      obtain rfl := Option.some.inj hc
      exact ⟨key, v, h, hnull, hcheck⟩
    · rintro ⟨_, _, hgiven, -, hcheck⟩
      rw [h] at hgiven
      obtain ⟨rfl, rfl⟩ := Prod.mk.inj (Option.some.inj hgiven)
      exact ⟨c, hcheck, rfl⟩

theorem checkSetting_eq_none_iff : checkSetting m s = .ok none ↔
    ∀ key v, given? m s = some (key, v) → v = .null := by
  unfold checkSetting
  split
  · next h => simp [h]
  · next h => simp [h]
  · next key v hnull h => simpa [h, except_map_eq_ok] using hnull

/-! ## Checks that fail -/

-- A rejection lists at least one fault, so that no fault means acceptance.

theorem atKey_ne_nil {α : Type} {r : Except OptionFault α} : atKey key r ≠ .error [] := by
  intro h
  obtain ⟨_, -, hnil⟩ := except_mapError_eq_error.1 h
  cases hnil

theorem both_ne_nil {α β : Type} {a : Except (List OptionDetail) α} {b : Except (List OptionDetail) β}
    (ha : a ≠ .error []) (hb : b ≠ .error []) : both a b ≠ .error [] := by
  cases a <;> cases b <;> simp_all [both]

theorem codepage_ne_nil : codepage key v ≠ .error [] := by
  unfold codepage
  intro h
  split at h
  · exact atKey_ne_nil (except_map_eq_error.1 h)
  · split at h
    · cases h
    · exact atKey_ne_nil (except_map_eq_error.1 h)
    · cases h

theorem coordinate_ne_nil {place : Place} {axis : String} {given : Option Value} :
    coordinate place axis given ≠ .error [] := by
  intro h
  cases given with
  | none => cases h
  | some v =>
    obtain ⟨_, -, hnil⟩ := except_mapError_eq_error.1 h
    cases hnil

theorem positionOfMembers_ne_nil {place : Place} : positionOfMembers place m ≠ .error [] := by
  intro h
  refine both_ne_nil (both_ne_nil coordinate_ne_nil coordinate_ne_nil) ?_ (except_map_eq_error.1 h)
  intro hstray
  split at hstray
  · cases hstray
  · next hne => exact hne (Except.error.inj hstray)

theorem entry_ne_nil {place : Place} : entry place v ≠ .error [] := by
  intro h
  unfold entry at h
  split at h
  case h_5 => cases h
  all_goals exact positionOfMembers_ne_nil h

theorem entries_ne_nil {i : Nat} {vs : List Value} : entries key i vs ≠ .error [] := by
  induction vs generalizing i with
  | nil =>
    intro h
    cases h
  | cons v vs ih =>
    intro h
    exact both_ne_nil entry_ne_nil ih (except_map_eq_error.1 h)

theorem positions_ne_nil : positions key v ≠ .error [] := by
  intro h
  unfold positions at h
  split at h
  case h_1 | h_2 =>
    split at h
    · cases h
    · exact entries_ne_nil h
  · split at h
    · cases h
    · next hne => exact hne (List.mapIdx_eq_nil_iff.1 (Except.error.inj h))
  · cases h

theorem qrPositions_ne_nil : qrPositions key v ≠ .error [] := by
  intro h
  unfold qrPositions at h
  split at h
  · cases h
  · exact positions_ne_nil h

theorem check_ne_nil : check s key v ≠ .error [] := by
  cases s with
  | codepage => exact codepage_ne_nil
  | qrPositions => exact qrPositions_ne_nil
  | textPositions | idTextPositions | nameTextPositions => exact positions_ne_nil
  | _ => exact atKey_ne_nil

/-! ## Validation -/

theorem faults_eq_nil_iff : faults m s = [] ↔ checkSetting m s = .ok (choice? m s) := by
  unfold faults choice?
  cases hcheck : checkSetting m s with
  | ok c => exact iff_of_true rfl rfl
  | error ds =>
    refine iff_of_false ?_ (fun h => nomatch h)
    rintro rfl
    unfold checkSetting at hcheck
    split at hcheck
    · cases hcheck
    · cases hcheck
    · exact check_ne_nil (except_map_eq_error.1 hcheck)

theorem strayFault?_eq_none_iff {entry : Value × Value} :
    strayFault? m entry = none ↔ ∃ key, entry.1 = .text key ∧ isTaken m key = true := by
  obtain ⟨k, v⟩ := entry
  cases k <;> simp [strayFault?]

/-- **A mapping is valid if every check accepts and every key is taken.** -/
theorem validate_eq_ok_iff : validate m = .ok o ↔
    (∀ s, checkSetting m s = .ok (o s)) ∧ ∀ entry ∈ m, ∃ key, entry.1 = .text key ∧ isTaken m key = true := by
  have hfaults : allFaults m = [] ↔ (∀ s, checkSetting m s = .ok (choice? m s)) ∧
      ∀ entry ∈ m, ∃ key, entry.1 = .text key ∧ isTaken m key = true := by
    simp [allFaults, Setting.mem_all, faults_eq_nil_iff, strayFault?_eq_none_iff]
  unfold validate
  constructor
  · intro h
    split at h
    · next hnil =>
      obtain rfl := Except.ok.inj h
      rw [Setting.tabulate_eq]
      exact hfaults.1 hnil
    · cases h
  · rintro ⟨hchecks, hkeys⟩
    have ho : choice? m = o := by
      funext s
      rw [choice?, hchecks s]
    subst ho
    rw [hfaults.2 ⟨hchecks, hkeys⟩]
    simp

/-- Mappings whose checks say the same, and whose stray entries have the same faults, validate alike. -/
theorem validate_eq_of_checks {m' : Mapping} (hchecks : ∀ s, checkSetting m s = checkSetting m' s)
    (hstrays : m.filterMap (strayFault? m) = m'.filterMap (strayFault? m')) : validate m = validate m' := by
  have hfaults : faults m = faults m' := by
    funext s
    rw [faults, faults, hchecks]
  have hchoice : choice? m = choice? m' := by
    funext s
    rw [choice?, choice?, hchecks]
  rw [validate, validate, allFaults, allFaults, hfaults, hchoice, hstrays]

/-- A valid mapping gives a setting under one key at most. -/
theorem given?_of_validate (h : validate m = .ok o) (hkey : key ∈ s.keys) (hget : m.get? key = some v) :
    given? m s = some (key, v) := by
  obtain ⟨other, he, htaken⟩ := (validate_eq_ok_iff.1 h).2 _ (Mapping.mem_of_get? hget)
  obtain rfl := Value.text.inj he
  exact given?_of_isTaken htaken hkey hget

theorem chosen_of_sets (h : validate m = .ok o) (hsets : m.Sets s key v) :
    ∃ c, check s key v = .ok c ∧ o s = some c := by
  have hs := (validate_eq_ok_iff.1 h).1 s
  cases hc : o s with
  | none =>
    rw [hc] at hs
    exact absurd (checkSetting_eq_none_iff.1 hs key v (given?_of_validate h hsets.1 hsets.2.1)) hsets.2.2
  | some c =>
    rw [hc] at hs
    obtain ⟨other, w, hgiven, -, hcheck⟩ := checkSetting_eq_some_iff.1 hs
    rw [given?_of_validate h hsets.1 hsets.2.1] at hgiven
    obtain ⟨rfl, rfl⟩ := Prod.mk.inj (Option.some.inj hgiven)
    exact ⟨c, hcheck, rfl⟩

/-- **What is chosen is what the mapping sets, as the check reads it.** -/
theorem chosen_iff (h : validate m = .ok o) {c : s.Choice} :
    o s = some c ↔ ∃ key v, m.Sets s key v ∧ check s key v = .ok c := by
  constructor
  · intro hc
    have hs := (validate_eq_ok_iff.1 h).1 s
    rw [hc] at hs
    obtain ⟨key, v, hgiven, hnull, hcheck⟩ := checkSetting_eq_some_iff.1 hs
    obtain ⟨hkey, hget⟩ := given?_eq_some hgiven
    exact ⟨key, v, ⟨hkey, hget, hnull⟩, hcheck⟩
  · rintro ⟨key, v, hsets, hcheck⟩
    obtain ⟨c', hcheck', hc'⟩ := chosen_of_sets h hsets
    obtain rfl := Except.ok.inj (hcheck.symm.trans hcheck')
    exact hc'

theorem notChosen_iff (h : validate m = .ok o) : o s = none ↔ ∀ key v, ¬ m.Sets s key v := by
  constructor
  · intro hnone key v hsets
    obtain ⟨c, -, hc⟩ := chosen_of_sets h hsets
    rw [hnone] at hc
    cases hc
  · intro hunset
    refine Option.eq_none_iff_forall_ne_some.2 fun c hc => ?_
    obtain ⟨key, v, hsets, -⟩ := (chosen_iff h).1 hc
    exact hunset key v hsets

end Options
end LabelPress
