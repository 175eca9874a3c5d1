import Mathlib.Data.List.Forall2
import Mathlib.Logic.Function.Basic
import LabelPress.Proofs.Options.Allowed

/-!
# Overrides as mappings

A check reads what it has read once more and gets the same (`check_valueOf`), whatever it was read from. So the
mapping of validated overrides, with each setting under its name, validates to these overrides
(`validate_of_isMappingOf`), and so does the mapping with some settings set anew, unless one of them is not
accepted: then its faults are all there are (`validate_of_isMappingOf_except`).
-/

namespace LabelPress

/-! ## Reading again what was read -/

/-- A choice that options can give: if it is a number, it is held as a double. -/
def Setting.IsReal : (s : Setting) → s.Choice → Prop
  | .width, n | .height, n | .gap, n | .speed, n => ∃ x, n = .real x
  | .textXMul, n | .textYMul, n | .nameTextXMul, n | .nameTextYMul, n => ∃ x, n = .real x
  | .density, _ | .ribbonOn, _ | .tearOn, _ | .codepage, _ | .itemsPerPage, _ => True
  | .qrPositions, _ | .textPositions, _ | .idTextPositions, _ | .nameTextPositions, _ => True
  | .qrModel, _ | .qrSize, _ | .qrRotation, _ | .qrMask, _ | .qrErrorLevel, _ => True
  | .textFont, _ | .textRotation, _ | .nameTextFont, _ | .nameTextRotation, _ | .includeIdText, _ => True

namespace Options
variable {s : Setting} {key other : String} {v : Value}

theorem whole_int (n : Int) : whole (.int n) = .ok n := rfl

theorem rotation_int {n : Int} (h : n ∈ rotations) : rotation (.int n) = .ok n :=
  if_pos (List.contains_iff_mem.2 h)

theorem codepage_valueOf {c : Codepage} (h : c.IsBare) : codepage key (valueOf .codepage c) = .ok c := by
  cases c with
  | number n => rfl
  | name s =>
    refine except_map_eq_ok.2 ⟨s, ?_, rfl⟩
    exact atKey_eq_ok.2 (requireBareToken_eq_ok_iff.2 ⟨h, rfl⟩)

/-- A value that writes a position: the position itself, or its coordinates as a pair or under their keys. -/
inductive WritesPosition : Position → Value → Prop where
  | position (p : Position) : WritesPosition p (.position p)
  | list (p : Position) : WritesPosition p (.list [.int p.x, .int p.y])
  | tuple (p : Position) : WritesPosition p (.tuple [.int p.x, .int p.y])
  | members (p : Position) : WritesPosition p (.map (members (.int p.x) (.int p.y)))

/-- A value that writes a table: a list or tuple of values that write its positions. -/
def WritesTable (table : List Position) (v : Value) : Prop :=
  ∃ items, (v = .list items ∨ v = .tuple items) ∧ List.Forall₂ WritesPosition table items

theorem entries_of_writes {table : List Position} {items : List Value} (h : List.Forall₂ WritesPosition table items)
    (hpage : AreOnPage table) (i : Nat) : entries key i items = .ok table := by
  induction h generalizing i with
  | nil => rfl
  | @cons p v table items hp _ ih =>
    obtain ⟨⟨hx, hy⟩, htable⟩ := List.forall_mem_cons.1 hpage
    refine entries_cons_eq_ok_iff.2 ⟨p, table, rfl, ?_, ih htable (i + 1)⟩
    cases hp <;> exact positionOfMembers_members.2 ⟨⟨whole_int p.x, hx⟩, whole_int p.y, hy⟩

/-- A list or tuple of items that are pairs, positions or mappings is read item by item. -/
theorem positions_of_forall₂ {α : Type} {R : α → Value → Prop} (hR : ∀ x item, R x item → isBadPair item = false)
    {xs : List α} {items : List Value} (h : List.Forall₂ R xs items) (hv : v = .list items ∨ v = .tuple items) :
    positions key v = entries key 0 items := by
  have hpairs : items.find? isBadPair = none := by
    rw [List.find?_eq_none]
    clear hv
    induction h with
    | nil => exact fun _ h => nomatch h
    | cons hitem _ ih => exact List.forall_mem_cons.2 ⟨Bool.eq_false_iff.1 (hR _ _ hitem), ih⟩
  obtain rfl | rfl := hv <;> simp only [positions, hpairs]

theorem positions_of_writes {table : List Position} (h : WritesTable table v) (hpage : AreOnPage table) :
    positions key v = .ok table := by
  obtain ⟨items, hv, hitems⟩ := h
  have hpairs : ∀ p item, WritesPosition p item → isBadPair item = false := by
    intro p item hp
    cases hp <;> rfl
  rw [positions_of_forall₂ hpairs hitems hv, entries_of_writes hitems hpage]

theorem writesTable_valueOf (table : List Position) : WritesTable table (valueOf .textPositions table) := by
  refine ⟨_, .inl rfl, List.forall₂_map_right_iff.2 (List.forall₂_same.2 ?_)⟩
  intro p _
  exact .members p

/-- A check accepts the value of an allowed choice and reads the choice, if its numbers are doubles. -/
theorem check_valueOf_of_allows {c : s.Choice} (h : s.Allows c) (hreal : s.IsReal c) :
    check s key (valueOf s c) = .ok c := by
  cases s with
  | width | height | speed | textXMul | textYMul | nameTextXMul | nameTextYMul =>
    obtain ⟨x, rfl⟩ := hreal
    exact atKey_eq_ok.2 (positive_eq_ok_iff.2 ⟨x, rfl, h, rfl⟩)
  | gap =>
    obtain ⟨x, rfl⟩ := hreal
    exact atKey_eq_ok.2 (nonnegative_eq_ok_iff.2 ⟨x, rfl, h, rfl⟩)
  | density | qrSize =>
    refine atKey_eq_ok.2 (wholeWithin_eq_ok_iff.2 ⟨whole_int c, ?_, ?_⟩)
    · rintro _ ⟨⟩
      exact h.1
    · rintro _ ⟨⟩
      exact h.2
  | itemsPerPage =>
    refine atKey_eq_ok.2 (wholeWithin_eq_ok_iff.2 ⟨whole_int c, ?_, fun _ hnone => nomatch hnone⟩)
    rintro _ ⟨⟩
    exact h
  | ribbonOn | tearOn | includeIdText => rfl
  | codepage => exact codepage_valueOf h
  | qrPositions => exact qrPositions_eq_ok_iff.2 ⟨positions_of_writes (writesTable_valueOf c) h.2, h.1⟩
  | textPositions | idTextPositions | nameTextPositions => exact positions_of_writes (writesTable_valueOf c) h
  | qrModel | qrMask | qrErrorLevel => exact atKey_eq_ok.2 (bareToken_eq_ok_iff.2 ⟨rfl, h⟩)
  | textFont | nameTextFont => exact atKey_eq_ok.2 (fontName_eq_ok_iff.2 ⟨rfl, h⟩)
  | qrRotation | textRotation | nameTextRotation => exact atKey_eq_ok.2 (rotation_int h)

/-- The numbers that a check reads are doubles. -/
theorem check_isReal {c : s.Choice} (h : check s key v = .ok c) : s.IsReal c := by
  cases s with
  | width | height | speed | textXMul | textYMul | nameTextXMul | nameTextYMul =>
    obtain ⟨x, -, -, rfl⟩ := positive_eq_ok_iff.1 (atKey_eq_ok.1 h)
    exact ⟨x, rfl⟩
  | gap =>
    obtain ⟨x, -, -, rfl⟩ := nonnegative_eq_ok_iff.1 (atKey_eq_ok.1 h)
    exact ⟨x, rfl⟩
  | _ => trivial

/-- **A check accepts what a check has read, and reads it unchanged.** -/
theorem check_valueOf {c : s.Choice} (h : check s other v = .ok c) : check s key (valueOf s c) = .ok c :=
  check_valueOf_of_allows (check_allows h) (check_isReal h)

theorem valueOf_ne_null (s : Setting) (c : s.Choice) : valueOf s c ≠ .null := by
  have number (n : Number) : valueOf.number n ≠ .null := by
    cases n <;> exact fun h => nomatch h
  cases s with
  | width | height | gap | speed | textXMul | textYMul | nameTextXMul | nameTextYMul => exact number c
  | codepage => cases c <;> exact fun h => nomatch h
  | _ => exact fun h => nomatch h

end Options

/-! ## Mappings of overrides -/

namespace Options

/-- A mapping that gives what overrides choose, each setting under its name, and nothing else. -/
structure IsMappingOf (m : Mapping) (o : Overrides) : Prop where
  plain : ∀ entry ∈ m, ∃ s : Setting, entry.1 = .text s.name
  get?_name : ∀ s : Setting, m.get? s.name = (o s).map (valueOf s)

theorem get?_mappingOf (o : Overrides) (s : Setting) : (mappingOf o).get? s.name = (o s).map (valueOf s) := by
  -- The settings in front of `s` have other names and those behind it are never looked at, so this is said of
  -- any list of settings.
  have hlist : ∀ settings : List Setting,
      Mapping.get? (settings.filterMap fun s => (o s).map fun c => (.text s.name, valueOf s c)) s.name =
        if s ∈ settings then (o s).map (valueOf s) else none := by
    intro settings
    induction settings with
    | nil => rfl
    | cons t settings ih =>
      by_cases hts : t = s
      · subst hts
        cases ht : o t with
        | none => simp [ht, ih]
        | some c => simp [ht]
      · have hne : Value.text t.name ≠ .text s.name := by
          intro he
          exact hts (Setting.name_injective (Value.text.inj he))
        have hst : ¬ s = t := fun he => hts he.symm
        cases ht : o t with
        | none => simp [ht, ih, hst]
        | some c => simp [ht, ih, hst, Mapping.get?_cons_of_ne hne]
  exact (hlist Setting.all).trans (if_pos (Setting.mem_all s))

theorem mappingOf_isMappingOf (o : Overrides) : IsMappingOf (mappingOf o) o := by
  refine ⟨?_, get?_mappingOf o⟩
  intro entry hentry
  obtain ⟨s, -, hs⟩ := List.mem_filterMap.1 hentry
  obtain ⟨c, -, rfl⟩ := Option.map_eq_some_iff.1 hs
  exact ⟨s, rfl⟩

namespace IsMappingOf
variable {m : Mapping} {o : Overrides}

theorem insert (h : IsMappingOf m o) (s : Setting) (c : s.Choice) :
    IsMappingOf (m.insert (.text s.name) (valueOf s c)) (Function.update o s (some c)) := by
  constructor
  · intro entry hentry
    rcases Mapping.mem_insert hentry with hkey | hmem
    · exact ⟨s, hkey⟩
    · exact h.plain entry hmem
  · intro t
    by_cases hts : t = s
    · subst hts
      rw [Mapping.get?_insert_self, Function.update_self]
      rfl
    · have hne : s.name ≠ t.name := fun he => hts (Setting.name_injective he).symm
      rw [Mapping.get?_insert_of_ne m hne, Function.update_of_ne hts]
      exact h.get?_name t

theorem given?_eq (h : IsMappingOf m o) (s : Setting) :
    given? m s = (o s).map fun c => (s.name, valueOf s c) := by
  have hnamed {key : String} {v : Value} (hkey : key ∈ s.keys) (hget : m.get? key = some v) :
      key = s.name := by
    obtain ⟨t, ht⟩ := h.plain _ (Mapping.mem_of_get? hget)
    obtain rfl := Value.text.inj ht
    rw [Setting.eq_of_mem_keys hkey (Setting.name_mem_keys t)]
  cases hs : o s with
  | none =>
    refine given?_eq_none_iff.2 fun key hkey => ?_
    refine Option.eq_none_iff_forall_ne_some.2 fun v hget => ?_
    obtain rfl := hnamed hkey hget
    rw [h.get?_name, hs] at hget
    cases hget
  | some c =>
    have hget := h.get?_name s
    rw [hs] at hget
    cases hgiven : given? m s with
    | none =>
      rw [given?_eq_none_iff.1 hgiven _ (Setting.name_mem_keys s)] at hget
      cases hget
    | some given =>
      obtain ⟨key, v⟩ := given
      obtain ⟨hkey, hv⟩ := given?_eq_some hgiven
      obtain rfl := hnamed hkey hv
      rw [hget] at hv
      obtain rfl := Option.some.inj hv
      rfl

theorem isTaken (h : IsMappingOf m o) {entry : Value × Value} (hentry : entry ∈ m) :
    ∃ key, entry.1 = .text key ∧ isTaken m key = true := by
  obtain ⟨s, hs⟩ := h.plain entry hentry
  obtain ⟨k, v⟩ := entry
  subst hs
  obtain ⟨w, hw⟩ := Mapping.exists_get?_of_mem hentry
  rw [h.get?_name] at hw
  obtain ⟨c, hc, -⟩ := Option.map_eq_some_iff.1 hw
  refine ⟨s.name, rfl, isTaken_iff.2 ⟨s, valueOf s c, ?_⟩⟩
  rw [h.given?_eq, hc]
  rfl

theorem checkSetting_eq (h : IsMappingOf m o) (s : Setting) :
    checkSetting m s = match o s with
      | none => .ok none
      | some c => (check s s.name (valueOf s c)).map some := by
  have hgiven := h.given?_eq s
  cases hc : o s with
  | none => rw [checkSetting, hgiven, hc, Option.map_none]
  | some c =>
    rw [hc] at hgiven
    exact checkSetting_of_given? hgiven (valueOf_ne_null s c)

end IsMappingOf

/-- What is chosen for a setting is what its check reads from the value of the choice. -/
def IsStableAt (o : Overrides) (s : Setting) : Prop :=
  ∀ c, o s = some c → check s s.name (valueOf s c) = .ok c

theorem isStableAt_of_validate {m : Mapping} {o : Overrides} (h : validate m = .ok o) (s : Setting) :
    IsStableAt o s := by
  intro c hc
  obtain ⟨_, _, -, hcheck⟩ := (chosen_iff h).1 hc
  exact check_valueOf hcheck

theorem isStableAt_none (s : Setting) : IsStableAt Overrides.none s :=
  fun _ h => nomatch h

variable {m : Mapping} {o : Overrides}

theorem IsMappingOf.checkSetting_eq_ok (h : IsMappingOf m o) {s : Setting} (hs : IsStableAt o s) :
    checkSetting m s = .ok (o s) := by
  rw [h.checkSetting_eq]
  cases hc : o s with
  | none => rfl
  | some c => exact except_map_eq_ok.2 ⟨c, hs c hc, rfl⟩

/-- **The mapping of stable overrides validates to them.** -/
theorem validate_of_isMappingOf (h : IsMappingOf m o) (hstable : ∀ s, IsStableAt o s) : validate m = .ok o :=
  validate_eq_ok_iff.2 ⟨fun s => h.checkSetting_eq_ok (hstable s), fun _ => h.isTaken⟩

/-- If the choice for one setting is not accepted, the faults are those of this setting. -/
theorem validate_of_isMappingOf_except (h : IsMappingOf m o) {s : Setting}
    (hstable : ∀ t, t ≠ s → IsStableAt o t) {c : s.Choice} (hc : o s = some c) {details : List OptionDetail}
    (hcheck : check s s.name (valueOf s c) = .error details) :
    validate m = .error (OptionDetail.sort details) := by
  have hs : faults m s = details := by
    unfold faults
    rw [h.checkSetting_eq, hc]
    dsimp only
    rw [hcheck]
    rfl
  have hothers {settings : List Setting} (hmem : s ∉ settings) : settings.flatMap (faults m) = [] := by
    refine List.flatMap_eq_nil_iff.2 fun t ht => ?_
    have hts : t ≠ s := by
      rintro rfl
      exact hmem ht
    unfold faults
    rw [h.checkSetting_eq_ok (hstable t hts)]
  -- A setting is listed once, so its faults are.
  have hall : Setting.all.flatMap (faults m) = details := by
    obtain ⟨before, after, heq⟩ := List.append_of_mem (Setting.mem_all s)
    have hnodup : Setting.all.Nodup := by decide
    rw [heq] at hnodup ⊢
    obtain ⟨-, hcons, hdisjoint⟩ := List.nodup_append.1 hnodup
    have hbefore : s ∉ before := fun hmem => hdisjoint s hmem s List.mem_cons_self rfl
    rw [List.flatMap_append, List.flatMap_cons, hothers hbefore, hothers (List.nodup_cons.1 hcons).1, hs,
      List.append_nil, List.nil_append]
  have hstray : m.filterMap (strayFault? m) = [] := by
    rw [List.filterMap_eq_nil_iff]
    exact fun entry hentry => strayFault?_eq_none_iff.2 (h.isTaken hentry)
  unfold validate allFaults
  rw [hall, hstray, List.append_nil]
  split
  · exact absurd hcheck check_ne_nil
  · rfl

end Options
end LabelPress
