import LabelPress.Proofs.Number.Exact
import LabelPress.Proofs.Options.Canonical
import Mathlib.Algebra.Order.Field.Power

/-!
# Printable layouts

What a printer asks of a layout, setting by setting (`Layout.IsPrintable`). The layouts that options can resolve to
are those that are printable and take every setting from the stock or from a choice that options can give
(`resolvesTo_iff_isPrintable`): nothing that is not printable comes through a validation, whatever a caller gives,
and no printable choice is kept out.
-/

namespace LabelPress

/-! ## Numbers above a bound -/

namespace Number

/-- A number that is infinite, or whose value is greater than a bound. -/
def IsAbove (bound : ℚ) (n : Number) : Prop :=
  n = .real (.infinite false) ∨ ∃ v, n.value? = some v ∧ bound < v

/-- A number that is infinite, or whose value is a bound or greater. -/
def IsAtLeast (bound : ℚ) (n : Number) : Prop :=
  n = .real (.infinite false) ∨ ∃ v, n.value? = some v ∧ bound ≤ v

theorem isPositive_iff {n : Number} : n.isPositive = true ↔ n.IsAbove 0 := by
  cases n with
  | whole k => simp [isPositive, IsAbove, value?]
  | real x =>
    cases x with
    | nan => simp [isPositive, Binary64.isPositive, IsAbove, value?, Binary64.value?]
    | infinite negative => simp [isPositive, Binary64.isPositive, IsAbove, value?, Binary64.value?]
    | finite negative m e =>
      have hunit : (0 : ℚ) < 2 ^ e := zpow_pos two_pos e
      have hvalue : (0 : ℚ) ≤ m * 2 ^ e := mul_nonneg m.cast_nonneg hunit.le
      cases negative with
      | true => simp [isPositive, Binary64.isPositive, IsAbove, value?, Binary64.value?, not_lt.2 hvalue]
      | false =>
        simp [isPositive, Binary64.isPositive, IsAbove, value?, Binary64.value?, hunit, Nat.pos_iff_ne_zero]

theorem isNonnegative_iff {n : Number} : n.isNonnegative = true ↔ n.IsAtLeast 0 := by
  cases n with
  | whole k => simp [isNonnegative, IsAtLeast, value?]
  | real x =>
    cases x with
    | nan => simp [isNonnegative, Binary64.isNonnegative, IsAtLeast, value?, Binary64.value?]
    | infinite negative => simp [isNonnegative, Binary64.isNonnegative, IsAtLeast, value?, Binary64.value?]
    | finite negative m e =>
      have hunit : (0 : ℚ) < 2 ^ e := zpow_pos two_pos e
      have hvalue : (0 : ℚ) ≤ m * 2 ^ e := mul_nonneg m.cast_nonneg hunit.le
      cases negative with
      | true =>
        simp [isNonnegative, Binary64.isNonnegative, IsAtLeast, value?, Binary64.value?, mul_nonpos_iff,
          hunit.le, not_le.2 hunit]
      | false => simp [isNonnegative, Binary64.isNonnegative, IsAtLeast, value?, Binary64.value?, hvalue]

theorem isPositive_of_value {n : Number} {v : ℚ} (h : n.value? = some v) : n.isPositive = true ↔ 0 < v := by
  rw [isPositive_iff, IsAbove, h, or_iff_right]
  · simp
  · rintro rfl
    cases h

theorem isNonnegative_of_value {n : Number} {v : ℚ} (h : n.value? = some v) : n.isNonnegative = true ↔ 0 ≤ v := by
  rw [isNonnegative_iff, IsAtLeast, h, or_iff_right]
  · simp
  · rintro rfl
    cases h

end Number

/-! ## Layouts -/

/-- A text that can stand bare between two commas of a command. -/
def IsUnquotedArgument (s : String) : Prop :=
  s ≠ "" ∧ ∀ c ∈ s.toList, c ∉ [',', '"', ' ', '\t', '\r', '\n']

/-- A text that can stand between the quotes of a command. -/
def IsQuotedArgument (s : String) : Prop :=
  s ≠ "" ∧ ∀ c ∈ s.toList, c ∉ ['"', '\r', '\n']

/-- A rotation that printers know. -/
def IsQuarterTurn (n : Int) : Prop :=
  n = 0 ∨ n = 90 ∨ n = 180 ∨ n = 270

/-- What rendering and the printer rely on. -/
structure Layout.IsPrintable (l : Layout) : Prop where
  width : (l .width).IsAbove 0
  height : (l .height).IsAbove 0
  gap : (l .gap).IsAtLeast 0
  speed : (l .speed).IsAbove 0
  density : 0 ≤ l .density ∧ l .density ≤ 15
  itemsPerPage : 1 ≤ l .itemsPerPage
  qrSize : 1 ≤ l .qrSize ∧ l .qrSize ≤ 10
  qrPlaced : l .qrPositions ≠ []
  onPage : ∀ t : Table, ∀ p ∈ l.table t, 0 ≤ p.x ∧ 0 ≤ p.y
  qrRotation : IsQuarterTurn (l .qrRotation)
  textRotation : IsQuarterTurn (l .textRotation)
  nameTextRotation : IsQuarterTurn (l .nameTextRotation)
  textMul : (l .textXMul).IsAbove 0 ∧ (l .textYMul).IsAbove 0
  nameTextMul : (l .nameTextXMul).IsAbove 0 ∧ (l .nameTextYMul).IsAbove 0
  qrModel : IsUnquotedArgument (l .qrModel)
  qrMask : IsUnquotedArgument (l .qrMask)
  qrErrorLevel : IsUnquotedArgument (l .qrErrorLevel)
  codepage : ∀ name, l .codepage = .name name → IsUnquotedArgument name
  textFont : IsQuotedArgument (l .textFont)
  nameTextFont : IsQuotedArgument (l .nameTextFont)

theorem isUnquotedArgument_iff {s : String} : IsUnquotedArgument s ↔ IsBareToken s := by
  refine and_congr_right fun _ => forall₂_congr fun c _ => ?_
  simp only [Options.splitsArgument, List.contains_iff_mem, Bool.eq_false_iff, ne_eq, List.mem_cons,
    List.not_mem_nil, or_false]
  tauto

theorem isQuotedArgument_iff {s : String} : IsQuotedArgument s ↔ IsFontName s := by
  refine and_congr_right fun _ => forall₂_congr fun c _ => ?_
  simp only [Options.endsQuoted, List.contains_iff_mem, Bool.eq_false_iff, ne_eq]

theorem isQuarterTurn_iff {n : Int} : IsQuarterTurn n ↔ n ∈ Options.rotations := by
  simp [IsQuarterTurn, Options.rotations]

theorem Codepage.isBare_iff {c : Codepage} : c.IsBare ↔ ∀ name, c = .name name → IsUnquotedArgument name := by
  cases c <;> simp [IsBare, isUnquotedArgument_iff]

/-- A layout is printable exactly when every choice in it is allowed for its setting. -/
theorem Layout.isPrintable_iff {l : Layout} : l.IsPrintable ↔ l.IsAllowed := by
  constructor
  · intro h s
    cases s with
    | width => exact Number.isPositive_iff.2 h.width
    | height => exact Number.isPositive_iff.2 h.height
    | gap => exact Number.isNonnegative_iff.2 h.gap
    | speed => exact Number.isPositive_iff.2 h.speed
    | density => exact h.density
    | ribbonOn | tearOn | includeIdText => trivial
    | codepage => exact Codepage.isBare_iff.2 h.codepage
    | itemsPerPage => exact h.itemsPerPage
    | qrPositions => exact ⟨h.qrPlaced, h.onPage .qr⟩
    | textPositions => exact h.onPage .text
    | idTextPositions => exact h.onPage .idText
    | nameTextPositions => exact h.onPage .nameText
    | qrModel => exact isUnquotedArgument_iff.1 h.qrModel
    | qrSize => exact h.qrSize
    | qrRotation => exact isQuarterTurn_iff.1 h.qrRotation
    | qrMask => exact isUnquotedArgument_iff.1 h.qrMask
    | qrErrorLevel => exact isUnquotedArgument_iff.1 h.qrErrorLevel
    | textFont => exact isQuotedArgument_iff.1 h.textFont
    | textRotation => exact isQuarterTurn_iff.1 h.textRotation
    | textXMul => exact Number.isPositive_iff.2 h.textMul.1
    | textYMul => exact Number.isPositive_iff.2 h.textMul.2
    | nameTextFont => exact isQuotedArgument_iff.1 h.nameTextFont
    | nameTextRotation => exact isQuarterTurn_iff.1 h.nameTextRotation
    | nameTextXMul => exact Number.isPositive_iff.2 h.nameTextMul.1
    | nameTextYMul => exact Number.isPositive_iff.2 h.nameTextMul.2
  · intro h
    exact {
      width := Number.isPositive_iff.1 (h .width)
      height := Number.isPositive_iff.1 (h .height)
      gap := Number.isNonnegative_iff.1 (h .gap)
      speed := Number.isPositive_iff.1 (h .speed)
      density := h .density
      itemsPerPage := h .itemsPerPage
      qrSize := h .qrSize
      qrPlaced := (h .qrPositions).1
      onPage := by
        intro t
        cases t with
        | qr => exact (h .qrPositions).2
        | text => exact h .textPositions
        | idText => exact h .idTextPositions
        | nameText => exact h .nameTextPositions
      qrRotation := isQuarterTurn_iff.2 (h .qrRotation)
      textRotation := isQuarterTurn_iff.2 (h .textRotation)
      nameTextRotation := isQuarterTurn_iff.2 (h .nameTextRotation)
      textMul := ⟨Number.isPositive_iff.1 (h .textXMul), Number.isPositive_iff.1 (h .textYMul)⟩
      nameTextMul := ⟨Number.isPositive_iff.1 (h .nameTextXMul), Number.isPositive_iff.1 (h .nameTextYMul)⟩
      qrModel := isUnquotedArgument_iff.2 (h .qrModel)
      qrMask := isUnquotedArgument_iff.2 (h .qrMask)
      qrErrorLevel := isUnquotedArgument_iff.2 (h .qrErrorLevel)
      codepage := Codepage.isBare_iff.1 (h .codepage)
      textFont := isQuotedArgument_iff.2 (h .textFont)
      nameTextFont := isQuotedArgument_iff.2 (h .nameTextFont) }

/-! ## What options resolve to -/

/-- A layout that takes each setting from the stock or from a choice that options can give. -/
def Layout.IsGivenOver (l : Layout) (stock : Stock) : Prop :=
  ∀ s : Setting, l s = stock.layout s ∨ s.IsReal (l s)

theorem Options.overrides_isReal {options : Options} (hg : options.IsGenuine) {o : Overrides}
    (h : options.overrides = .ok o) {s : Setting} {c : s.Choice} (hc : o s = some c) : s.IsReal c := by
  have validated {m : Mapping} (hm : validate m = .ok o) : s.IsReal c := by
    obtain ⟨_, _, -, hcheck⟩ := (chosen_iff hm).1 hc
    exact check_isReal hcheck
  unfold overrides at h
  split at h
  · obtain rfl := Except.ok.inj h
    obtain ⟨m, hm⟩ := hg
    exact validated hm
  · obtain rfl := Except.ok.inj h
    cases hc
  · exact validated (except_mapError_eq_ok.1 h)
  · cases h

theorem Options.resolve_isGivenOver {stock : Stock} {options : Options} (hg : options.IsGenuine) {l : Layout}
    (h : (options.resolve stock).outcome = .ok l) : l.IsGivenOver stock := by
  obtain ⟨o, ho, rfl⟩ := resolve_eq_ok_iff.1 h
  intro s
  cases hc : o s with
  | none => exact .inl (Layout.override_of_none hc)
  | some c =>
    rw [Layout.override_of_some hc]
    exact .inr (overrides_isReal hg ho hc)

open Classical in
/-- The choices of a layout that options can give. -/
noncomputable def Layout.givenChoices (l : Layout) : Overrides :=
  fun s => if s.IsReal (l s) then some (l s) else none

/-- An allowed layout is what the mapping of its own choices resolves to. -/
theorem Layout.IsAllowed.resolve_mappingOf {l : Layout} (h : l.IsAllowed) {stock : Stock}
    (hgiven : l.IsGivenOver stock) :
    ((Options.given (.map (Options.mappingOf l.givenChoices))).resolve stock).outcome = .ok l := by
  have hvalid : Options.validate (Options.mappingOf l.givenChoices) = .ok l.givenChoices := by
    refine Options.validate_of_isMappingOf (Options.mappingOf_isMappingOf _) fun s c hc => ?_
    unfold givenChoices at hc
    split at hc
    · next hreal =>
      obtain rfl := Option.some.inj hc
      exact Options.check_valueOf_of_allows (h s) hreal
    · cases hc
  have hoverride : stock.layout.override l.givenChoices = l := by
    funext s
    by_cases hreal : s.IsReal (l s)
    · exact override_of_some (if_pos hreal)
    · rw [override_of_none (if_neg hreal)]
      exact ((hgiven s).resolve_right hreal).symm
  exact Options.resolve_eq_ok_iff.2 ⟨l.givenChoices, except_mapError_eq_ok.2 hvalid, hoverride⟩

/-- **Options resolve to printable layouts only, and to all of them** that differ from the stock by choices that
options can give. -/
theorem resolvesTo_iff_isPrintable (stock : Stock) (l : Layout) :
    (∃ options : Options, options.IsGenuine ∧ (options.resolve stock).outcome = .ok l) ↔
      l.IsPrintable ∧ l.IsGivenOver stock := by
  rw [Layout.isPrintable_iff]
  constructor
  · rintro ⟨options, hg, h⟩
    exact ⟨resolve_allows hg h, Options.resolve_isGivenOver hg h⟩
  · rintro ⟨hallowed, hgiven⟩
    exact ⟨.given (.map (Options.mappingOf l.givenChoices)), trivial, hallowed.resolve_mappingOf hgiven⟩

end LabelPress
