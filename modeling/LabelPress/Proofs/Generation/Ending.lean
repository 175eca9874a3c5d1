import LabelPress.Proofs.Generation
import LabelPress.Proofs.Options.Allowed
import LabelPress.Proofs.Pitch

/-!
# How generation ends

Generation refuses options that are not accepted, fails for a height without a pitch, and otherwise gives a
document, whatever the labels are (`generation_endsBy`). An allowed layout has a place for every symbol and room
on every page, so the faults of planning and placing are never met (`made_of_resolved`).
-/

namespace LabelPress

/-- Options that validation lets through: none, validated ones, and a mapping without faults. -/
def Options.IsAccepted : Options → Prop
  | .validated _ => True
  | .given .null => True
  | .given (.map m) => ∃ o, Options.validate m = .ok o
  | .given _ => False

theorem Options.exists_resolve_iff (options : Options) (stock : Stock) :
    (∃ l, (options.resolve stock).outcome = .ok l) ↔ options.IsAccepted := by
  have hresolve : (∃ l, (options.resolve stock).outcome = .ok l) ↔ ∃ o, options.overrides = .ok o := by
    simp only [resolve, Logged.outcome_bind, Logged.outcome_ofExcept, Logged.outcome_report,
      Logged.outcome_pure, except_bind_eq_ok]
    constructor
    · rintro ⟨-, o, ho, -⟩
      exact ⟨o, ho⟩
    · rintro ⟨o, ho⟩
      exact ⟨_, o, ho, (), trivial, rfl⟩
  rw [hresolve]
  unfold overrides IsAccepted
  split
  · exact iff_of_true ⟨_, rfl⟩ trivial
  · exact iff_of_true ⟨_, rfl⟩ trivial
  · simp only [except_mapError_eq_ok]
  · next v hnull hmap =>
    constructor
    · rintro ⟨_, h⟩
      cases h
    · intro h
      cases v with
      | null => exact absurd rfl hnull
      | map m => exact absurd rfl (hmap m)
      | _ => exact h.elim

namespace Generation

/-- How generation ends for options on a stock: they are refused, the height of their layout has no pitch, or
a document comes out. -/
structure EndsBy (options : Options) (stock : Stock) (outcome : Except GenerationError Document) : Prop where
  ends : (∃ e, outcome = .error (.options e)) ∨ outcome = .error (.rendering .noPitch) ∨
    ∃ d, outcome = .ok d
  refused_iff : (∃ e, outcome = .error (.options e)) ↔ ¬options.IsAccepted
  noPitch_iff : outcome = .error (.rendering .noPitch) ↔
    ∃ l, (options.resolve stock).outcome = .ok l ∧ (l .height).ExceedsPitch
  document_iff : (∃ d, outcome = .ok d) ↔
    ∃ l, (options.resolve stock).outcome = .ok l ∧ ¬(l .height).ExceedsPitch

variable {α : Type} {options : Options} {stock : Stock} {l : Layout}
  {commands : Layout → Nat → α → Except RenderFault Block} {label : Layout → Nat → α → Block}
  (hlabel : ∀ l slot item, commands l slot item =
    if l .qrPositions = [] then .error .noQrPosition else .ok (label l slot item))

include hlabel in
/-- Only the pitch can be missing once options are resolved. -/
theorem made_of_resolved (hg : options.IsGenuine) (hl : (options.resolve stock).outcome = .ok l)
    (items : List α) : made options stock commands items = match Pitch.text? (l .height) with
      | none => .error (.rendering .noPitch)
      | some pitch => .ok ⟨l.headerBlock pitch,
          (Page.split ((l .itemsPerPage).toNat - 1) items).map (l.sheet pitch (label l))⟩ := by
  have hallowed := resolve_allows hg hl
  obtain ⟨spare, hroom⟩ := Int.eq_succ_of_zero_lt (hallowed .itemsPerPage)
  have hplaced : l .qrPositions ≠ [] := (hallowed .qrPositions).1
  rw [made_of_room hlabel hl hroom, hroom]
  simp only [hplaced, false_and, if_false]
  rfl

include hlabel in
theorem made_endsBy (hg : options.IsGenuine) (stock : Stock) (items : List α) :
    EndsBy options stock (made options stock commands items) := by
  have haccepted := options.exists_resolve_iff stock
  cases hl : (options.resolve stock).outcome with
  | error e =>
    have hmade : made options stock commands items = .error (.options e) := by
      rw [made, hl]
      rfl
    have hunresolved : ∀ l, (options.resolve stock).outcome ≠ .ok l := by
      intro l hl'
      cases hl.symm.trans hl'
    have hrefused : ¬options.IsAccepted := by
      intro h
      obtain ⟨l, hl'⟩ := haccepted.2 h
      exact hunresolved l hl'
    rw [hmade]
    refine ⟨.inl ⟨e, rfl⟩, iff_of_true ⟨e, rfl⟩ hrefused, iff_of_false ?_ ?_, iff_of_false ?_ ?_⟩
    · intro h
      cases h
    · rintro ⟨l, hl', -⟩
      exact hunresolved l hl'
    · rintro ⟨d, h⟩
      cases h
    · rintro ⟨l, hl', -⟩
      exact hunresolved l hl'
  | ok l =>
    have haccepted := haccepted.1 ⟨l, hl⟩
    have hlayout : ∀ {l'}, (options.resolve stock).outcome = .ok l' → l' = l :=
      fun h => Except.ok.inj (h.symm.trans hl)
    have hpitch := Pitch.text?_eq_none_iff (resolve_allows hg hl .height)
    rw [made_of_resolved hlabel hg hl]
    cases hp : Pitch.text? (l .height) with
    | none =>
      have hexceeds := hpitch.1 hp
      refine ⟨.inr (.inl rfl), iff_of_false ?_ (not_not.2 haccepted), iff_of_true rfl ⟨l, hl, hexceeds⟩,
        iff_of_false ?_ ?_⟩
      · rintro ⟨e, h⟩
        cases h
      · rintro ⟨d, h⟩
        cases h
      · rintro ⟨l', hl', h⟩
        exact h (hlayout hl' ▸ hexceeds)
    | some pitch =>
      have hfits : ¬(l .height).ExceedsPitch := by
        intro h
        cases hp.symm.trans (hpitch.2 h)
      refine ⟨.inr (.inr ⟨_, rfl⟩), iff_of_false ?_ (not_not.2 haccepted), iff_of_false ?_ ?_,
        iff_of_true ⟨_, rfl⟩ ⟨l, hl, hfits⟩⟩
      · rintro ⟨e, h⟩
        cases h
      · intro h
        cases h
      · rintro ⟨l', hl', h⟩
        exact hfits (hlayout hl' ▸ h)

/-- **Generation ends in one of three ways**, for records as for bare values and whatever the size is: the
options are refused, the height is too great for a pitch even if there is nothing to print, or a document
comes out. -/
theorem generation_endsBy {options : Options} (hg : options.IsGenuine) :
    (∀ records stock, EndsBy options stock (assemble records stock options).outcome) ∧
    (∀ size records, EndsBy options (stockOf size) (ofRecords size records options).outcome) ∧
    ∀ values size, EndsBy options (stockOf size) (ofValues values size options).outcome := by
  refine ⟨fun records stock => ?_, fun size records => ?_, fun values size => ?_⟩
  · rw [assemble_outcome]
    exact made_endsBy Layout.recordCommands_eq hg stock records
  · rw [ofRecords_outcome]
    exact made_endsBy Layout.recordCommands_eq hg (stockOf size) records
  · rw [ofValues_outcome]
    exact made_endsBy Layout.valueCommands_eq hg (stockOf size) values

/-- The least power of ten that is too great a height, with nothing to print. -/
theorem generation_endsBy_tooHigh : ∃ options : Options, options.IsGenuine ∧
    (assemble [] .small options).outcome = .error (.rendering .noPitch) ∧
    (∀ records stock, EndsBy options stock (assemble records stock options).outcome) ∧
    (∀ size records, EndsBy options (stockOf size) (ofRecords size records options).outcome) ∧
    ∀ values size, EndsBy options (stockOf size) (ofValues values size options).outcome := by
  refine ⟨.given (.map [(.text "heightMm", .text "1e27")]), trivial, ?_, ?_⟩
  · rfl
  · exact generation_endsBy trivial

end Generation
end LabelPress
