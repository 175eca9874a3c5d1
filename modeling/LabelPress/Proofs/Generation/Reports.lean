import LabelPress.Proofs.Generation

/-!
# Reports on short tables

Of the events on the way to a document the reports on short tables are those of one check, on the layout that the
options resolve to and on the tables that its pages read (`assemble_reports`, `ofValues_reports`). They are made
whether or not a document comes out. The other events are of level debug, but for a warning about the size.
-/

namespace LabelPress

/-- Whether an event reports a table that is too short. -/
def Event.isUnderflow : Event → Bool
  | .underflow .. => true
  | _ => false

namespace Generation
variable {options : Options} {stock : Stock} {l : Layout} {e : Event}

theorem resolve_reports (options : Options) (stock : Stock) :
    (options.resolve stock).events.filter Event.isUnderflow = [] := by
  have hoverriding : ∀ o, (Options.overridingEvents stock o).filter Event.isUnderflow = [] := by
    intro o
    unfold Options.overridingEvents
    split <;> rfl
  rw [Options.resolve, Logged.events_bind, Logged.events_ofExcept, Logged.outcome_ofExcept]
  cases options.overrides with
  | error e => rfl
  | ok o => simpa [Logged.events_bind] using hoverriding o

theorem checkedLayout_reports (hl : (options.resolve stock).outcome = .ok l) (tables : Layout → List Table) :
    (checkedLayout stock options tables).events.filter Event.isUnderflow = underflowEvents stock l (tables l) := by
  have hall : ∀ e ∈ underflowEvents stock l (tables l), e.isUnderflow = true := by
    intro e he
    obtain ⟨u, -, rfl⟩ := List.mem_map.1 he
    rfl
  rw [checkedLayout, Logged.events_bind, Logged.events_mapError, Logged.outcome_mapError, hl, List.filter_append,
    resolve_reports]
  change List.filter Event.isUnderflow (_ >>= _ : Logged _ _).events = _
  rw [Logged.events_bind, List.filter_append, Logged.events_report, List.filter_eq_self.2 hall]
  exact List.append_nil _

/-- What follows the check has nothing more to report on tables. -/
theorem rendering_reports {α : Type} (plan : Except GenerationError (List (List α))) (labels : Nat)
    (render : List (List α) → Except GenerationError Document) :
    (do
      let pages ← Logged.ofExcept plan
      Logged.report [.rendering labels pages.length stock]
      Logged.ofExcept (render pages)).events.filter Event.isUnderflow = [] := by
  rw [Logged.events_bind, Logged.outcome_ofExcept]
  cases plan <;> simp [Logged.events_bind, Event.isUnderflow]

/-- The reports of the check come first, whatever is made of the layout. -/
theorem bind_checkedLayout_reports (hl : (options.resolve stock).outcome = .ok l) (tables : Layout → List Table)
    (rest : Layout → Logged GenerationError Document) :
    (checkedLayout stock options tables >>= rest).events.filter Event.isUnderflow =
      underflowEvents stock l (tables l) ++ (rest l).events.filter Event.isUnderflow := by
  have hchecked : (checkedLayout stock options tables).outcome = .ok l := by
    rw [checkedLayout_outcome, hl]
    rfl
  rw [Logged.events_bind, hchecked, List.filter_append, checkedLayout_reports hl]

theorem assemble_reports (hl : (options.resolve stock).outcome = .ok l) (records : List Record) :
    (assemble records stock options).events.filter Event.isUnderflow = underflowEvents stock l l.recordTables := by
  rw [assemble, bind_checkedLayout_reports hl, rendering_reports]
  exact List.append_nil _

theorem assembleValues_reports (hl : (options.resolve stock).outcome = .ok l) (values : List String) :
    (assembleValues values stock options).events.filter Event.isUnderflow =
      underflowEvents stock l Layout.valueTables := by
  rw [assembleValues, bind_checkedLayout_reports hl, Logged.events_bind, Logged.outcome_ofExcept,
    Logged.events_ofExcept]
  cases (Page.plan values (l .itemsPerPage)).mapError GenerationError.pages <;> simp

/-- What is said of a size is no report on tables. -/
theorem stockFor_reports (size : Size) :
    (stockFor size : Logged GenerationError Stock).events.filter Event.isUnderflow = [] := by
  cases size with
  | stock s => rfl
  | value v =>
    rw [stockFor, resolveSize]
    split <;> rfl

section
variable {size : Size} (hsize : (stockFor size : Logged GenerationError Stock).outcome = .ok stock)
include hsize

theorem bind_stockFor_reports (rest : Stock → Logged GenerationError Document) :
    (stockFor size >>= rest).events.filter Event.isUnderflow = (rest stock).events.filter Event.isUnderflow := by
  rw [Logged.events_bind, List.filter_append, stockFor_reports, hsize]
  rfl

theorem recordsFor_reports (records : List Record) : (recordsFor size records options).events.filter Event.isUnderflow =
    (assemble records stock options).events.filter Event.isUnderflow :=
  bind_stockFor_reports hsize _

theorem valuesFor_reports (values : List String) : (valuesFor values size options).events.filter Event.isUnderflow =
    (assembleValues values stock options).events.filter Event.isUnderflow :=
  bind_stockFor_reports hsize _

end

theorem ofValues_reports {size : Value} (hl : (options.resolve (stockOf size)).outcome = .ok l)
    (values : List String) : (ofValues values size options).events.filter Event.isUnderflow =
      underflowEvents (stockOf size) l Layout.valueTables := by
  have hsize : (stockFor (.value size) : Logged GenerationError Stock).outcome = .ok (stockOf size) :=
    resolveSize_outcome size
  rw [ofValues, valuesFor_reports hsize, assembleValues_reports hl]

/-- Refused options leave nothing to check. -/
theorem checkedLayout_reports_of_error {e : OptionsError} (he : (options.resolve stock).outcome = .error e)
    (tables : Layout → List Table) :
    (checkedLayout stock options tables).events.filter Event.isUnderflow = [] := by
  rw [checkedLayout, Logged.events_bind, Logged.events_mapError, Logged.outcome_mapError, he, List.filter_append,
    resolve_reports]
  rfl

theorem bind_checkedLayout_reports_of_error {e : OptionsError} (he : (options.resolve stock).outcome = .error e)
    (tables : Layout → List Table) (rest : Layout → Logged GenerationError Document) :
    (checkedLayout stock options tables >>= rest).events.filter Event.isUnderflow = [] := by
  have hrefused : (checkedLayout stock options tables).outcome = .error (.options e) := by
    rw [checkedLayout_outcome, he]
    rfl
  rw [Logged.events_bind, hrefused, List.filter_append, checkedLayout_reports_of_error he]
  rfl

/-! ## Other events -/

/-- What is no report on the way to a document is of level debug. -/
theorem mem_checkedLayout_events {tables : Layout → List Table} (he : e ∈ (checkedLayout stock options tables).events) :
    e.isUnderflow = true ∨ e.severity = .debug := by
  simp only [checkedLayout, Options.resolve, Logged.mem_events_bind, Logged.events_mapError, Logged.events_ofExcept,
    Logged.events_report, Logged.events_pure, List.not_mem_nil, and_false, exists_false, or_false, false_or] at he
  rcases he with ⟨o, -, he⟩ | ⟨l, -, he⟩
  · unfold Options.overridingEvents at he
    split at he
    · cases he
    · rw [List.mem_singleton.1 he]
      exact .inr rfl
  · obtain ⟨u, -, rfl⟩ := List.mem_map.1 he
    exact .inl rfl

theorem mem_assemble_events {records : List Record} (he : e ∈ (assemble records stock options).events) :
    e.isUnderflow = true ∨ e.severity = .debug := by
  simp only [assemble, Logged.mem_events_bind, Logged.events_ofExcept, Logged.events_report, List.mem_singleton,
    List.not_mem_nil, and_false, exists_false, or_false, false_or] at he
  rcases he with he | ⟨l, -, pages, -, rfl⟩
  · exact mem_checkedLayout_events he
  · exact .inr rfl

theorem mem_assembleValues_events {values : List String} (he : e ∈ (assembleValues values stock options).events) :
    e.isUnderflow = true ∨ e.severity = .debug := by
  simp only [assembleValues, Logged.mem_events_bind, Logged.events_ofExcept, List.not_mem_nil, and_false, exists_false,
    or_false] at he
  exact mem_checkedLayout_events he

theorem mem_stockFor_events {size : Size} (he : e ∈ (stockFor size : Logged GenerationError Stock).events) :
    ∃ v, e = .unknownSize v := by
  cases size with
  | stock s => cases he
  | value v =>
    rw [stockFor, resolveSize] at he
    split at he
    · cases he
    · exact ⟨v, List.mem_singleton.1 he⟩

end Generation
end LabelPress
