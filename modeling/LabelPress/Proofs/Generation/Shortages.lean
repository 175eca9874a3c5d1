import LabelPress.Proofs.Generation.Ending
import LabelPress.Proofs.Generation.Reports

/-!
# Who is to blame for a short table

A generation reports on each table that it checks and that falls short, in their order, and blames the caller unless
the stock has the table and the items of a page just so (`Generation.underflows_blame`). What it reports is decided by
the items of a page and the tables alone, so nothing else that options set can add a report or change its level.
-/

namespace LabelPress

/-! ## Short tables -/

namespace Layout

/-- A table that has entries, but fewer than a page has items. -/
def FallsShort (l : Layout) (t : Table) : Prop :=
  0 < (l.table t).length ∧ ((l.table t).length : Int) < l .itemsPerPage

instance (l : Layout) : DecidablePred l.FallsShort :=
  fun t => inferInstanceAs (Decidable (0 < (l.table t).length ∧ ((l.table t).length : Int) < l .itemsPerPage))

/-- A table that is that of the stock, on pages for as many items as those of the stock. -/
def KeepsTable (l : Layout) (stock : Stock) (t : Table) : Prop :=
  l .itemsPerPage = stock.layout .itemsPerPage ∧ l.table t = stock.layout.table t

end Layout

/-- What labels are made of. -/
inductive LabelKind where
  | records
  | values

/-- The tables that are checked for labels of a kind. -/
def LabelKind.tables : LabelKind → Layout → List Table
  | .records, l => if l .includeIdText then [.qr, .nameText, .idText] else [.qr, .nameText]
  | .values, _ => [.qr, .text]

/-- A report on a table: it gives the entries and the items of a page, and blames the caller exactly if the stock does
not have the table so. -/
structure Event.ReportsOn (stock : Stock) (l : Layout) (t : Table) (e : Event) : Prop where
  report : ∃ builtIn, e = .underflow ⟨t, (l.table t).length, l .itemsPerPage⟩ builtIn
  info_iff : e.severity = .info ↔ l.KeepsTable stock t
  warning_iff : e.severity = .warning ↔ ¬ l.KeepsTable stock t

namespace Generation
variable {options options' : Options} {stock : Stock} {l l' : Layout} {kind : LabelKind} {tables : List Table}
  {g g' : Logged GenerationError Document} {e : Event}

/-- The report on a table that falls short. -/
def shortageEvent (stock : Stock) (l : Layout) (t : Table) : Event :=
  .underflow ⟨t, (l.table t).length, l .itemsPerPage⟩
    (l .itemsPerPage = stock.layout .itemsPerPage && l.table t = stock.layout.table t)

theorem shortageEvent_reportsOn (stock : Stock) (l : Layout) (t : Table) :
    Event.ReportsOn stock l t (shortageEvent stock l t) := by
  have hseverity : (shortageEvent stock l t).severity =
      if l .itemsPerPage = stock.layout .itemsPerPage ∧ l.table t = stock.layout.table t then .info else .warning := by
    simp [shortageEvent, Event.severity]
  refine ⟨⟨_, rfl⟩, ?_, ?_⟩
  all_goals
    rw [hseverity, Layout.KeepsTable]
    split <;> simp_all

theorem underflowEvents_eq (stock : Stock) (l : Layout) (tables : List Table) :
    underflowEvents stock l tables = (tables.filter l.FallsShort).map (shortageEvent stock l) := by
  unfold underflowEvents Layout.underflows
  induction tables with
  | nil => rfl
  | cons t tables ih =>
    have hreport : Underflow.ofTable? l t =
      if l.FallsShort t then some ⟨t, (l.table t).length, l .itemsPerPage⟩ else none := rfl
    rw [List.filterMap_cons, hreport, List.filter_cons]
    by_cases ht : l.FallsShort t
    · simp only [ht, if_true, decide_true, List.map_cons, ih]
      rfl
    · simpa only [ht, if_false, decide_false, Bool.false_eq_true] using ih

/-- Reports depend on the items of a page and the tables that are checked, and on nothing else. -/
theorem underflowEvents_congr (hpage : l .itemsPerPage = l' .itemsPerPage)
    (htables : ∀ t ∈ tables, l.table t = l'.table t) :
    underflowEvents stock l tables = underflowEvents stock l' tables := by
  have hshort : tables.filter l.FallsShort = tables.filter l'.FallsShort := by
    refine List.filter_congr fun t ht => decide_eq_decide.2 ?_
    rw [Layout.FallsShort, Layout.FallsShort, htables t ht, hpage]
  rw [underflowEvents_eq, underflowEvents_eq, hshort]
  refine List.map_congr_left fun t ht => ?_
  rw [shortageEvent, shortageEvent, htables t (List.mem_of_mem_filter ht), hpage]

/-! ## Events of a generation -/

/-- The generations of labels of a kind with some options on a stock, which is given or which a size stands for. -/
inductive Generates (options : Options) (stock : Stock) : LabelKind → Logged GenerationError Document → Prop
  | assemble (records : List Record) : Generates options stock .records (assemble records stock options)
  | recordsFor {size : Size} (hsize : (stockFor size : Logged GenerationError Stock).outcome = .ok stock)
    (records : List Record) : Generates options stock .records (recordsFor size records options)
  | valuesFor {size : Size} (hsize : (stockFor size : Logged GenerationError Stock).outcome = .ok stock)
    (values : List String) : Generates options stock .values (valuesFor values size options)

theorem assemble_reports_tables (hl : (options.resolve stock).outcome = .ok l) (records : List Record) :
    (assemble records stock options).events.filter Event.isUnderflow =
      underflowEvents stock l (LabelKind.records.tables l) := by
  have htables : l.recordTables = LabelKind.records.tables l := by
    simp only [Layout.recordTables, LabelKind.tables]
    split <;> rfl
  rw [assemble_reports hl, htables]

theorem Generates.reports (h : Generates options stock kind g) (hl : (options.resolve stock).outcome = .ok l) :
    g.events.filter Event.isUnderflow = underflowEvents stock l (kind.tables l) := by
  cases h with
  | assemble records => exact assemble_reports_tables hl records
  | recordsFor hsize records => rw [recordsFor_reports hsize, assemble_reports_tables hl]
  | valuesFor hsize values =>
    rw [valuesFor_reports hsize, assembleValues_reports hl]
    rfl

theorem Generates.reports_of_error (h : Generates options stock kind g) {error : OptionsError}
    (he : (options.resolve stock).outcome = .error error) : g.events.filter Event.isUnderflow = [] := by
  cases h with
  | assemble records => exact bind_checkedLayout_reports_of_error he _ _
  | recordsFor hsize records => exact (recordsFor_reports hsize records).trans (bind_checkedLayout_reports_of_error he _ _)
  | valuesFor hsize values => exact (valuesFor_reports hsize values).trans (bind_checkedLayout_reports_of_error he _ _)

theorem Generates.mem_events (h : Generates options stock kind g) (he : e ∈ g.events) :
    e.isUnderflow = true ∨ e.severity = .debug ∨ ∃ v, e = .unknownSize v := by
  have sized : ∀ {size : Size} {rest : Stock → Logged GenerationError Document},
      (∀ s, e ∈ (rest s).events → e.isUnderflow = true ∨ e.severity = .debug) →
      e ∈ (stockFor size >>= rest).events → e.isUnderflow = true ∨ e.severity = .debug ∨ ∃ v, e = .unknownSize v := by
    intro size rest hrest he
    obtain he | ⟨s, -, he⟩ := Logged.mem_events_bind.1 he
    · exact .inr (.inr (mem_stockFor_events he))
    · exact (hrest s he).imp_right .inl
  cases h with
  | assemble records => exact (mem_assemble_events he).imp_right .inl
  | recordsFor _ records => exact sized (fun _ => mem_assemble_events) he
  | valuesFor _ values => exact sized (fun _ => mem_assembleValues_events) he

/-- A report of a generation is on a table that is checked and falls short. -/
theorem Generates.exists_reportsOn (h : Generates options stock kind g) (he : e ∈ g.events)
    (hreport : e.isUnderflow = true) : ∃ l t, (options.resolve stock).outcome = .ok l ∧ l.FallsShort t ∧
      Event.ReportsOn stock l t e := by
  have hmem : e ∈ g.events.filter Event.isUnderflow := List.mem_filter.2 ⟨he, hreport⟩
  cases hl : (options.resolve stock).outcome with
  | error error =>
    rw [h.reports_of_error hl] at hmem
    cases hmem
  | ok l =>
    rw [h.reports hl, underflowEvents_eq] at hmem
    obtain ⟨t, ht, rfl⟩ := List.mem_map.1 hmem
    exact ⟨l, t, rfl, of_decide_eq_true (List.mem_filter.1 ht).2, shortageEvent_reportsOn stock l t⟩

/-! ## Blame -/

/-- The small stock has an entry for every item of its pages. -/
theorem not_fallsShort_of_keepsTable_small {t : Table} (h : l.KeepsTable .small t) : ¬ l.FallsShort t := by
  have hlength : (Stock.small.layout.table t).length = 4 := by cases t <;> rfl
  have hpage : Stock.small.layout .itemsPerPage = (4 : Int) := rfl
  rintro ⟨-, hlt⟩
  rw [h.1, h.2, hlength, hpage] at hlt
  exact absurd hlt (by decide)

/-- **A short table is the fault of the caller exactly if the stock does not have it so.** With accepted options a
generation reports once on every table that is checked and falls short, in the order of the tables, and on nothing
else. So its reports depend on the stock, the items of a page, the tables that are checked and whether ids are among
them; a layout that keeps these of its stock is no reason for a warning; and for the small stock every report blames
the caller. -/
theorem underflows_blame :
    (∀ options stock kind g, options.IsAccepted → Generates options stock kind g →
      ∃ l, (options.resolve stock).outcome = .ok l ∧ List.Forall₂ (Event.ReportsOn stock l)
        ((kind.tables l).filter l.FallsShort) (g.events.filter Event.isUnderflow)) ∧
    (∀ options options' stock l l' kind g g', (options.resolve stock).outcome = .ok l →
      (options'.resolve stock).outcome = .ok l' → Generates options stock kind g → Generates options' stock kind g' →
      l .itemsPerPage = l' .itemsPerPage → l .includeIdText = l' .includeIdText →
      (∀ t ∈ kind.tables l, l.table t = l'.table t) →
      g.events.filter Event.isUnderflow = g'.events.filter Event.isUnderflow) ∧
    (∀ options stock l, (options.resolve stock).outcome = .ok l → (∀ t, l.KeepsTable stock t) →
      (∀ records, ∀ e ∈ (assemble records stock options).events, e.severity ≠ .warning) ∧
      ∀ kind g, Generates options stock kind g → ∀ e ∈ g.events, e.severity = .warning → ∃ v, e = .unknownSize v) ∧
    ∀ options kind g, Generates options .small kind g →
      ∀ e ∈ g.events, e.isUnderflow = true → e.severity ≠ .info := by
  refine ⟨?_, ?_, ?_, ?_⟩
  · intro options stock kind g haccepted hg
    obtain ⟨l, hl⟩ := (options.exists_resolve_iff stock).2 haccepted
    refine ⟨l, hl, ?_⟩
    rw [hg.reports hl, underflowEvents_eq, List.forall₂_map_right_iff, List.forall₂_same]
    exact fun t _ => shortageEvent_reportsOn stock l t
  · intro options options' stock l l' kind g g' hl hl' hg hg' hpage hid htables
    have hchecked : kind.tables l = kind.tables l' := by
      cases kind with
      | records => rw [LabelKind.tables, LabelKind.tables, hid]
      | values => rfl
    rw [hg.reports hl, hg'.reports hl', ← hchecked, underflowEvents_congr hpage htables]
  · intro options stock l hl hkeeps
    have hunblamed : ∀ {kind g e}, Generates options stock kind g → e ∈ g.events → e.isUnderflow = true →
        e.severity ≠ .warning := by
      intro kind g e hg he hreport hwarning
      obtain ⟨l', t, hl', -, hon⟩ := hg.exists_reportsOn he hreport
      obtain rfl := Except.ok.inj (hl'.symm.trans hl)
      exact hon.warning_iff.1 hwarning (hkeeps t)
    constructor
    · intro records e he hwarning
      rcases mem_assemble_events he with hreport | hdebug
      · exact hunblamed (.assemble records) he hreport hwarning
      · cases hdebug.symm.trans hwarning
    · intro kind g hg e he hwarning
      rcases hg.mem_events he with hreport | hdebug | hsize
      · exact absurd hwarning (hunblamed hg he hreport)
      · cases hdebug.symm.trans hwarning
      · exact hsize
  · intro options kind g hg e he hreport hinfo
    obtain ⟨l, t, -, hshort, hon⟩ := hg.exists_reportsOn he hreport
    exact not_fallsShort_of_keepsTable_small (hon.info_iff.1 hinfo) hshort

/-- The medium stock with ids, whose gap does not matter; a size that names no stock; the shortage that the medium
stock has; and the small stock with five labels on a page of four entries. -/
theorem underflows_blame_mixed :
    (∃ (options options' : Options) (l l' : Layout), (options.resolve .medium).outcome = .ok l ∧
      (options'.resolve .medium).outcome = .ok l' ∧ options.IsAccepted ∧ l .gap ≠ l' .gap ∧
      (∃ l, (options.resolve .medium).outcome = .ok l ∧ List.Forall₂ (Event.ReportsOn .medium l)
        ((LabelKind.records.tables l).filter l.FallsShort)
        ((assemble [] .medium options).events.filter Event.isUnderflow)) ∧
      (assemble [] .medium options).events.filter Event.isUnderflow =
        (recordsFor (.value (.text "100X50")) [⟨"a", "A", "1"⟩] options').events.filter Event.isUnderflow) ∧
    (∃ e ∈ (recordsFor (.value .null) [] .absent).events, e.severity = .warning ∧ ∃ v, e = .unknownSize v) ∧
    (∃ e ∈ (assemble [] .medium .absent).events, e.isUnderflow = true ∧ e.severity ≠ .warning) ∧
    ∃ (options : Options) (e : Event), e ∈ (assemble [] .small options).events ∧ e.isUnderflow = true ∧
      e.severity ≠ .info := by
  obtain ⟨hreports, hsame, hkeeps, hsmall⟩ := underflows_blame
  refine ⟨?_, ?_, ?_, ?_⟩
  · let options : Options := .given (.map [(.text "includeIdText", .bool true)])
    let options' : Options := .given (.map [(.text "includeIdText", .int 1), (.text "gapMm", .int 5)])
    obtain ⟨l, l', hl, hl', hgap, hpage, hid, htables⟩ : ∃ l l' : Layout,
        (options.resolve .medium).outcome = .ok l ∧ (options'.resolve .medium).outcome = .ok l' ∧ l .gap ≠ l' .gap ∧
        l .itemsPerPage = l' .itemsPerPage ∧ l .includeIdText = l' .includeIdText ∧
        ∀ t ∈ LabelKind.records.tables l, l.table t = l'.table t :=
      ⟨_, _, rfl, rfl, by decide, rfl, rfl, by decide⟩
    have haccepted : options.IsAccepted := (options.exists_resolve_iff .medium).1 ⟨l, hl⟩
    exact ⟨options, options', l, l', hl, hl', haccepted, hgap,
      hreports options .medium _ _ haccepted (.assemble []),
      hsame options options' .medium l l' _ _ _ hl hl' (.assemble []) (.recordsFor rfl _) hpage hid htables⟩
  · have he : Event.unknownSize .null ∈ (recordsFor (.value .null) [] .absent).events := .head _
    have hg : Generates .absent .small .records (recordsFor (.value .null) [] .absent) := .recordsFor rfl []
    exact ⟨_, he, rfl, (hkeeps .absent .small _ (resolve_absent .small) fun _ => ⟨rfl, rfl⟩).2 _ _ hg _ he rfl⟩
  · have he : Event.underflow ⟨.qr, 1, 2⟩ true ∈ (assemble [] .medium .absent).events := .head _
    exact ⟨_, he, rfl, (hkeeps .absent .medium _ (resolve_absent .medium) fun _ => ⟨rfl, rfl⟩).1 [] _ he⟩
  · let options : Options := .given (.map [(.text "itemsPerRow", .int 5)])
    have he : Event.underflow ⟨.qr, 4, 5⟩ false ∈ (assemble [] .small options).events := .tail _ (.head _)
    exact ⟨options, _, he, rfl, hsmall options _ _ (.assemble []) _ he rfl⟩

end Generation
end LabelPress
