import LabelPress.Proofs.Page
import LabelPress.Proofs.Rendering

/-!
# What is generated

Records and bare values go the same way to a document: options resolve to a layout, the items are planned
onto pages and every page is rendered (`assemble_outcome`, `ofValues_outcome`). A document comes out exactly
when there is a layout with a pitch, room for an item on a page and a place for the symbols, and it is the
header with the pages of the plan (`made_eq_ok_iff`).
-/

namespace LabelPress.Generation

/-- The document for items of any kind, which a layout turns into commands. -/
def made {α : Type} (options : Options) (stock : Stock)
    (commands : Layout → Nat → α → Except RenderFault Block) (items : List α) :
    Except GenerationError Document := do
  let l ← (options.resolve stock).outcome.mapError .options
  let plan ← (Page.plan items (l .itemsPerPage)).mapError .pages
  (document l (l.page (commands l)) plan).mapError .rendering

/-- The document for items with a layout, whichever way the layout came about. -/
def madeWith {α : Type} (l : Layout) (commands : Nat → α → Except RenderFault Block) (items : List α) :
    Except GenerationError Document := do
  let plan ← (Page.plan items (l .itemsPerPage)).mapError .pages
  (document l (l.page commands) plan).mapError .rendering

theorem checkedLayout_outcome (stock : Stock) (options : Options) (tables : Layout → List Table) :
    (checkedLayout stock options tables).outcome = (options.resolve stock).outcome.mapError .options := by
  rw [checkedLayout, Logged.outcome_bind, Logged.outcome_mapError]
  cases (options.resolve stock).outcome <;> rfl

theorem assemble_outcome (records : List Record) (stock : Stock) (options : Options) :
    (assemble records stock options).outcome = made options stock Layout.recordCommands records := by
  rw [assemble, Logged.outcome_bind, checkedLayout_outcome, made]
  congr 1
  funext l
  rw [Logged.outcome_bind, Logged.outcome_ofExcept]
  congr 1

/-- The stock that a size is taken for. -/
def stockOf (size : Value) : Stock :=
  (Stock.ofValue? size).getD .small

theorem resolveSize_outcome {ε : Type} (size : Value) :
    (resolveSize size : Logged ε Stock).outcome = .ok (stockOf size) := by
  unfold resolveSize stockOf
  cases Stock.ofValue? size <;> rfl

theorem assembleValues_outcome (values : List String) (stock : Stock) (options : Options) :
    (assembleValues values stock options).outcome = made options stock Layout.valueCommands values := by
  rw [assembleValues, Logged.outcome_bind, checkedLayout_outcome, made]
  congr 1
  funext l
  rw [Logged.outcome_bind]
  rfl

theorem ofRecords_outcome (size : Value) (records : List Record) (options : Options) :
    (ofRecords size records options).outcome =
      made options (stockOf size) Layout.recordCommands records := by
  rw [ofRecords, recordsFor, Logged.outcome_bind, stockFor, resolveSize_outcome, ← assemble_outcome]
  rfl

theorem ofValues_outcome (values : List String) (size : Value) (options : Options) :
    (ofValues values size options).outcome =
      made options (stockOf size) Layout.valueCommands values := by
  rw [ofValues, valuesFor, Logged.outcome_bind, stockFor, resolveSize_outcome, ← assembleValues_outcome]
  rfl

variable {α : Type} {options : Options} {stock : Stock} {items : List α} {d : Document}
  {commands : Layout → Nat → α → Except RenderFault Block} {label : Layout → Nat → α → Block}
  (hlabel : ∀ l slot item, commands l slot item =
    if l .qrPositions = [] then .error .noQrPosition else .ok (label l slot item))

/-- What options, a stock and items must be for a document to come out, and which one it is: the layout and
its pitch are those of the document, and a page has room for `spare` items more than one. -/
structure MakesDocument (options : Options) (stock : Stock) (label : Layout → Nat → α → Block)
    (items : List α) (l : Layout) (pitch : String) (spare : Nat) (d : Document) : Prop where
  resolved : (options.resolve stock).outcome = .ok l
  pitch_eq : Pitch.text? (l .height) = some pitch
  itemsPerPage_eq : l .itemsPerPage = (spare : Int) + 1
  placed : items = [] ∨ l .qrPositions ≠ []
  document_eq : d = ⟨l.headerBlock pitch, (Page.split spare items).map (l.sheet pitch (label l))⟩

theorem made_of_layout {l : Layout} (hl : (options.resolve stock).outcome = .ok l) :
    made options stock commands items = madeWith l (commands l) items := by
  rw [made, hl]
  rfl

theorem madeWith_of_noRoom {l : Layout} {commands : Nat → α → Except RenderFault Block}
    (hroom : ¬0 < l .itemsPerPage) :
    madeWith l commands items = .error (.pages (.notPositive (l .itemsPerPage))) := by
  have hplan : Page.plan items (l .itemsPerPage) = .error (.notPositive (l .itemsPerPage)) := if_neg hroom
  rw [madeWith, hplan]
  rfl

include hlabel in
/-- What is made of items with a layout that has room for `spare` items more than one on a page. -/
theorem madeWith_of_room {l : Layout} {spare : Nat} (hroom : l .itemsPerPage = (spare : Int) + 1) :
    madeWith l (commands l) items = match Pitch.text? (l .height) with
      | none => .error (.rendering .noPitch)
      | some pitch =>
        if l .qrPositions = [] ∧ items ≠ [] then .error (.rendering .noQrPosition)
        else .ok ⟨l.headerBlock pitch, (Page.split spare items).map (l.sheet pitch (label l))⟩ := by
  have hplan : Page.plan items (l .itemsPerPage) = .ok (Page.split spare items) :=
    Page.plan_eq_ok_iff.2 ⟨spare, hroom, rfl⟩
  rw [madeWith, hplan]
  change (document l (l.page (commands l)) _).mapError GenerationError.rendering = _
  rw [Layout.document_eq (hlabel l) fun _ => Page.ne_nil_of_mem_split]
  simp only [ne_eq, Page.split_eq_nil_iff]
  cases Pitch.text? (l .height) with
  | none => rfl
  | some pitch =>
    dsimp only
    split <;> rfl

include hlabel in
theorem made_of_room {l : Layout} {spare : Nat} (hl : (options.resolve stock).outcome = .ok l)
    (hroom : l .itemsPerPage = (spare : Int) + 1) :
    made options stock commands items = match Pitch.text? (l .height) with
      | none => .error (.rendering .noPitch)
      | some pitch =>
        if l .qrPositions = [] ∧ items ≠ [] then .error (.rendering .noQrPosition)
        else .ok ⟨l.headerBlock pitch, (Page.split spare items).map (l.sheet pitch (label l))⟩ :=
  (made_of_layout hl).trans (madeWith_of_room hlabel hroom)

include hlabel in
/-- **A document comes out exactly when** there is a layout with a pitch, room on a page and places. -/
theorem made_eq_ok_iff : made options stock commands items = .ok d ↔
    ∃ l pitch spare, MakesDocument options stock label items l pitch spare d := by
  have placed_iff : ∀ (l : Layout) (spare : Nat),
      ¬(l .qrPositions = [] ∧ Page.split spare items ≠ []) ↔ items = [] ∨ l .qrPositions ≠ [] := by
    intro l spare
    rw [ne_eq, Page.split_eq_nil_iff, not_and_or, Decidable.not_not, or_comm]
  constructor
  · intro h
    obtain ⟨l, hl, h⟩ := except_bind_eq_ok.1 h
    obtain ⟨plan, hplan, h⟩ := except_bind_eq_ok.1 h
    have hl := except_mapError_eq_ok.1 hl
    obtain ⟨spare, hspare, rfl⟩ := Page.plan_eq_ok_iff.1 (except_mapError_eq_ok.1 hplan)
    have h := except_mapError_eq_ok.1 h
    rw [Layout.document_eq (hlabel l) fun _ => Page.ne_nil_of_mem_split] at h
    split at h
    case h_2 => cases h
    case h_1 pitch hpitch =>
      split at h
      case isTrue => cases h
      case isFalse hplaced =>
        exact ⟨l, pitch, spare, hl, hpitch, hspare, (placed_iff l spare).1 hplaced,
          (Except.ok.inj h).symm⟩
  · rintro ⟨l, pitch, spare, hl⟩
    refine except_bind_eq_ok.2 ⟨l, except_mapError_eq_ok.2 hl.resolved, ?_⟩
    refine except_bind_eq_ok.2 ⟨Page.split spare items, except_mapError_eq_ok.2 ?_,
      except_mapError_eq_ok.2 ?_⟩
    · exact Page.plan_eq_ok_iff.2 ⟨spare, hl.itemsPerPage_eq, rfl⟩
    · rw [Layout.document_eq (hlabel l) fun _ => Page.ne_nil_of_mem_split, hl.pitch_eq,
        hl.document_eq]
      exact if_neg ((placed_iff l spare).2 hl.placed)

theorem resolve_absent (stock : Stock) : (Options.absent.resolve stock).outcome = .ok stock.layout := by
  change Except.ok (Setting.tabulate (stock.layout.override Overrides.none)) = _
  rw [Setting.tabulate_eq]
  rfl

include hlabel in
/-- Without options every stock makes a document for any items. -/
theorem exists_made_absent (stock : Stock) (items : List α) :
    ∃ d, made .absent stock commands items = .ok d := by
  have hpitch : ∃ pitch, Pitch.text? (stock.layout .height) = some pitch := by
    cases stock <;> exact ⟨_, rfl⟩
  have hspare : ∃ spare : Nat, stock.layout .itemsPerPage = (spare : Int) + 1 := by
    cases stock
    · exact ⟨3, rfl⟩
    · exact ⟨1, rfl⟩
    · exact ⟨1, rfl⟩
  have hqr : stock.layout .qrPositions ≠ [] := by cases stock <;> decide
  obtain ⟨pitch, hpitch⟩ := hpitch
  obtain ⟨spare, hspare⟩ := hspare
  exact ⟨_, (made_eq_ok_iff hlabel).2
    ⟨stock.layout, pitch, spare, resolve_absent stock, hpitch, hspare, .inr hqr, rfl⟩⟩

end LabelPress.Generation
