import LabelPress.Generation
import LabelPress.Proofs.Outcome

/-!
# What is rendered

The commands of a header, a label and a page, written down without the failures on the way to them, and when
rendering gives exactly these: a pitch is all that a header asks for, and a page with a label on it needs a
place for its symbol as well (`header_eq`, `page_eq`, `document_eq`).
-/

namespace LabelPress

/-- The entry of a table for a slot: the one of that number, and entry 0 past the end. -/
def Position.entry (table : List Position) (slot : Nat) : Position :=
  table.getD slot (table.headD ⟨0, 0⟩)

theorem Position.ofSlot?_eq (table : List Position) (slot : Nat) :
    ofSlot? table slot = if table = [] then none else some (entry table slot) := by
  cases table with
  | nil => rfl
  | cons p table =>
    rw [if_neg (List.cons_ne_nil p table), ofSlot?, entry, List.getD_eq_getElem?_getD]
    rfl

namespace Layout

/-! ## Blocks without failures -/

/-- The commands of a header with a pitch. -/
def headerBlock (l : Layout) (pitch : String) : Block := [
  .media pitch (l .width) (l .height), .gap (l .gap), .speed (l .speed), .density (l .density),
  .ribbon (l .ribbonOn), .direction, .reference, .offset, .peelOff, .cutterOff, .partialCutterOff,
  .close]

/-- The symbol of a label, with the codepage after the first of a page. -/
def symbolBlock (l : Layout) (slot : Nat) (data : String) : Block :=
  .qrCode (Position.entry (l .qrPositions) slot) l.qrStyle data ::
    if slot = 0 then [.codepage (l .codepage)] else []

/-- A text at the entry of a table; none for an empty table. -/
def captionBlock (table : List Position) (style : TextStyle) (slot : Nat) (content : String) : Block :=
  if table = [] then [] else [.text (Position.entry table slot) style content]

/-- The commands of a record at a slot. -/
def label (l : Layout) (slot : Nat) (r : Record) : Block :=
  l.symbolBlock slot r.payload ++
    (if l .includeIdText then captionBlock (l .idTextPositions) l.textStyle slot r.id else []) ++
    captionBlock (l .nameTextPositions) l.nameStyle slot r.name

/-- The commands of a bare value at a slot. -/
def valueLabel (l : Layout) (slot : Nat) (v : String) : Block :=
  l.symbolBlock slot v ++ captionBlock (l .textPositions) l.textStyle slot v

/-- The commands of labels in order, of which the first has number `slot`. -/
def labels {α : Type} (label : Nat → α → Block) (slot : Nat) (items : List α) : Block :=
  (items.zipIdx slot).flatMap fun entry => label entry.2 entry.1

/-- The commands of a page with a pitch. -/
def sheet {α : Type} (l : Layout) (pitch : String) (label : Nat → α → Block) (items : List α) : Block :=
  [.tear pitch (l .tearOn), .clear] ++ labels label 0 items ++ [.print, .close]

/-! ## What blocks have -/

section members
variable {l : Layout} {P : Command → Prop} {slot : Nat}

theorem forall_mem_symbolBlock {data : String} (hsymbol : ∀ place, P (.qrCode place l.qrStyle data))
    (hcodepage : P (.codepage (l .codepage))) : ∀ c ∈ l.symbolBlock slot data, P c := by
  rw [symbolBlock, List.forall_mem_cons]
  refine ⟨hsymbol _, ?_⟩
  split
  · exact List.forall_mem_singleton.2 hcodepage
  · exact fun _ h => absurd h List.not_mem_nil

theorem forall_mem_captionBlock {table : List Position} {style : TextStyle} {content : String}
    (htext : ∀ place, P (.text place style content)) : ∀ c ∈ captionBlock table style slot content, P c := by
  unfold captionBlock
  split
  · exact fun _ h => absurd h List.not_mem_nil
  · exact List.forall_mem_singleton.2 (htext _)

theorem forall_mem_label {r : Record} (hsymbol : ∀ place, P (.qrCode place l.qrStyle r.payload))
    (hcodepage : P (.codepage (l .codepage))) (hid : ∀ place, P (.text place l.textStyle r.id))
    (hname : ∀ place, P (.text place l.nameStyle r.name)) : ∀ c ∈ l.label slot r, P c := by
  rw [label, List.forall_mem_append, List.forall_mem_append]
  refine ⟨⟨forall_mem_symbolBlock hsymbol hcodepage, ?_⟩, forall_mem_captionBlock hname⟩
  split
  · exact forall_mem_captionBlock hid
  · exact fun _ h => absurd h List.not_mem_nil

theorem forall_mem_valueLabel {v : String} (hsymbol : ∀ place, P (.qrCode place l.qrStyle v))
    (hcodepage : P (.codepage (l .codepage))) (htext : ∀ place, P (.text place l.textStyle v)) :
    ∀ c ∈ l.valueLabel slot v, P c := by
  rw [valueLabel, List.forall_mem_append]
  exact ⟨forall_mem_symbolBlock hsymbol hcodepage, forall_mem_captionBlock htext⟩

theorem forall_mem_labels {α : Type} {label : Nat → α → Block} {items : List α}
    (hlabel : ∀ slot item, ∀ c ∈ label slot item, P c) : ∀ c ∈ labels label slot items, P c := by
  intro c hc
  obtain ⟨entry, -, hc⟩ := List.mem_flatMap.1 hc
  exact hlabel _ _ c hc

end members

/-! ## Rendering -/

variable {α : Type} (l : Layout)

theorem header_eq : l.header = match Pitch.text? (l .height) with
    | some pitch => .ok (l.headerBlock pitch)
    | none => .error .noPitch := by
  unfold header Layout.pitch
  cases Pitch.text? (l .height) <;> rfl

theorem symbol_eq (slot : Nat) (data : String) : l.symbol slot data =
    if l .qrPositions = [] then .error .noQrPosition else .ok (l.symbolBlock slot data) := by
  have hplace : l.positionOf? .qr slot =
      if l .qrPositions = [] then none else some (Position.entry (l .qrPositions) slot) :=
    Position.ofSlot?_eq _ slot
  rw [symbol, hplace]
  by_cases hqr : l .qrPositions = []
  · rw [if_pos hqr, if_pos hqr]
  · rw [if_neg hqr, if_neg hqr]
    rfl

theorem caption_eq (t : Table) (style : TextStyle) (slot : Nat) (content : String) :
    l.caption t style slot content = captionBlock (l.table t) style slot content := by
  rw [caption, captionBlock, positionOf?, Position.ofSlot?_eq]
  by_cases ht : l.table t = []
  · rw [if_pos ht, if_pos ht]
  · rw [if_neg ht, if_neg ht]

theorem recordCommands_eq (slot : Nat) (r : Record) : l.recordCommands slot r =
    if l .qrPositions = [] then .error .noQrPosition else .ok (l.label slot r) := by
  rw [recordCommands, symbol_eq, caption_eq, caption_eq]
  split <;> rfl

theorem valueCommands_eq (slot : Nat) (v : String) : l.valueCommands slot v =
    if l .qrPositions = [] then .error .noQrPosition else .ok (l.valueLabel slot v) := by
  rw [valueCommands, symbol_eq, caption_eq]
  split <;> rfl

section pages
variable {l} {commands : Nat → α → Except RenderFault Block} {label : Nat → α → Block}
  (hlabel : ∀ slot item, commands slot item =
    if l .qrPositions = [] then .error .noQrPosition else .ok (label slot item))

include hlabel in
theorem slotCommands_eq (slot : Nat) (items : List α) : slotCommands commands slot items =
    if l .qrPositions = [] ∧ items ≠ [] then .error .noQrPosition
    else .ok (labels label slot items) := by
  induction items generalizing slot with
  | nil => exact (if_neg fun h => h.2 rfl).symm
  | cons item items ih =>
    rw [slotCommands, hlabel]
    by_cases hqr : l .qrPositions = []
    · rw [if_pos hqr, if_pos ⟨hqr, List.cons_ne_nil item items⟩]
      rfl
    · rw [ih, if_neg hqr, if_neg fun h => hqr h.1, if_neg fun h => hqr h.1]
      rfl

include hlabel in
theorem page_eq (items : List α) : l.page commands items = match Pitch.text? (l .height) with
    | some pitch =>
      if l .qrPositions = [] ∧ items ≠ [] then .error .noQrPosition
      else .ok (l.sheet pitch label items)
    | none => .error .noPitch := by
  rw [page, pitch, slotCommands_eq hlabel]
  cases Pitch.text? (l .height) with
  | none => rfl
  | some pitch =>
    dsimp only
    split <;> rfl

include hlabel in
/-- **A document has the pages of its plan**, unless there is no pitch, or a label without a place. -/
theorem document_eq {plan : List (List α)} (hplan : ∀ items ∈ plan, items ≠ []) :
    Generation.document l (l.page commands) plan = match Pitch.text? (l .height) with
    | some pitch =>
      if l .qrPositions = [] ∧ plan ≠ [] then .error .noQrPosition
      else .ok ⟨l.headerBlock pitch, plan.map (l.sheet pitch label)⟩
    | none => .error .noPitch := by
  rw [Generation.document, header_eq]
  cases hpitch : Pitch.text? (l .height) with
  | none => rfl
  | some pitch =>
    have hpages : plan.mapM (l.page commands) = if l .qrPositions = [] ∧ plan ≠ []
        then .error .noQrPosition else .ok (plan.map (l.sheet pitch label)) := by
      refine except_mapM_eq fun items hitems => ?_
      rw [page_eq hlabel, hpitch]
      by_cases hqr : l .qrPositions = []
      · rw [if_pos hqr]
        exact if_pos ⟨hqr, hplan items hitems⟩
      · rw [if_neg hqr]
        exact if_neg fun h => hqr h.1
    dsimp only
    rw [hpages]
    split <;> rfl

end pages

end Layout
end LabelPress
