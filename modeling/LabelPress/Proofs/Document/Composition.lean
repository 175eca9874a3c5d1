import LabelPress.Proofs.Generation

/-!
# What a document is made of

The document for some records is the header, one page for every `k` of them and the end, with nothing between
these parts. Page `p` prints the records from number `p * k` up to number `(p + 1) * k`, so that every record
is printed once, in the order of the records, at slot `j % k` of page `j / k` (`assemble_composition`).
-/

namespace LabelPress

/-- The QR symbols among the commands of a block. -/
def Block.symbols (b : Block) : Block :=
  b.filter fun
    | .qrCode .. => true
    | _ => false

@[simp] theorem Block.symbols_append (a b : Block) : symbols (a ++ b) = symbols a ++ symbols b :=
  List.filter_append ..

namespace Layout

variable {α : Type} (l : Layout)

/-- Page `p` of the items with `k` to a page: the items whose number `j` is from `p * k` up to `(p + 1) * k`,
in this order, each at slot `j - p * k`. -/
def plannedPage (pitch : String) (label : Nat → α → Block) (k : Nat) (items : List α) (p : Nat) : Block :=
  [.tear pitch (l .tearOn), .clear] ++
    ((items.zipIdx.filter fun entry => p * k ≤ entry.2 ∧ entry.2 < (p + 1) * k).flatMap fun entry =>
      label (entry.2 - p * k) entry.1) ++
    [.print, .close]

/-- Labels are the same wherever the numbering of their items starts. -/
theorem labels_shift (label : Nat → α → Block) (first : Nat) (items : List α) :
    labels label 0 items = (items.zipIdx first).flatMap fun entry => label (entry.2 - first) entry.1 := by
  rw [labels, List.zipIdx_eq_map_add (i := first), List.flatMap_map]
  refine List.flatMap_congr fun entry _ => ?_
  rw [Nat.add_sub_cancel_left]

theorem sheet_stretch (pitch : String) (label : Nat → α → Block) (k : Nat) (items : List α) (p : Nat) :
    l.sheet pitch label ((items.drop (p * k)).take k) = l.plannedPage pitch label k items p := by
  have hend : (p + 1) * k = p * k + k := Nat.succ_mul p k
  rw [sheet, labels_shift label (p * k), Page.zipIdx_stretch, plannedPage, hend]

theorem map_sheet_split (pitch : String) (label : Nat → α → Block) (spare : Nat) (items : List α) :
    (Page.split spare items).map (l.sheet pitch label) =
      (List.range ((items.length + spare) / (spare + 1))).map
        (l.plannedPage pitch label (spare + 1) items) := by
  rw [Page.split_eq_map_range, List.map_map]
  exact List.map_congr_left fun p _ => l.sheet_stretch pitch label (spare + 1) items p

theorem symbols_captionBlock (table : List Position) (style : TextStyle) (slot : Nat) (content : String) :
    (captionBlock table style slot content).symbols = [] := by
  unfold captionBlock
  split <;> rfl

theorem symbols_label (slot : Nat) (r : Record) : (l.label slot r).symbols =
    [.qrCode (Position.entry (l .qrPositions) slot) l.qrStyle r.payload] := by
  have hsymbol : (l.symbolBlock slot r.payload).symbols =
      [.qrCode (Position.entry (l .qrPositions) slot) l.qrStyle r.payload] := by
    unfold symbolBlock
    split <;> rfl
  have hid : (if l .includeIdText then captionBlock (l .idTextPositions) l.textStyle slot r.id
      else []).symbols = [] := by
    split
    · exact symbols_captionBlock ..
    · rfl
  rw [label, Block.symbols_append, Block.symbols_append, hsymbol, hid, symbols_captionBlock]
  rfl

/-- The symbols of page `p` are those of the records number `j` with `j / k = p`, each at slot `j % k`. -/
theorem symbols_plannedPage (pitch : String) {k : Nat} (hk : 0 < k) (records : List Record) (p : Nat) :
    (l.plannedPage pitch l.label k records p).symbols =
      (records.zipIdx.filter fun entry => entry.2 / k = p).map fun entry =>
        .qrCode (Position.entry (l .qrPositions) (entry.2 % k)) l.qrStyle entry.1.payload := by
  have hpage : ∀ j, p * k ≤ j ∧ j < (p + 1) * k ↔ j / k = p := by
    intro j
    rw [← Nat.le_div_iff_mul_le hk, ← Nat.div_lt_iff_lt_mul hk]
    omega
  have hslot : ∀ j, j / k = p → j - p * k = j % k := by
    rintro j rfl
    have := Nat.div_add_mod j k
    rw [Nat.mul_comm] at this
    omega
  have hinner : (l.plannedPage pitch l.label k records p).symbols =
      Block.symbols ((records.zipIdx.filter fun entry =>
        p * k ≤ entry.2 ∧ entry.2 < (p + 1) * k).flatMap
          fun entry => l.label (entry.2 - p * k) entry.1) := by
    rw [plannedPage, Block.symbols_append, Block.symbols_append]
    exact List.append_nil _
  rw [hinner, Block.symbols, List.filter_flatMap, List.map_eq_flatMap]
  simp only [hpage]
  refine List.flatMap_congr fun entry hentry => ?_
  have hj : entry.2 / k = p := by simpa using (List.mem_filter.1 hentry).2
  rw [← hslot entry.2 hj]
  exact l.symbols_label (entry.2 - p * k) entry.1

end Layout

/-- What a document is made of: for a layout, its pitch and its number `k` of items per page, the header, one
page for every `k` records and the end. -/
structure Document.Composition (d : Document) (l : Layout) (pitch : String) (k : Nat)
    (records : List Record) : Prop where
  /-- The parts follow each other with nothing between them. -/
  text_eq : d.text = Block.text (l.headerBlock pitch) ++
    String.join ((List.range ((records.length + k - 1) / k)).map fun p =>
      Block.text (l.plannedPage pitch l.label k records p)) ++ "<xpml><end/></xpml>"
  length_pages : d.pages.length = (records.length + k - 1) / k
  /-- Record `j` has its symbol on page `j / k` at slot `j % k`, and a page has no other symbols. -/
  symbols_eq : ∀ (p : Nat) (page : Block), d.pages[p]? = some page → page.symbols =
    (records.zipIdx.filter fun entry => entry.2 / k = p).map fun entry =>
      .qrCode (Position.entry (l .qrPositions) (entry.2 % k)) l.qrStyle entry.1.payload

/-- **A document for records is its header, its pages and the end.** -/
theorem assemble_composition {records : List Record} {stock : Stock} {options : Options} {d : Document}
    (h : (Generation.assemble records stock options).outcome = .ok d) :
    ∃ (l : Layout) (pitch : String) (k : Nat), (options.resolve stock).outcome = .ok l ∧
      Pitch.text? (l .height) = some pitch ∧ l .itemsPerPage = (k : Int) ∧ 0 < k ∧
      d.Composition l pitch k records := by
  rw [Generation.assemble_outcome] at h
  obtain ⟨l, pitch, spare, hd⟩ := (Generation.made_eq_ok_iff Layout.recordCommands_eq).1 h
  have hpages : d.pages = (List.range ((records.length + spare) / (spare + 1))).map
      (l.plannedPage pitch l.label (spare + 1) records) := by
    rw [hd.document_eq]
    exact l.map_sheet_split pitch l.label spare records
  refine ⟨l, pitch, spare + 1, hd.resolved, hd.pitch_eq, hd.itemsPerPage_eq, Nat.succ_pos spare,
    ?_, ?_, ?_⟩
  · rw [Document.text, hpages, hd.document_eq, List.map_map]
    rfl
  · rw [hpages, List.length_map, List.length_range]
    rfl
  · intro p page hp
    rw [hpages, List.getElem?_map, Option.map_eq_some_iff] at hp
    obtain ⟨q, hq, rfl⟩ := hp
    obtain ⟨-, rfl⟩ := List.getElem?_eq_some_iff.1 hq
    rw [List.getElem_range]
    exact l.symbols_plannedPage pitch (Nat.succ_pos spare) records p

/-- Three records on the medium stock, whose only entry serves both slots of a page. -/
theorem assemble_composition_medium : ∃ d,
    (Generation.assemble [⟨"a", "A", "1"⟩, ⟨"b", "B", "2"⟩, ⟨"c", "C", "3"⟩] .medium
      .absent).outcome = .ok d ∧
    ∃ (l : Layout) (pitch : String) (k : Nat), (Options.absent.resolve .medium).outcome = .ok l ∧
      Pitch.text? (l .height) = some pitch ∧ l .itemsPerPage = (k : Int) ∧ 0 < k ∧
      d.Composition l pitch k [⟨"a", "A", "1"⟩, ⟨"b", "B", "2"⟩, ⟨"c", "C", "3"⟩] := by
  obtain ⟨d, hd⟩ := Generation.exists_made_absent Layout.recordCommands_eq .medium
    [⟨"a", "A", "1"⟩, ⟨"b", "B", "2"⟩, ⟨"c", "C", "3"⟩]
  rw [← Generation.assemble_outcome] at hd
  exact ⟨d, hd, assemble_composition hd⟩

end LabelPress
