import LabelPress.Proofs.Generation

/-!
# Where labels are printed

A label is made of marks, each printed at the position that a table gives the slot (`Layout.marked`). The report on
short tables says exactly which slots of a page are not printed at an entry of their own: none if nothing is
reported, and those it names for every table that is (`underflows_agree`).
-/

namespace LabelPress

/-- Whether a command prints something at a position. -/
def Command.isPlaced : Command → Bool
  | .qrCode .. | .text .. => true
  | _ => false

/-- The commands of a block that print something at a position. -/
def Block.placed (b : Block) : Block :=
  b.filter Command.isPlaced

/-- A part of a label: the table that gives its position, and its command there. -/
structure Mark (α : Type) where
  table : Table
  command : α → Position → Command

namespace Layout

/-- The marks of a record: its symbol, its id if ids are printed, and its name. -/
def recordMarks (l : Layout) : List (Mark Record) :=
  [⟨.qr, fun r place => .qrCode place l.qrStyle r.payload⟩] ++
    (if l .includeIdText then [⟨.idText, fun r place => .text place l.textStyle r.id⟩] else []) ++
    [⟨.nameText, fun r place => .text place l.nameStyle r.name⟩]

/-- The marks of a bare value: its symbol and its caption. -/
def valueMarks (l : Layout) : List (Mark String) := [
  ⟨.qr, fun v place => .qrCode place l.qrStyle v⟩, ⟨.text, fun v place => .text place l.textStyle v⟩]

variable {α : Type} (l : Layout)

/-- The marks of an item at a slot, each at the position that its table gives the slot. -/
def marksAt (marks : List (Mark α)) (slot : Nat) (item : α) : Block :=
  marks.filterMap fun m => (l.positionOf? m.table slot).map (m.command item)

/-- The marks of the items of a page. -/
def marked (marks : List (Mark α)) (items : List α) : Block :=
  items.zipIdx.flatMap fun entry => l.marksAt marks entry.2 entry.1

/-- A slot that is printed at the first entry of a table because there is none of its own. -/
def FallsBack (t : Table) (slot : Nat) : Prop :=
  ∃ first, (l.table t)[0]? = some first ∧ (l.table t)[slot]? = none ∧ l.positionOf? t slot = some first

/-! ## Positions of slots -/

variable {l} {t : Table} {slot : Nat}

theorem positionOf?_of_cons {first : Position} {rest : List Position} (h : l.table t = first :: rest) (slot : Nat) :
    l.positionOf? t slot = some ((l.table t)[slot]?.getD first) := by
  rw [positionOf?, h]
  rfl

theorem positionOf?_of_lt (h : slot < (l.table t).length) : l.positionOf? t slot = some (l.table t)[slot] := by
  obtain ⟨first, rest, htable⟩ := List.exists_cons_of_length_pos (Nat.zero_lt_of_lt h)
  rw [positionOf?_of_cons htable, List.getElem?_eq_getElem h, Option.getD_some]

/-- A table falls back exactly for the slots past its end. -/
theorem fallsBack_iff (hne : l.table t ≠ []) : l.FallsBack t slot ↔ (l.table t).length ≤ slot := by
  obtain ⟨first, rest, htable⟩ := List.exists_cons_of_ne_nil hne
  constructor
  · rintro ⟨-, -, hnone, -⟩
    exact List.getElem?_eq_none_iff.1 hnone
  · intro hpast
    have hnone := List.getElem?_eq_none_iff.2 hpast
    refine ⟨first, by rw [htable]; rfl, hnone, ?_⟩
    rw [positionOf?_of_cons htable, hnone, Option.getD_none]

/-! ## Marks of a page -/

theorem placed_append (a b : Block) : Block.placed (a ++ b) = a.placed ++ b.placed :=
  List.filter_append ..

theorem placed_symbolBlock (hqr : l .qrPositions ≠ []) (data : String) : (l.symbolBlock slot data).placed =
    ((l.positionOf? .qr slot).map (.qrCode · l.qrStyle data)).toList := by
  have hposition : l.positionOf? .qr slot = some (Position.entry (l .qrPositions) slot) :=
    (Position.ofSlot?_eq _ slot).trans (if_neg hqr)
  rw [hposition, symbolBlock]
  split <;> rfl

theorem placed_caption (style : TextStyle) (content : String) : (l.caption t style slot content).placed =
    ((l.positionOf? t slot).map (.text · style content)).toList := by
  unfold caption
  cases l.positionOf? t slot <;> rfl

theorem marksAt_append (marks more : List (Mark α)) (item : α) :
    l.marksAt (marks ++ more) slot item = l.marksAt marks slot item ++ l.marksAt more slot item :=
  List.filterMap_append

theorem marksAt_singleton (m : Mark α) (item : α) :
    l.marksAt [m] slot item = ((l.positionOf? m.table slot).map (m.command item)).toList := by
  unfold marksAt
  cases h : (l.positionOf? m.table slot).map (m.command item) <;> simp [h]

theorem placed_label (hqr : l .qrPositions ≠ []) (r : Record) :
    (l.label slot r).placed = l.marksAt l.recordMarks slot r := by
  have hid : (if l .includeIdText then captionBlock (l .idTextPositions) l.textStyle slot r.id else []).placed =
      l.marksAt (if l .includeIdText then [⟨.idText, fun r place => .text place l.textStyle r.id⟩] else []) slot r := by
    split
    · rw [marksAt_singleton, ← placed_caption]
      exact congrArg Block.placed (l.caption_eq .idText ..).symm
    · rfl
  rw [label, placed_append, placed_append, placed_symbolBlock hqr, hid, recordMarks, marksAt_append, marksAt_append,
    marksAt_singleton, marksAt_singleton, ← placed_caption]
  exact congrArg (_ ++ ·) (congrArg Block.placed (l.caption_eq .nameText ..).symm)

theorem placed_valueLabel (hqr : l .qrPositions ≠ []) (v : String) :
    (l.valueLabel slot v).placed = l.marksAt l.valueMarks slot v := by
  have hmarks : l.valueMarks = [⟨.qr, fun v place => .qrCode place l.qrStyle v⟩] ++
      [⟨.text, fun v place => .text place l.textStyle v⟩] := rfl
  rw [valueLabel, placed_append, placed_symbolBlock hqr, hmarks, marksAt_append, marksAt_singleton,
    marksAt_singleton, ← placed_caption]
  exact congrArg (_ ++ ·) (congrArg Block.placed (l.caption_eq .text ..).symm)

theorem placed_sheet {label : Nat → α → Block} {marks : List (Mark α)}
    (hlabel : ∀ slot item, (label slot item).placed = l.marksAt marks slot item) (pitch : String) (items : List α) :
    (l.sheet pitch label items).placed = l.marked marks items := by
  have hlabels : (labels label 0 items).placed = l.marked marks items := by
    rw [labels, Block.placed, List.filter_flatMap]
    exact List.flatMap_congr fun entry _ => hlabel entry.2 entry.1
  rw [sheet, placed_append, placed_append, hlabels]
  exact List.append_nil _

/-- Of two items the later one is printed later, each with its mark. -/
theorem pair_sublist_marked {marks : List (Mark α)} {m : Mark α} (hm : m ∈ marks) {items : List α} {item item' : α}
    {place place' : Position} (hslot : 0 < slot) (hitem : items[0]? = some item) (hitem' : items[slot]? = some item')
    (hplace : l.positionOf? m.table 0 = some place) (hplace' : l.positionOf? m.table slot = some place') :
    [m.command item place, m.command item' place'].Sublist (l.marked marks items) := by
  have hmark : ∀ {slot item place}, l.positionOf? m.table slot = some place →
      m.command item place ∈ l.marksAt marks slot item := by
    intro slot item place hplace
    refine List.mem_filterMap.2 ⟨m, hm, ?_⟩
    rw [hplace]
    rfl
  cases items with
  | nil => cases hitem
  | cons first rest =>
    obtain rfl := Option.some.inj hitem
    have hlater : (item', slot) ∈ rest.zipIdx 1 := by
      refine List.mk_mem_zipIdx_iff_le_and_getElem?_sub.2 ⟨hslot, ?_⟩
      rwa [List.getElem?_cons, if_neg (Nat.pos_iff_ne_zero.1 hslot)] at hitem'
    rw [marked, List.zipIdx_cons, List.flatMap_cons]
    refine List.Sublist.append (List.singleton_sublist.2 (hmark hplace)) (List.singleton_sublist.2 ?_)
    exact List.mem_flatMap.2 ⟨_, hlater, hmark hplace'⟩

/-! ## Reports on tables -/

theorem mem_underflows_iff {tables : List Table} {u : Underflow} : u ∈ l.underflows tables ↔ u.table ∈ tables ∧
    u.entries = (l.table u.table).length ∧ u.itemsPerPage = l .itemsPerPage ∧ 0 < u.entries ∧
    (u.entries : Int) < u.itemsPerPage := by
  unfold underflows Underflow.ofTable?
  rw [List.mem_filterMap]
  constructor
  · rintro ⟨t, ht, hu⟩
    dsimp only at hu
    split at hu
    · next hshort =>
      obtain rfl := Option.some.inj hu
      exact ⟨ht, rfl, rfl, hshort⟩
    · cases hu
  · rintro ⟨ht, hentries, hperPage, hshort⟩
    rw [hentries, hperPage] at hshort
    refine ⟨u.table, ht, (if_pos hshort).trans ?_⟩
    rw [← hentries, ← hperPage]

theorem mem_recordTables_iff : t ∈ l.recordTables ↔ ∃ m ∈ l.recordMarks, m.table = t := by
  unfold recordTables recordMarks
  cases l .includeIdText <;> cases t <;> simp

theorem mem_valueTables_iff : t ∈ valueTables ↔ ∃ m ∈ l.valueMarks, m.table = t := by
  cases t <;> simp [valueTables, valueMarks]

/-- What a report says of the page that some items are printed on. -/
structure PageAgrees (l : Layout) (marks : List (Mark α)) (reports : List Underflow) (items : List α)
    (page : Block) : Prop where
  /-- Each item is printed mark by mark, at the position that the table of the mark gives the slot. -/
  placed_eq : page.placed = l.marked marks items
  /-- Without a report, every mark that is printed is printed at the entry of its slot. -/
  own : reports = [] → ∀ m ∈ marks, l.table m.table ≠ [] → ∀ slot < items.length,
    ∃ h : slot < (l.table m.table).length, l.positionOf? m.table slot = some (l.table m.table)[slot]
  /-- The slots with an item that a reported table falls back for are those that its report names. -/
  fallsBack_iff : ∀ u ∈ reports, ∀ slot < items.length,
    (l.FallsBack u.table slot ↔ u.entries ≤ slot ∧ (slot : Int) ≤ u.itemsPerPage - 1)
  /-- With more items than entries, two of them are printed at the first entry of the table. -/
  shared : ∀ u ∈ reports, u.entries < items.length → ∃ m ∈ marks, m.table = u.table ∧
    ∃ first, (l.table u.table)[0]? = some first ∧ ∃ (slot slot' : Nat) (item item' : α), slot < slot' ∧
      items[slot]? = some item ∧ items[slot']? = some item' ∧
      [m.command item first, m.command item' first].Sublist page.placed

/-- A report on a table that the marks of an item are printed by. -/
structure IsReportOf (u : Underflow) (l : Layout) (marks : List (Mark α)) : Prop where
  read : ∃ m ∈ marks, m.table = u.table
  entries_eq : u.entries = (l.table u.table).length
  itemsPerPage_eq : u.itemsPerPage = l .itemsPerPage
  message_names : ∃ start, u.message = start ++ "; slots " ++ numeral u.entries ++ ".." ++
    signedNumeral (u.itemsPerPage - 1) ++ " reuse slot 0"

section
variable {marks : List (Mark α)} {tables : List Table} (htables : ∀ t, t ∈ tables ↔ ∃ m ∈ marks, m.table = t)

include htables in
theorem isReportOf_of_mem {u : Underflow} (hu : u ∈ l.underflows tables) : IsReportOf u l marks := by
  obtain ⟨ht, hentries, hperPage, -⟩ := mem_underflows_iff.1 hu
  refine ⟨(htables _).1 ht, hentries, hperPage, u.table.name ++ " has " ++ numeral u.entries ++ " entr" ++
    (if u.entries = 1 then "y" else "ies") ++ " for " ++ signedNumeral u.itemsPerPage ++ " items per page", ?_⟩
  have hsplit : " items per page; slots " = " items per page" ++ "; slots " := rfl
  rw [Underflow.message, hsplit]
  simp only [String.append_assoc]

include htables in
theorem pageAgrees {items : List α} {page : Block} (hplaced : page.placed = l.marked marks items)
    (hroom : (items.length : Int) ≤ l .itemsPerPage) : l.PageAgrees marks (l.underflows tables) items page := by
  have hlong {u : Underflow} (hu : u ∈ l.underflows tables) : l.table u.table ≠ [] := by
    obtain ⟨-, hentries, -, hpos, -⟩ := mem_underflows_iff.1 hu
    exact List.ne_nil_of_length_pos (hentries ▸ hpos)
  refine ⟨hplaced, ?_, ?_, ?_⟩
  · intro hnone m hm hne slot hslot
    have hunreported : ∀ u, u ∉ l.underflows tables := List.eq_nil_iff_forall_not_mem.1 hnone
    have hlength : ¬ ((l.table m.table).length : Int) < l .itemsPerPage := by
      intro hshort
      refine hunreported ⟨m.table, (l.table m.table).length, l .itemsPerPage⟩ (mem_underflows_iff.2 ?_)
      exact ⟨(htables _).2 ⟨m, hm, rfl⟩, rfl, rfl, List.length_pos_iff.2 hne, hshort⟩
    have hown : slot < (l.table m.table).length :=
      Int.ofNat_lt.1 (Int.lt_of_lt_of_le (Int.ofNat_lt.2 hslot) (Int.le_trans hroom (Int.not_lt.1 hlength)))
    exact ⟨hown, positionOf?_of_lt hown⟩
  · intro u hu slot hslot
    obtain ⟨-, hentries, hperPage, -⟩ := mem_underflows_iff.1 hu
    rw [Layout.fallsBack_iff (hlong hu), ← hentries, hperPage]
    exact (and_iff_left (Int.le_sub_one_of_lt (Int.lt_of_lt_of_le (Int.ofNat_lt.2 hslot) hroom))).symm
  · intro u hu hmore
    obtain ⟨ht, hentries, -, hpos, -⟩ := mem_underflows_iff.1 hu
    obtain ⟨m, hm, htable⟩ := (htables _).1 ht
    obtain ⟨first, hfirst, -, hfallback⟩ := (Layout.fallsBack_iff (hlong hu)).2 (Nat.le_of_eq hentries.symm)
    have hown : l.positionOf? u.table 0 = some first := by
      rw [positionOf?_of_lt (hentries ▸ hpos), ← hfirst, List.getElem?_eq_getElem]
    have hzero : 0 < items.length := Nat.zero_lt_of_lt hmore
    refine ⟨m, hm, htable, first, hfirst, 0, u.entries, items[0], items[u.entries], hpos,
      List.getElem?_eq_getElem hzero, List.getElem?_eq_getElem hmore, ?_⟩
    rw [hplaced]
    exact pair_sublist_marked hm hpos (List.getElem?_eq_getElem hzero) (List.getElem?_eq_getElem hmore)
      (htable ▸ hown) (htable ▸ hfallback)

end

end Layout

namespace Generation

/-- What the reports on the tables of a layout say of a document for some items: they are about tables that the
items are printed by, and they agree with every page. -/
structure AgreesWithReports {α : Type} (d : Document) (l : Layout) (marks : List (Mark α))
    (reports : List Underflow) (items : List α) : Prop where
  pages : ∃ plan, Page.plan items (l .itemsPerPage) = .ok plan ∧
    List.Forall₂ (l.PageAgrees marks reports) plan d.pages
  reports : ∀ u ∈ reports, l.IsReportOf u marks

variable {options : Options} {stock : Stock} {l : Layout}

theorem made_agrees {α : Type} {commands : Layout → Nat → α → Except RenderFault Block}
    {label : Layout → Nat → α → Block} (hlabel : ∀ l slot item, commands l slot item =
      if l .qrPositions = [] then .error .noQrPosition else .ok (label l slot item))
    {marks : List (Mark α)} {tables : List Table} (htables : ∀ t, t ∈ tables ↔ ∃ m ∈ marks, m.table = t)
    (hmarks : l .qrPositions ≠ [] → ∀ slot item, (label l slot item).placed = l.marksAt marks slot item)
    (hl : (options.resolve stock).outcome = .ok l) {items : List α} {d : Document}
    (h : made options stock commands items = .ok d) :
    AgreesWithReports d l marks (l.underflows tables) items := by
  obtain ⟨l', pitch, spare, hd⟩ := (made_eq_ok_iff hlabel).1 h
  obtain rfl : l' = l := Except.ok.inj (hd.resolved.symm.trans hl)
  refine ⟨⟨Page.split spare items, Page.plan_eq_ok_iff.2 ⟨spare, hd.itemsPerPage_eq, rfl⟩, ?_⟩, ?_⟩
  · rw [hd.document_eq]
    refine List.forall₂_map_right_iff.2 (List.forall₂_same.2 fun page hpage => ?_)
    have hqr : l' .qrPositions ≠ [] := by
      refine hd.placed.resolve_left fun hitems => ?_
      rw [Page.split_eq_nil_iff.2 hitems] at hpage
      cases hpage
    refine Layout.pageAgrees htables (Layout.placed_sheet (hmarks hqr) pitch page) ?_
    rw [hd.itemsPerPage_eq]
    exact Int.ofNat_le.2 (Page.length_le_of_mem_split hpage)
  · exact fun u hu => Layout.isReportOf_of_mem htables hu

/-- **The reports on short tables are exact.** Without one, every label of every page is printed at entries of its
own; a report is about a table that labels are printed by, and the slots it names are those that are printed at the
first entry for want of one of their own. -/
theorem underflows_agree (options : Options) (stock : Stock) (l : Layout)
    (hl : (options.resolve stock).outcome = .ok l) :
    (∀ records d, (assemble records stock options).outcome = .ok d →
      AgreesWithReports d l l.recordMarks (l.underflows l.recordTables) records) ∧
    ∀ values size d, stockOf size = stock → (ofValues values size options).outcome = .ok d →
      AgreesWithReports d l l.valueMarks (l.underflows Layout.valueTables) values := by
  constructor
  · intro records d h
    rw [assemble_outcome] at h
    exact made_agrees Layout.recordCommands_eq (fun _ => Layout.mem_recordTables_iff)
      (fun hqr _ => Layout.placed_label hqr) hl h
  · rintro values size d rfl h
    rw [ofValues_outcome] at h
    exact made_agrees Layout.valueCommands_eq (fun _ => Layout.mem_valueTables_iff)
      (fun hqr _ => Layout.placed_valueLabel hqr) hl h

/-- The medium stock with three items to a page, two tables of which have one entry. -/
theorem underflows_agree_medium : ∃ (options : Options) (l : Layout) (d : Document),
    (options.resolve .medium).outcome = .ok l ∧
    (assemble [⟨"a", "A", "1"⟩, ⟨"b", "B", "2"⟩] .medium options).outcome = .ok d ∧
    l.underflows l.recordTables = [⟨.qr, 1, 3⟩, ⟨.nameText, 1, 3⟩] ∧
    AgreesWithReports d l l.recordMarks (l.underflows l.recordTables) [⟨"a", "A", "1"⟩, ⟨"b", "B", "2"⟩] := by
  let options : Options := .given (.map [(.text "itemsPerRow", .text "3"), (.text "includeIdText", .int 1)])
  obtain ⟨l, pitch, hl, hpitch, hroom, hqr, hreports⟩ : ∃ l pitch, (options.resolve .medium).outcome = .ok l ∧
      Pitch.text? (l .height) = some pitch ∧ l .itemsPerPage = ((2 : Nat) : Int) + 1 ∧ l .qrPositions ≠ [] ∧
      l.underflows l.recordTables = [⟨.qr, 1, 3⟩, ⟨.nameText, 1, 3⟩] :=
    ⟨_, _, rfl, rfl, rfl, List.cons_ne_nil _ _, rfl⟩
  obtain ⟨d, hd⟩ : ∃ d, (assemble [⟨"a", "A", "1"⟩, ⟨"b", "B", "2"⟩] .medium options).outcome = .ok d := by
    rw [assemble_outcome, made_of_room Layout.recordCommands_eq hl hroom, hpitch]
    exact ⟨_, if_neg fun h => hqr h.1⟩
  exact ⟨options, l, d, hl, hd, hreports, (underflows_agree options .medium l hl).1 _ d hd⟩

end Generation
end LabelPress
