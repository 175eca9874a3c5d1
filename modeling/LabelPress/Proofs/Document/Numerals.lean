import LabelPress.Proofs.Generation.Ending
import LabelPress.Proofs.Number.Plain

/-!
# The numerals of a document

Every numeric argument of a document is a plain numeral exactly when the lengths and the speed of its layout,
and the multipliers of the texts it prints, are written plainly (`document_numerals_plain_iff`). Positions,
sizes, rotations and the density are whole numbers that no check lets below zero, so they always are plain.
-/

namespace LabelPress

namespace Command

/-- The numbers among the arguments of a command, as its line shows them. -/
def numerals : Command → List String
  | .media _ width height => [width.text, height.text]
  | .gap g => [g.text]
  | .speed s => [s.text]
  | .density d => [signedNumeral d]
  | .qrCode place style _ =>
    [signedNumeral place.x, signedNumeral place.y, signedNumeral style.size, signedNumeral style.rotation]
  | .text place style _ =>
    [signedNumeral place.x, signedNumeral place.y, signedNumeral style.rotation, style.xMul.text,
      style.yMul.text]
  | _ => []

theorem infix_intercalate {sep s : String} {texts : List String} (h : s ∈ texts) :
    s.toList <:+: (String.intercalate sep texts).toList := by
  induction texts with
  | nil => cases h
  | cons t texts ih =>
    cases texts with
    | nil => simp only [List.mem_singleton.1 h, String.intercalate_singleton, List.infix_rfl]
    | cons u texts =>
      rw [String.intercalate_cons_cons, String.toList_append, String.toList_append]
      rcases List.mem_cons.1 h with rfl | h
      · exact ((List.prefix_append ..).trans (List.prefix_append ..)).isInfix
      · exact (ih h).trans (List.suffix_append ..).isInfix

/-- The numbers of a command stand in its line. -/
theorem numerals_infix_line {c : Command} {s : String} (h : s ∈ c.numerals) : s.toList <:+: c.line.toList := by
  have happend : ∀ before after : String, s.toList <:+: (before ++ s ++ after).toList := by
    intro before after
    rw [String.toList_append, String.toList_append]
    exact List.infix_append ..
  cases c with
  | media pitch width height =>
    rcases List.mem_pair.1 h with rfl | rfl
    · have hline := happend (openTag 0 pitch ++ "SIZE ") (" mm, " ++ height.text ++ " mm")
      simpa only [line, String.append_assoc] using hline
    · exact happend (openTag 0 pitch ++ "SIZE " ++ width.text ++ " mm, ") " mm"
  | gap g =>
    obtain rfl := List.mem_singleton.1 h
    exact happend "GAP " " mm, 0 mm"
  | speed x =>
    obtain rfl := List.mem_singleton.1 h
    rw [line, String.toList_append]
    exact (List.suffix_append ..).isInfix
  | density d =>
    obtain rfl := List.mem_singleton.1 h
    rw [line, String.toList_append]
    exact (List.suffix_append ..).isInfix
  | qrCode place style data =>
    have hargument : s ∈ qrArguments place style data := by
      revert h
      simp only [numerals, qrArguments, List.mem_cons, List.not_mem_nil, or_false]
      tauto
    rw [line, String.toList_append]
    exact (infix_intercalate hargument).trans (List.suffix_append ..).isInfix
  | text place style content =>
    have hargument : s ∈ textArguments place style content := by
      revert h
      simp only [numerals, textArguments, List.mem_cons, List.not_mem_nil, or_false]
      tauto
    rw [line, String.toList_append]
    exact (infix_intercalate hargument).trans (List.suffix_append ..).isInfix
  | _ => cases h

/-- A command whose numbers are all plain numerals. -/
def IsPlain (c : Command) : Prop :=
  ∀ s ∈ c.numerals, IsPlainNumeral s

end Command

/-- The numbers of a document, in the order of its commands. -/
def Document.numerals (d : Document) : List String :=
  (d.header :: d.pages).flatMap fun block => block.flatMap Command.numerals

theorem Document.forall_mem_numerals {d : Document} : (∀ s ∈ d.numerals, IsPlainNumeral s) ↔
    (∀ c ∈ d.header, c.IsPlain) ∧ ∀ page ∈ d.pages, ∀ c ∈ page, c.IsPlain := by
  simp only [numerals, List.mem_flatMap, List.mem_cons, Command.IsPlain]
  constructor
  · intro h
    exact ⟨fun c hc s hs => h s ⟨_, .inl rfl, c, hc, hs⟩,
      fun page hpage c hc s hs => h s ⟨page, .inr hpage, c, hc, hs⟩⟩
  · rintro ⟨hheader, hpages⟩ s ⟨block, rfl | hpage, c, hc, hs⟩
    · exact hheader c hc s hs
    · exact hpages block hpage c hc s hs

theorem AreOnPage.entry {table : List Position} (h : AreOnPage table) (slot : Nat) :
    0 ≤ (Position.entry table slot).x ∧ 0 ≤ (Position.entry table slot).y := by
  cases table with
  | nil => exact ⟨by simp [Position.entry], by simp [Position.entry]⟩
  | cons p table =>
    refine h _ ?_
    rw [Position.entry, List.getD_eq_getElem?_getD]
    cases hslot : (p :: table)[slot]? with
    | none => exact List.mem_cons_self
    | some q => exact List.mem_of_getElem? hslot

theorem rotation_nonneg {n : ℤ} (h : n ∈ Options.rotations) : 0 ≤ n := by
  simp only [Options.rotations, List.mem_cons, List.not_mem_nil, or_false] at h
  omega

namespace Layout

/-- The numbers of a header that need not be whole. -/
def headerNumbers (l : Layout) : List Number :=
  [l .width, l .height, l .gap, l .speed]

/-- The multipliers of a style. -/
def styleNumbers (style : TextStyle) : List Number :=
  [style.xMul, style.yMul]

/-- The multipliers of the texts that go with a record. -/
def recordNumbers (l : Layout) : List Number :=
  (if l .includeIdText = true ∧ l .idTextPositions ≠ [] then styleNumbers l.textStyle else []) ++
    if l .nameTextPositions ≠ [] then styleNumbers l.nameStyle else []

/-- The multipliers of the text that goes with a bare value. -/
def valueNumbers (l : Layout) : List Number :=
  if l .textPositions ≠ [] then styleNumbers l.textStyle else []

section plain
variable {l : Layout} (hl : l.IsAllowed) (hd : l.HasDoubles)

include hl hd in
theorem headerBlock_isPlain (pitch : String) : (∀ c ∈ l.headerBlock pitch, c.IsPlain) ↔
    ∀ n ∈ l.headerNumbers, n.IsPlainlyWritten := by
  have hdensity : 0 ≤ l .density := (hl .density).1
  have hwidth : IsPlainNumeral (l .width).text ↔ _ := isPlainNumeral_number (hd .width)
  have hheight : IsPlainNumeral (l .height).text ↔ _ := isPlainNumeral_number (hd .height)
  have hgap : IsPlainNumeral (l .gap).text ↔ _ := isPlainNumeral_number (hd .gap)
  have hspeed : IsPlainNumeral (l .speed).text ↔ _ := isPlainNumeral_number (hd .speed)
  simp [headerBlock, headerNumbers, Command.IsPlain, Command.numerals, isPlainNumeral_signedNumeral,
    hdensity, hwidth, hheight, hgap, hspeed, and_assoc]

include hl in
theorem symbolBlock_isPlain (slot : Nat) (data : String) : ∀ c ∈ l.symbolBlock slot data, c.IsPlain := by
  have hplace := (hl .qrPositions).2.entry slot
  have hsize : (0 : ℤ) ≤ l .qrSize := zero_le_one.trans (hl .qrSize).1
  have hrotation : 0 ≤ l .qrRotation := rotation_nonneg (hl .qrRotation)
  rw [symbolBlock, List.forall_mem_cons]
  constructor
  · simp [Command.IsPlain, Command.numerals, isPlainNumeral_signedNumeral, qrStyle, hplace, hsize, hrotation]
  · split <;> simp [Command.IsPlain, Command.numerals]

theorem captionBlock_isPlain {table : List Position} (htable : AreOnPage table) (style : TextStyle)
    (hrotation : style.rotation ∈ Options.rotations) (hx : style.xMul.IsDouble) (hy : style.yMul.IsDouble)
    (slot : Nat) (content : String) : (∀ c ∈ captionBlock table style slot content, c.IsPlain) ↔
      ∀ n ∈ if table ≠ [] then styleNumbers style else [], n.IsPlainlyWritten := by
  have hplace := htable.entry slot
  have hrotation := rotation_nonneg hrotation
  rw [captionBlock]
  by_cases hempty : table = []
  · rw [if_pos hempty, if_neg (not_not.2 hempty)]
    exact iff_of_true (fun _ h => absurd h List.not_mem_nil) fun _ h => absurd h List.not_mem_nil
  · rw [if_neg hempty, if_pos hempty, List.forall_mem_singleton]
    simp [Command.IsPlain, Command.numerals, styleNumbers, isPlainNumeral_signedNumeral, hplace, hrotation,
      isPlainNumeral_number hx, isPlainNumeral_number hy]

include hl hd in
theorem label_isPlain (slot : Nat) (r : Record) : (∀ c ∈ l.label slot r, c.IsPlain) ↔
    ∀ n ∈ l.recordNumbers, n.IsPlainlyWritten := by
  have hid := captionBlock_isPlain (hl .idTextPositions) l.textStyle (hl .textRotation)
    (hd .textXMul) (hd .textYMul) slot r.id
  have hname := captionBlock_isPlain (hl .nameTextPositions) l.nameStyle (hl .nameTextRotation)
    (hd .nameTextXMul) (hd .nameTextYMul) slot r.name
  rw [label, recordNumbers, List.forall_mem_append, List.forall_mem_append, List.forall_mem_append, hname]
  refine and_congr_left fun _ => ⟨fun h => ?_, fun h => ⟨symbolBlock_isPlain hl slot r.payload, ?_⟩⟩
  · by_cases hincluded : l .includeIdText = true
    · simpa [hincluded] using hid.1 (by simpa [hincluded] using h.2)
    · simp [hincluded]
  · by_cases hincluded : l .includeIdText = true
    · simpa [hincluded] using hid.2 (by simpa [hincluded] using h)
    · simp [hincluded]

include hl hd in
theorem valueLabel_isPlain (slot : Nat) (v : String) : (∀ c ∈ l.valueLabel slot v, c.IsPlain) ↔
    ∀ n ∈ l.valueNumbers, n.IsPlainlyWritten := by
  have htext := captionBlock_isPlain (hl .textPositions) l.textStyle (hl .textRotation)
    (hd .textXMul) (hd .textYMul) slot v
  rw [valueLabel, valueNumbers, List.forall_mem_append, htext]
  exact and_iff_right (symbolBlock_isPlain hl slot v)

end plain

theorem sheet_isPlain {α : Type} (l : Layout) (pitch : String) {label : Nat → α → Block} {plain : Prop}
    (hlabel : ∀ slot item, (∀ c ∈ label slot item, c.IsPlain) ↔ plain) {items : List α} (hitems : items ≠ []) :
    (∀ c ∈ l.sheet pitch label items, c.IsPlain) ↔ plain := by
  have hframe : (∀ c ∈ [Command.tear pitch (l .tearOn), .clear], c.IsPlain) ∧
      ∀ c ∈ [Command.print, .close], c.IsPlain := by
    simp [Command.IsPlain, Command.numerals]
  rw [sheet, List.forall_mem_append, List.forall_mem_append, and_iff_left hframe.2, and_iff_right hframe.1]
  constructor
  · intro h
    obtain ⟨item, rest, rfl⟩ := List.exists_cons_of_ne_nil hitems
    refine (hlabel 0 item).1 fun c hc => h c (List.mem_flatMap.2 ⟨(item, 0), ?_, hc⟩)
    exact List.mem_cons_self
  · intro h
    exact forall_mem_labels fun slot item => (hlabel slot item).2 h

end Layout

namespace Generation

variable {α : Type} {options : Options} {stock : Stock} {l : Layout} {d : Document}
  {commands : Layout → Nat → α → Except RenderFault Block} {label : Layout → Nat → α → Block}
  (hlabel : ∀ l slot item, commands l slot item =
    if l .qrPositions = [] then .error .noQrPosition else .ok (label l slot item))

include hlabel in
theorem made_numerals_plain_iff (hg : options.IsGenuine) (hd : options.HoldsDoubles)
    (hl : (options.resolve stock).outcome = .ok l) {numbers : List Number}
    (hnumbers : ∀ slot item, (∀ c ∈ label l slot item, c.IsPlain) ↔ ∀ n ∈ numbers, n.IsPlainlyWritten)
    {items : List α} (hmade : made options stock commands items = .ok d) :
    (∀ s ∈ d.numerals, IsPlainNumeral s) ↔
      ∀ n ∈ l.headerNumbers ++ (if items = [] then [] else numbers), n.IsPlainlyWritten := by
  obtain ⟨l', pitch, spare, hmakes⟩ := (made_eq_ok_iff hlabel).1 hmade
  obtain rfl := Except.ok.inj (hl.symm.trans hmakes.resolved)
  rw [Document.forall_mem_numerals, hmakes.document_eq, List.forall_mem_append,
    Layout.headerBlock_isPlain (resolve_allows hg hl) (resolve_hasDoubles hd hl)]
  refine and_congr_right fun _ => ?_
  rw [List.forall_mem_map]
  by_cases hitems : items = []
  · rw [if_pos hitems, Page.split_eq_nil_iff.2 hitems]
    exact iff_of_true (fun _ h => absurd h List.not_mem_nil) fun _ h => absurd h List.not_mem_nil
  · rw [if_neg hitems]
    constructor
    · intro h
      have hpages : Page.split spare items ≠ [] := mt Page.split_eq_nil_iff.1 hitems
      obtain ⟨page, pages, hsplit⟩ := List.exists_cons_of_ne_nil hpages
      have hmem : page ∈ Page.split spare items := hsplit ▸ List.mem_cons_self
      exact (l.sheet_isPlain pitch hnumbers (Page.ne_nil_of_mem_split hmem)).1 (h page hmem)
    · intro h page hpage
      exact (l.sheet_isPlain pitch hnumbers (Page.ne_nil_of_mem_split hpage)).2 h

/-- **The numerals of a document are plain exactly when** its layout is written plainly: its lengths, its
speed and the multipliers of whichever texts the document prints. -/
theorem document_numerals_plain_iff {options : Options} (hg : options.IsGenuine) (hd : options.HoldsDoubles)
    {stock : Stock} {l : Layout} (hl : (options.resolve stock).outcome = .ok l) :
    (∀ (records : List Record) (d : Document), (assemble records stock options).outcome = .ok d →
      ((∀ s ∈ d.numerals, IsPlainNumeral s) ↔
        ∀ n ∈ l.headerNumbers ++ (if records = [] then [] else l.recordNumbers), n.IsPlainlyWritten)) ∧
    ∀ (values : List String) (size : Value) (d : Document), stockOf size = stock →
      (ofValues values size options).outcome = .ok d →
        ((∀ s ∈ d.numerals, IsPlainNumeral s) ↔
          ∀ n ∈ l.headerNumbers ++ (if values = [] then [] else l.valueNumbers), n.IsPlainlyWritten) := by
  have hallowed := resolve_allows hg hl
  have hdoubles := resolve_hasDoubles hd hl
  constructor
  · intro records d h
    rw [assemble_outcome] at h
    exact made_numerals_plain_iff Layout.recordCommands_eq hg hd hl (Layout.label_isPlain hallowed hdoubles) h
  · rintro values size d rfl h
    rw [ofValues_outcome] at h
    exact made_numerals_plain_iff Layout.valueCommands_eq hg hd hl (Layout.valueLabel_isPlain hallowed hdoubles) h

/-- The double nearest to a hundred thousandth. -/
def hundredThousandth : Binary64 := .finite false 5902958103587057 (-69)

/-- A gap of a hundred thousandth, which no numeral without an exponent is written for. -/
def fineGap : Options := .given (.map [(.text "gap_mm", .float hundredThousandth)])

theorem fineGap_isGenuine : fineGap.IsGenuine :=
  trivial

theorem fineGap_holdsDoubles : fineGap.HoldsDoubles := by
  intro entry hentry
  obtain rfl := List.mem_singleton.1 hentry
  exact (by decide : hundredThousandth.IsDouble)

theorem fineGap_assembled : ∃ l : Layout, (fineGap.resolve .small).outcome = .ok l ∧
    l .gap = .real hundredThousandth ∧
    (assemble [] .small fineGap).outcome = .ok ⟨l.headerBlock "25.0", []⟩ := by
  refine ⟨_, rfl, rfl, ?_⟩
  rw [assemble_outcome, made_of_resolved Layout.recordCommands_eq fineGap_isGenuine rfl, Page.split]
  rfl

theorem document_numerals_plain_iff_fineGap : ∃ (l : Layout) (d : Document),
    fineGap.IsGenuine ∧ fineGap.HoldsDoubles ∧ (fineGap.resolve .small).outcome = .ok l ∧
    (assemble [] .small fineGap).outcome = .ok d ∧ l .gap = .real hundredThousandth ∧
    ((∀ s ∈ d.numerals, IsPlainNumeral s) ↔ ∀ n ∈ l.headerNumbers ++ [], n.IsPlainlyWritten) := by
  obtain ⟨l, hl, hgap, hd⟩ := fineGap_assembled
  refine ⟨l, _, fineGap_isGenuine, fineGap_holdsDoubles, hl, hd, hgap, ?_⟩
  exact (document_numerals_plain_iff fineGap_isGenuine fineGap_holdsDoubles hl).1 [] _ hd

/-- With a fine gap the document has a numeral with an exponent. -/
theorem assemble_numerals_exponent : ∃ d : Document, (assemble [] .small fineGap).outcome = .ok d ∧
    "GAP 1e-05 mm, 0 mm" ∈ d.header.map Command.line ∧ "1e-05" ∈ d.numerals ∧ ¬IsPlainNumeral "1e-05" := by
  obtain ⟨l, -, hgap, hd⟩ := fineGap_assembled
  have htext : (l .gap).text = "1e-05" := by
    rw [hgap]
    rfl
  have hline : (Command.gap (l .gap)).line = "GAP 1e-05 mm, 0 mm" := by
    rw [Command.line, htext]
    rfl
  refine ⟨_, hd, ?_, ?_, fun h => h.not_mem (c := 'e') (by decide) (by decide) (by decide)⟩
  · simp [Layout.headerBlock, ← hline]
  · simp [Document.numerals, Layout.headerBlock, Command.numerals, htext]

end Generation
end LabelPress
