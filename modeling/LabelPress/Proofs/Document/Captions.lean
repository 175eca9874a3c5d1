import LabelPress.Proofs.Document.Congruence

/-!
# Values as records

A bare value is printed with itself as its caption. If a layout prints names where and as it prints captions, and no
ids, then the document for values is the document for records whose payload and name are the values; and if it prints
ids with captions, and no names, it is that for records whose payload and id are the values
(`values_text_eq_records`).
-/

namespace LabelPress

/-- Two styles in which every text is printed the same. -/
structure TextStyle.PrintsLike (a b : TextStyle) : Prop where
  font : a.font = b.font
  rotation : signedNumeral a.rotation = signedNumeral b.rotation
  xMul : a.xMul.text = b.xMul.text
  yMul : a.yMul.text = b.yMul.text

theorem TextStyle.PrintsLike.line_text {a b : TextStyle} (h : a.PrintsLike b) (place : Position) (content : String) :
    (Command.text place a content).line = (Command.text place b content).line := by
  simp only [Command.line, Command.textArguments, h.font, h.rotation, h.xMul, h.yMul]

namespace Layout

/-- A layout that prints names as captions of values: at their places and like them, and without ids. -/
structure CaptionsNames (l : Layout) : Prop where
  noId : l .includeIdText = false
  places : l .nameTextPositions = l .textPositions
  style : l.nameStyle.PrintsLike l.textStyle

/-- A layout that prints ids as captions of values, and no names. -/
structure CaptionsIds (l : Layout) : Prop where
  withId : l .includeIdText = true
  places : l .idTextPositions = l .textPositions
  noName : l .nameTextPositions = []

theorem captionBlock_lines_congr {a b : TextStyle} (h : a.PrintsLike b) (table : List Position) (slot : Nat)
    (content : String) : (captionBlock table a slot content).lines = (captionBlock table b slot content).lines := by
  unfold captionBlock
  split
  · rfl
  · exact congrArg (fun line => [line]) (h.line_text _ content)

variable {l : Layout}

/-- The label of a value is that of a record with the value as payload and name. -/
theorem CaptionsNames.valueLabel_lines (h : l.CaptionsNames) (slot : Nat) {v : String} {r : Record}
    (hpayload : r.payload = v) (hname : r.name = v) : (l.valueLabel slot v).lines = (l.label slot r).lines := by
  simp only [valueLabel, label, h.noId, h.places, hpayload, hname, Bool.false_eq_true, if_false, List.append_nil,
    Block.lines_append, captionBlock_lines_congr h.style]

/-- The label of a value is that of a record with the value as payload and id. -/
theorem CaptionsIds.valueLabel_eq (h : l.CaptionsIds) (slot : Nat) {v : String} {r : Record}
    (hpayload : r.payload = v) (hid : r.id = v) : l.valueLabel slot v = l.label slot r := by
  have hnone : captionBlock [] l.nameStyle slot r.name = [] := if_pos rfl
  simp only [valueLabel, label, h.withId, h.places, h.noName, hpayload, hid, if_true, hnone, List.append_nil]

end Layout

/-- The medium and the large stock print names as captions. -/
theorem stock_captionsNames {stock : Stock} (h : stock ≠ .small) : stock.layout.CaptionsNames := by
  cases stock with
  | small => exact absurd rfl h
  | medium => exact ⟨rfl, rfl, rfl, rfl, rfl, rfl⟩
  | large => exact ⟨rfl, rfl, rfl, rfl, rfl, rfl⟩

namespace Generation

/-- The text of the document for values is that of the document for some records, and there is none for the one if
there is none for the other. -/
def PrintsAs (values : List String) (records : List Record) (size : Value) (options : Options) : Prop :=
  (ofValues values size options).outcome.map Document.text =
    (assemble records (stockOf size) options).outcome.map Document.text

variable {options : Options} {size : Value} {l : Layout}

theorem printsAs_of_captionsNames (hl : (options.resolve (stockOf size)).outcome = .ok l) (h : l.CaptionsNames)
    {values : List String} {records : List Record}
    (hrecords : List.Forall₂ (fun v r => r.payload = v ∧ r.name = v) values records) :
    PrintsAs values records size options := by
  rw [PrintsAs, ofValues_outcome, assemble_outcome]
  refine made_text_congr Layout.valueCommands_eq Layout.recordCommands_eq hl hl (.refl l) ?_ hrecords
  intro slot _ v r hr
  exact h.valueLabel_lines slot hr.1 hr.2

theorem printsAs_of_captionsIds (hl : (options.resolve (stockOf size)).outcome = .ok l) (h : l.CaptionsIds)
    {values : List String} {records : List Record}
    (hrecords : List.Forall₂ (fun v r => r.payload = v ∧ r.id = v) values records) :
    PrintsAs values records size options := by
  rw [PrintsAs, ofValues_outcome, assemble_outcome]
  refine made_text_congr Layout.valueCommands_eq Layout.recordCommands_eq hl hl (.refl l) ?_ hrecords
  intro slot _ v r hr
  rw [h.valueLabel_eq slot hr.1 hr.2]

/-- **Values are printed as records** with the value as payload and as the one text of the label, wherever a layout
captions labels with names or with ids alone. Without options the medium and the large stock are such. -/
theorem values_text_eq_records (options : Options) (size : Value) (l : Layout)
    (hl : (options.resolve (stockOf size)).outcome = .ok l) :
    (l.CaptionsNames → ∀ values records,
      List.Forall₂ (fun v (r : Record) => r.payload = v ∧ r.name = v) values records →
      PrintsAs values records size options) ∧
    (l.CaptionsIds → ∀ values records,
      List.Forall₂ (fun v (r : Record) => r.payload = v ∧ r.id = v) values records →
      PrintsAs values records size options) ∧
    ∀ size, stockOf size ≠ .small → ∀ values records,
      List.Forall₂ (fun v (r : Record) => r.payload = v ∧ r.name = v) values records →
      PrintsAs values records size .absent := by
  refine ⟨fun h _ _ => printsAs_of_captionsNames hl h, fun h _ _ => printsAs_of_captionsIds hl h, ?_⟩
  intro size hsize _ _
  exact printsAs_of_captionsNames (resolve_absent (stockOf size)) (stock_captionsNames hsize)

/-- Names drawn like captions by options that give the same numbers as texts, and ids in the place of names. -/
theorem values_text_eq_records_small :
    (∃ options l, (Options.resolve (stockOf (.text "25x25")) options).outcome = .ok l ∧ l.CaptionsNames ∧
      l .nameTextXMul ≠ l .textXMul ∧
      PrintsAs ["a", "b", "c", "d", "e\n"] (["a", "b", "c", "d", "e\n"].map fun v => ⟨v, v, "id"⟩) (.text "25x25")
        options) ∧
    ∃ options l, (Options.resolve (stockOf (.text "Small")) options).outcome = .ok l ∧ l.CaptionsIds ∧
      PrintsAs ["a", "a"] [⟨"a", "x", "a"⟩, ⟨"a", "y", "a"⟩] (.text "Small") options := by
  constructor
  · let options : Options := .given (.map [(.text "nameTextFont", .text "ROMAN.TTF"),
      (.text "name_text_x_mul", .text "1.0"), (.text "nameTextYMul", .int 8)])
    obtain ⟨l, hl, hnames, hmul⟩ : ∃ l, (options.resolve (stockOf (.text "25x25"))).outcome = .ok l ∧
        l.CaptionsNames ∧ l .nameTextXMul ≠ l .textXMul :=
      ⟨_, rfl, ⟨rfl, rfl, rfl, rfl, rfl, rfl⟩, by decide +kernel⟩
    refine ⟨options, l, hl, hnames, hmul, ?_⟩
    refine (values_text_eq_records options _ l hl).1 hnames _ _ ?_
    simp
  · let options : Options := .given (.map [(.text "include_id_text", .text "yes"),
      (.text "nameTextPositions", .list [])])
    obtain ⟨l, hl, hids⟩ : ∃ l, (options.resolve (stockOf (.text "Small"))).outcome = .ok l ∧ l.CaptionsIds :=
      ⟨_, rfl, rfl, rfl, rfl⟩
    refine ⟨options, l, hl, hids, ?_⟩
    refine (values_text_eq_records options _ l hl).2.1 hids _ _ ?_
    simp

end Generation
end LabelPress
