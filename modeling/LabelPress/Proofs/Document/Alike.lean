import LabelPress.Proofs.Document.Captions

/-!
# Layouts that print alike

A number is printed as its text, and a height as a pitch too, so two choices for a setting can print alike without
being the same. Layouts that do so in every setting give documents of the same text (`Layout.PrintsLike.assemble_text`,
`Layout.PrintsLike.ofValues_text`) and the same reports on their tables (`Layout.PrintsLike.underflowEvents_eq`).
-/

namespace LabelPress

/-- Choices for a setting that are the same in print. -/
def Setting.PrintsLike : (s : Setting) → s.Choice → s.Choice → Prop
  | .height, a, b => a.text = b.text ∧ Pitch.text? a = Pitch.text? b
  | .width, a, b | .gap, a, b | .speed, a, b => a.text = b.text
  | .textXMul, a, b | .textYMul, a, b | .nameTextXMul, a, b | .nameTextYMul, a, b => a.text = b.text
  | .density, a, b | .ribbonOn, a, b | .tearOn, a, b | .codepage, a, b | .itemsPerPage, a, b => a = b
  | .qrPositions, a, b | .textPositions, a, b | .idTextPositions, a, b | .nameTextPositions, a, b => a = b
  | .qrModel, a, b | .qrSize, a, b | .qrRotation, a, b | .qrMask, a, b | .qrErrorLevel, a, b => a = b
  | .textFont, a, b | .textRotation, a, b | .nameTextFont, a, b | .nameTextRotation, a, b => a = b
  | .includeIdText, a, b => a = b

namespace Setting.PrintsLike
variable {s : Setting} {a b c : s.Choice}

theorem refl (s : Setting) (c : s.Choice) : s.PrintsLike c c := by
  cases s with
  | height => exact ⟨rfl, rfl⟩
  | _ => exact rfl

theorem trans (hab : s.PrintsLike a b) (hbc : s.PrintsLike b c) : s.PrintsLike a c := by
  cases s with
  | height => exact ⟨hab.1.trans hbc.1, hab.2.trans hbc.2⟩
  | _ => exact Eq.trans hab hbc

end Setting.PrintsLike

namespace Layout

/-- Layouts that are the same in print. -/
def PrintsLike (l l' : Layout) : Prop :=
  ∀ s : Setting, s.PrintsLike (l s) (l' s)

variable {l l' l'' : Layout}

theorem PrintsLike.refl (l : Layout) : l.PrintsLike l :=
  fun s => .refl s (l s)

theorem PrintsLike.trans (h : l.PrintsLike l') (h' : l'.PrintsLike l'') : l.PrintsLike l'' :=
  fun s => (h s).trans (h' s)

variable (h : l.PrintsLike l')
include h

/-! ## What is printed -/

theorem PrintsLike.framesLike : l.FramesLike l' := by
  have hqr : l .qrPositions = l' .qrPositions := h .qrPositions
  refine ⟨(h .height).2, fun pitch => ?_, h .tearOn, h .itemsPerPage, by rw [hqr]⟩
  apply Block.text_congr
  have hwidth : (l .width).text = (l' .width).text := h .width
  have hgap : (l .gap).text = (l' .gap).text := h .gap
  have hspeed : (l .speed).text = (l' .speed).text := h .speed
  have hdensity : l .density = l' .density := h .density
  have hribbon : l .ribbonOn = l' .ribbonOn := h .ribbonOn
  simp only [headerBlock, Block.lines, List.map_cons, Command.line, hwidth, (h .height).1, hgap, hspeed, hdensity,
    hribbon]

theorem PrintsLike.textStyle : l.textStyle.PrintsLike l'.textStyle :=
  ⟨h .textFont, congrArg signedNumeral (h .textRotation), h .textXMul, h .textYMul⟩

theorem PrintsLike.nameStyle : l.nameStyle.PrintsLike l'.nameStyle :=
  ⟨h .nameTextFont, congrArg signedNumeral (h .nameTextRotation), h .nameTextXMul, h .nameTextYMul⟩

theorem PrintsLike.table_eq (t : Table) : l.table t = l'.table t := by
  cases t with
  | qr => exact h .qrPositions
  | text => exact h .textPositions
  | idText => exact h .idTextPositions
  | nameText => exact h .nameTextPositions

theorem PrintsLike.symbolBlock_eq (slot : Nat) (data : String) :
    l.symbolBlock slot data = l'.symbolBlock slot data := by
  have hplaces : l .qrPositions = l' .qrPositions := h .qrPositions
  have hcodepage : l .codepage = l' .codepage := h .codepage
  have hstyle : l.qrStyle = l'.qrStyle := by
    rw [qrStyle, qrStyle, QrStyle.mk.injEq]
    exact ⟨h .qrModel, h .qrSize, h .qrRotation, h .qrMask, h .qrErrorLevel⟩
  rw [symbolBlock, symbolBlock, hplaces, hcodepage, hstyle]

theorem PrintsLike.label_lines (slot : Nat) (r : Record) : (l.label slot r).lines = (l'.label slot r).lines := by
  have hid : l .includeIdText = l' .includeIdText := h .includeIdText
  have hids : l .idTextPositions = l' .idTextPositions := h .idTextPositions
  have hnames : l .nameTextPositions = l' .nameTextPositions := h .nameTextPositions
  rw [label, label, h.symbolBlock_eq, hid, hids, hnames]
  simp only [Block.lines_append, captionBlock_lines_congr h.nameStyle]
  split
  · rw [captionBlock_lines_congr h.textStyle]
  · rfl

theorem PrintsLike.valueLabel_lines (slot : Nat) (v : String) :
    (l.valueLabel slot v).lines = (l'.valueLabel slot v).lines := by
  have hplaces : l .textPositions = l' .textPositions := h .textPositions
  rw [valueLabel, valueLabel, h.symbolBlock_eq, hplaces, Block.lines_append, Block.lines_append,
    captionBlock_lines_congr h.textStyle]

/-! ## What is reported -/

theorem PrintsLike.recordTables_eq : l.recordTables = l'.recordTables := by
  have hid : l .includeIdText = l' .includeIdText := h .includeIdText
  rw [recordTables, recordTables, hid]

theorem PrintsLike.underflowEvents_eq (stock : Stock) (tables : List Table) :
    Generation.underflowEvents stock l tables = Generation.underflowEvents stock l' tables := by
  have hperPage : l .itemsPerPage = l' .itemsPerPage := h .itemsPerPage
  have hshort : Underflow.ofTable? l = Underflow.ofTable? l' := by
    funext t
    rw [Underflow.ofTable?, Underflow.ofTable?, h.table_eq, hperPage]
  simp only [Generation.underflowEvents, underflows, hshort, hperPage, h.table_eq]

omit h

/-! ## Documents -/

variable {options options' : Options} {stock : Stock} (hl : (options.resolve stock).outcome = .ok l)
  (hl' : (options'.resolve stock).outcome = .ok l')
include hl hl'

theorem PrintsLike.assemble_text (h : l.PrintsLike l') (records : List Record) :
    (Generation.assemble records stock options).outcome.map Document.text =
      (Generation.assemble records stock options').outcome.map Document.text := by
  rw [Generation.assemble_outcome, Generation.assemble_outcome]
  refine Generation.made_text_congr recordCommands_eq recordCommands_eq hl hl' h.framesLike ?_
    (List.forall₂_same.2 fun r _ => rfl)
  rintro slot - r _ rfl
  exact h.label_lines slot r

theorem PrintsLike.ofValues_text (h : l.PrintsLike l') {size : Value} (hsize : Generation.stockOf size = stock)
    (values : List String) :
    (Generation.ofValues values size options).outcome.map Document.text =
      (Generation.ofValues values size options').outcome.map Document.text := by
  subst hsize
  rw [Generation.ofValues_outcome, Generation.ofValues_outcome]
  refine Generation.made_text_congr valueCommands_eq valueCommands_eq hl hl' h.framesLike ?_
    (List.forall₂_same.2 fun v _ => rfl)
  rintro slot - v _ rfl
  exact h.valueLabel_lines slot v

end Layout
end LabelPress
