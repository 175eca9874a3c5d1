import LabelPress.Proofs.Generation

/-!
# Documents with the same text

Two ways to make a document give the same text if they agree in the header, in what frames a page and in the lines
of every label that can stand on one (`madeWith_text_congr`). The labels may be of different kinds and of different
layouts, and only slots that a page has are looked at.
-/

namespace LabelPress

/-- The lines of the commands of a block. -/
def Block.lines (b : Block) : List String :=
  b.map Command.line

theorem Block.text_congr {a b : Block} (h : a.lines = b.lines) : a.text = b.text :=
  congrArg (String.intercalate "\n\n") h

theorem Block.lines_append (a b : Block) : lines (a ++ b) = a.lines ++ b.lines :=
  List.map_append

theorem Document.text_congr {d d' : Document} (hheader : d.header.text = d'.header.text)
    (hpages : d.pages.map Block.text = d'.pages.map Block.text) : d.text = d'.text := by
  rw [text, text, hheader, hpages]

namespace Layout
variable {α β : Type} {l l' : Layout} {R : α → β → Prop} {label : Nat → α → Block} {label' : Nat → β → Block}

/-- Two layouts that agree in all of a document but its labels. -/
structure FramesLike (l l' : Layout) : Prop where
  pitch_eq : Pitch.text? (l .height) = Pitch.text? (l' .height)
  header_eq : ∀ pitch, (l.headerBlock pitch).text = (l'.headerBlock pitch).text
  tearOn_eq : l .tearOn = l' .tearOn
  itemsPerPage_eq : l .itemsPerPage = l' .itemsPerPage
  placed_iff : l .qrPositions = [] ↔ l' .qrPositions = []

theorem FramesLike.refl (l : Layout) : l.FramesLike l :=
  ⟨rfl, fun _ => rfl, rfl, rfl, Iff.rfl⟩

theorem labels_lines_congr {bound slot : Nat} (hlabel : ∀ slot < bound, ∀ x y, R x y →
    (label slot x).lines = (label' slot y).lines) {xs : List α} {ys : List β} (h : List.Forall₂ R xs ys)
    (hbound : slot + xs.length ≤ bound) : (labels label slot xs).lines = (labels label' slot ys).lines := by
  induction h generalizing slot with
  | nil => rfl
  | cons hxy h ih =>
    rw [List.length_cons] at hbound
    rw [labels, labels, List.zipIdx_cons, List.zipIdx_cons, List.flatMap_cons, List.flatMap_cons,
      Block.lines_append, Block.lines_append, hlabel slot (by omega) _ _ hxy]
    exact congrArg _ (ih (by omega))

theorem sheet_text_congr (pitch : String) (htear : l .tearOn = l' .tearOn) {bound : Nat}
    (hlabel : ∀ slot < bound, ∀ x y, R x y → (label slot x).lines = (label' slot y).lines)
    {xs : List α} {ys : List β} (h : List.Forall₂ R xs ys) (hbound : xs.length ≤ bound) :
    (l.sheet pitch label xs).text = (l'.sheet pitch label' ys).text := by
  apply Block.text_congr
  rw [sheet, sheet, Block.lines_append, Block.lines_append, Block.lines_append, Block.lines_append, htear,
    labels_lines_congr hlabel h (by omega)]

end Layout

namespace Generation
variable {α β : Type} {options options' : Options} {stock stock' : Stock} {l l' : Layout} {R : α → β → Prop}
  {commands : Layout → Nat → α → Except RenderFault Block} {label : Layout → Nat → α → Block}
  {commands' : Layout → Nat → β → Except RenderFault Block} {label' : Layout → Nat → β → Block}
  (hcommands : ∀ l slot item, commands l slot item =
    if l .qrPositions = [] then .error .noQrPosition else .ok (label l slot item))
  (hcommands' : ∀ l slot item, commands' l slot item =
    if l .qrPositions = [] then .error .noQrPosition else .ok (label' l slot item))

include hcommands hcommands' in
/-- **Documents have the same text** if their labels have the same lines. -/
theorem madeWith_text_congr (hframes : l.FramesLike l')
    (hlabel : ∀ slot : Nat, slot < l .itemsPerPage → ∀ x y, R x y →
      (label l slot x).lines = (label' l' slot y).lines)
    {xs : List α} {ys : List β} (h : List.Forall₂ R xs ys) :
    (madeWith l (commands l) xs).map Document.text = (madeWith l' (commands' l') ys).map Document.text := by
  by_cases hroom : 0 < l .itemsPerPage
  · obtain ⟨spare, hspare⟩ := Int.eq_succ_of_zero_lt hroom
    rw [madeWith_of_room hcommands hspare, madeWith_of_room hcommands' (hframes.itemsPerPage_eq ▸ hspare),
      ← hframes.pitch_eq]
    cases Pitch.text? (l .height) with
    | none => rfl
    | some pitch =>
      have hplaced : (l .qrPositions = [] ∧ xs ≠ []) ↔ (l' .qrPositions = [] ∧ ys ≠ []) := by
        refine and_congr hframes.placed_iff ?_
        cases h <;> simp
      have hpages : List.Forall₂ (fun page page' => (l.sheet pitch (label l) page).text =
          (l'.sheet pitch (label' l') page').text) (Page.split spare xs) (Page.split spare ys) := by
        have hslots : ∀ slot < spare + 1, ∀ x y, R x y → (label l slot x).lines = (label' l' slot y).lines := by
          intro slot hslot
          refine hlabel slot ?_
          rw [hspare]
          exact Int.ofNat_lt.2 hslot
        exact (Page.forall₂_split_le h).imp fun _ _ hpage =>
          Layout.sheet_text_congr pitch hframes.tearOn_eq hslots hpage.2 hpage.1
      dsimp only
      rw [if_congr hplaced rfl rfl]
      split
      · rfl
      · refine congrArg Except.ok (Document.text_congr (hframes.header_eq pitch) ?_)
        rw [List.map_map, List.map_map]
        exact List.forall₂_eq_eq_eq ▸ List.forall₂_map_left_iff.2 (List.forall₂_map_right_iff.2 hpages)
  · rw [madeWith_of_noRoom hroom, madeWith_of_noRoom (hframes.itemsPerPage_eq ▸ hroom), hframes.itemsPerPage_eq]

include hcommands hcommands' in
/-- The same for the layouts that options resolve to. -/
theorem made_text_congr (hl : (options.resolve stock).outcome = .ok l)
    (hl' : (options'.resolve stock').outcome = .ok l') (hframes : l.FramesLike l')
    (hlabel : ∀ slot : Nat, slot < l .itemsPerPage → ∀ x y, R x y →
      (label l slot x).lines = (label' l' slot y).lines)
    {xs : List α} {ys : List β} (h : List.Forall₂ R xs ys) :
    (made options stock commands xs).map Document.text =
      (made options' stock' commands' ys).map Document.text := by
  rw [made_of_layout hl, made_of_layout hl']
  exact madeWith_text_congr hcommands hcommands' hframes hlabel h

end Generation
end LabelPress
