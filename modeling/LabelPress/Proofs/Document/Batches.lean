import LabelPress.Proofs.Generation.Ending

/-!
# Printing in batches

Nothing is carried from one page to the next: slots are numbered anew on each, and each chooses its codepage. So the
pages for a batch that fills them, and for a second one behind it, are those of the two batches in turn, and what is
changed among the later items leaves the earlier pages as they are (`prints_in_pages`).
-/

namespace LabelPress

/-- The text of some pages, with nothing between them. -/
def pagesText (pages : List Block) : String :=
  String.join (pages.map Block.text)

theorem pagesText_append (pages more : List Block) :
    pagesText (pages ++ more) = pagesText pages ++ pagesText more := by
  rw [pagesText, List.map_append, String.join_append]
  rfl

namespace Generation
variable {α : Type}

/-- Generation that puts `k` items on a page: the documents for all items have one header and one end, and between
them pages that depend on their own items alone. -/
structure PrintsInPages (k : Nat) (outcome : List α → Except GenerationError Document) (header : Block)
    (pages : List α → List Block) : Prop where
  outcome_eq : ∀ items, ∃ d, outcome items = .ok d ∧ d.header = header ∧ d.pages = pages items ∧
    d.text = header.text ++ pagesText (pages items) ++ endTag
  /-- A batch that fills its pages is printed as if nothing followed, and what follows as if nothing went before. -/
  append : ∀ first second, k ∣ first.length → pages (first ++ second) = pages first ++ pages second ∧
    pagesText (pages (first ++ second)) = pagesText (pages first) ++ pagesText (pages second)
  /-- Items from number `j` on are not printed before page `j / k`. -/
  take_eq : ∀ j items items', items.take j = items'.take j →
    (pages items).take (j / k) = (pages items').take (j / k)

variable {options : Options} {stock : Stock} {l : Layout} {k : Nat}
  {commands : Layout → Nat → α → Except RenderFault Block} {label : Layout → Nat → α → Block}

theorem take_map_split {β : Type} (f : List α → β) {spare j : Nat} {items items' : List α}
    (h : items.take j = items'.take j) :
    ((Page.split spare items).map f).take (j / (spare + 1)) =
      ((Page.split spare items').map f).take (j / (spare + 1)) := by
  have hle : j / (spare + 1) * (spare + 1) ≤ j := Nat.div_mul_le_self j (spare + 1)
  have hitems : items.take (j / (spare + 1) * (spare + 1)) = items'.take (j / (spare + 1) * (spare + 1)) := by
    rw [← Nat.min_eq_left hle, ← List.take_take, h, List.take_take]
  rw [← List.map_take, ← List.map_take, Page.take_split, Page.take_split, hitems]

theorem made_printsInPages (hlabel : ∀ l slot item, commands l slot item =
      if l .qrPositions = [] then .error .noQrPosition else .ok (label l slot item))
    (hg : options.IsGenuine) (hl : (options.resolve stock).outcome = .ok l) (hk : l .itemsPerPage = (k : Int)) :
    ((l .height).ExceedsPitch ∧ ∀ items, made options stock commands items = .error (.rendering .noPitch)) ∨
      ∃ header pages, PrintsInPages k (made options stock commands) header pages := by
  have hallowed := resolve_allows hg hl
  obtain ⟨spare, hroom⟩ := Int.eq_succ_of_zero_lt (hallowed .itemsPerPage)
  obtain rfl : k = spare + 1 := by
    rw [hroom] at hk
    exact (Int.ofNat.inj hk).symm
  have hmade := made_of_resolved hlabel hg hl
  cases hpitch : Pitch.text? (l .height) with
  | none =>
    refine .inl ⟨(Pitch.text?_eq_none_iff (hallowed .height)).1 hpitch, fun items => ?_⟩
    rw [hmade, hpitch]
  | some pitch =>
    refine .inr ⟨l.headerBlock pitch, fun items => (Page.split spare items).map (l.sheet pitch (label l)), ?_, ?_, ?_⟩
    · intro items
      rw [hmade, hpitch, hroom]
      exact ⟨_, rfl, rfl, rfl, rfl⟩
    · intro first second hfull
      have hpages : (Page.split spare (first ++ second)).map (l.sheet pitch (label l)) =
          (Page.split spare first).map (l.sheet pitch (label l)) ++
            (Page.split spare second).map (l.sheet pitch (label l)) := by
        rw [Page.split_append hfull, List.map_append]
      exact ⟨hpages, (congrArg pagesText hpages).trans (pagesText_append _ _)⟩
    · intro j items items' h
      exact take_map_split _ h

/-- **Printing in batches is printing at once**, for records as for values, unless the height of the layout is too
great for any page. -/
theorem prints_in_pages (hg : options.IsGenuine) (hl : (options.resolve stock).outcome = .ok l)
    (hk : l .itemsPerPage = (k : Int)) :
    (((l .height).ExceedsPitch ∧
        ∀ records, (assemble records stock options).outcome = .error (.rendering .noPitch)) ∨
      ∃ header pages, PrintsInPages k (fun records => (assemble records stock options).outcome) header pages) ∧
    ∀ size, stockOf size = stock →
      ((l .height).ExceedsPitch ∧
        ∀ values, (ofValues values size options).outcome = .error (.rendering .noPitch)) ∨
      ∃ header pages, PrintsInPages k (fun values => (ofValues values size options).outcome) header pages := by
  constructor
  · simp only [assemble_outcome]
    exact made_printsInPages Layout.recordCommands_eq hg hl hk
  · rintro size rfl
    simp only [ofValues_outcome]
    exact made_printsInPages Layout.valueCommands_eq hg hl hk

/-- Two medium labels fill a page, so the third is printed by itself. -/
theorem prints_in_pages_medium : Options.absent.IsGenuine ∧
    (Options.absent.resolve .medium).outcome = .ok Stock.medium.layout ∧
    Stock.medium.layout .itemsPerPage = ((2 : Nat) : Int) ∧
    ∃ header pages, PrintsInPages 2 (fun records => (assemble records .medium .absent).outcome) header pages ∧
      pages ([⟨"a", "A", "1"⟩, ⟨"b", "B", "2"⟩] ++ [⟨"c", "C", "3"⟩]) =
        pages [⟨"a", "A", "1"⟩, ⟨"b", "B", "2"⟩] ++ pages [⟨"c", "C", "3"⟩] := by
  have hg : Options.absent.IsGenuine := trivial
  have hl := resolve_absent .medium
  have htwo : Stock.medium.layout .itemsPerPage = ((2 : Nat) : Int) := rfl
  refine ⟨hg, hl, htwo, ?_⟩
  rcases (prints_in_pages hg hl htwo).1 with ⟨-, hnone⟩ | ⟨header, pages, hpages⟩
  · obtain ⟨d, hd⟩ := exists_made_absent Layout.recordCommands_eq .medium []
    have hnone := hnone []
    rw [assemble_outcome, hd] at hnone
    cases hnone
  · refine ⟨header, pages, hpages, (hpages.append _ _ ?_).1⟩
    exact Nat.dvd_refl 2

end Generation
end LabelPress
