import LabelPress.Proofs.Document.Congruence
import LabelPress.Proofs.Document.Placement
import Mathlib.Data.List.GetD

/-!
# Tables of other lengths

A page reads the entries of its slots, and a slot past the end of a table reads the first entry. So a table can be
filled up with copies of its first entry to the items of a page, or lose the entries beyond them, and nothing else
is printed (`refit_prints_same`). A layout whose tables are filled has none that is too short.
-/

namespace LabelPress

/-- What becomes of a table: it stays, it is filled up, or it is cut off. -/
inductive Refit where
  | keep
  | fill
  | cut
  deriving DecidableEq, Repr

namespace Refit

/-- The table that becomes of one, for pages with room for so many items. There is no entry to fill an empty table
with. -/
def apply (room : Nat) : Refit → List Position → List Position
  | .keep, table => table
  | .fill, [] => []
  | .fill, first :: rest => (first :: rest).rightpad room first
  | .cut, table => table.take room

variable {room slot : Nat}

theorem apply_eq_nil_iff (hroom : 0 < room) (r : Refit) (table : List Position) :
    r.apply room table = [] ↔ table = [] := by
  cases r with
  | keep => exact Iff.rfl
  | fill =>
    cases table with
    | nil => exact Iff.rfl
    | cons first rest => exact iff_of_false (List.cons_ne_nil _ _) (List.cons_ne_nil _ _)
  | cut =>
    rw [apply, List.take_eq_nil_iff]
    exact or_iff_right (Nat.ne_of_gt hroom)

/-- The slots of a page read the same entries. -/
theorem entry_apply (hslot : slot < room) (r : Refit) (table : List Position) :
    Position.entry (r.apply room table) slot = Position.entry table slot := by
  cases r with
  | keep => rfl
  | fill =>
    cases table with
    | nil => rfl
    | cons first rest =>
      have hfirst : ((first :: rest).rightpad room first).headD ⟨0, 0⟩ = first := rfl
      rw [apply, Position.entry, Position.entry, hfirst, List.headD_cons, List.rightpad]
      rcases Nat.lt_or_ge slot (first :: rest).length with hown | hpast
      · exact List.getD_append _ _ _ _ hown
      · rw [List.getD_append_right _ _ _ _ hpast, List.getD_replicate _ (Nat.sub_lt_sub_right hpast hslot),
          List.getD_eq_default _ _ hpast]
  | cut =>
    have hfirst : (table.take room).headD ⟨0, 0⟩ = table.headD ⟨0, 0⟩ := by
      cases table with
      | nil => rw [List.take_nil]
      | cons first rest =>
        rw [← Nat.succ_pred_eq_of_pos (Nat.zero_lt_of_lt hslot), List.take_succ_cons]
        rfl
    rw [apply, Position.entry, Position.entry, hfirst, List.getD_eq_getElem?_getD, List.getD_eq_getElem?_getD,
      List.getElem?_take_of_lt hslot]

theorem le_length_fill {table : List Position} (hne : table ≠ []) : room ≤ (fill.apply room table).length := by
  cases table with
  | nil => exact absurd rfl hne
  | cons first rest =>
    rw [apply, List.length_rightpad]
    exact Nat.le_max_left ..

end Refit

namespace Layout

/-- The layout with its tables refitted to its items per page, each as it is said for it. -/
def refit (l : Layout) (r : Table → Refit) : Layout :=
  let room := Int.toNat (l .itemsPerPage)
  l.override fun
    | .qrPositions => some ((r .qr).apply room (l .qrPositions))
    | .textPositions => some ((r .text).apply room (l .textPositions))
    | .idTextPositions => some ((r .idText).apply room (l .idTextPositions))
    | .nameTextPositions => some ((r .nameText).apply room (l .nameTextPositions))
    | _ => none

variable (l : Layout) (r : Table → Refit)

theorem refit_table (t : Table) : (l.refit r).table t = (r t).apply (Int.toNat (l .itemsPerPage)) (l.table t) := by
  cases t <;> rfl

/-! ## What is printed with a refitted layout -/

theorem framesLike_refit (hroom : 0 < l .itemsPerPage) : (l.refit r).FramesLike l := by
  refine ⟨rfl, fun _ => rfl, rfl, rfl, ?_⟩
  exact Refit.apply_eq_nil_iff (Int.pos_iff_toNat_pos.1 hroom) (r .qr) (l .qrPositions)

variable {slot : Nat}

theorem captionBlock_refit {room : Nat} (hslot : slot < room) (r : Refit) (table : List Position) (style : TextStyle)
    (content : String) :
    captionBlock (r.apply room table) style slot content = captionBlock table style slot content := by
  unfold captionBlock
  rw [Refit.entry_apply hslot, if_congr (Refit.apply_eq_nil_iff (Nat.zero_lt_of_lt hslot) r table) rfl rfl]

variable (hslot : slot < Int.toNat (l .itemsPerPage))
include hslot

theorem symbolBlock_refit (data : String) : (l.refit r).symbolBlock slot data = l.symbolBlock slot data :=
  congrArg (fun place => Command.qrCode place l.qrStyle data :: if slot = 0 then [.codepage (l .codepage)] else [])
    (Refit.entry_apply hslot (r .qr) (l .qrPositions))

theorem label_refit (record : Record) : (l.refit r).label slot record = l.label slot record := by
  have hid := captionBlock_refit hslot (r .idText) (l .idTextPositions) l.textStyle record.id
  have hname := captionBlock_refit hslot (r .nameText) (l .nameTextPositions) l.nameStyle record.name
  rw [label, label, symbolBlock_refit l r hslot, ← hid, ← hname]
  rfl

theorem valueLabel_refit (v : String) : (l.refit r).valueLabel slot v = l.valueLabel slot v := by
  have htext := captionBlock_refit hslot (r .text) (l .textPositions) l.textStyle v
  rw [valueLabel, valueLabel, symbolBlock_refit l r hslot, ← htext]
  rfl

omit hslot

/-- A layout with filled tables has nothing to report. -/
theorem underflows_fill (tables : List Table) : (l.refit fun _ => .fill).underflows tables = [] := by
  refine List.eq_nil_iff_forall_not_mem.2 fun u hu => ?_
  obtain ⟨-, hentries, hperPage, hpos, hshort⟩ := mem_underflows_iff.1 hu
  rw [refit_table] at hentries
  have hne : l.table u.table ≠ [] := by
    intro hnil
    rw [hnil] at hentries
    exact Nat.ne_of_gt hpos hentries
  have hlong : Int.toNat (l .itemsPerPage) ≤
      (Refit.fill.apply (Int.toNat (l .itemsPerPage)) (l.table u.table)).length := Refit.le_length_fill hne
  have hroom : u.itemsPerPage = l .itemsPerPage := hperPage
  omega

end Layout

namespace Generation

theorem madeWith_refit_text {α : Type} {commands : Layout → Nat → α → Except RenderFault Block}
    {label : Layout → Nat → α → Block} (hcommands : ∀ l slot item, commands l slot item =
      if l .qrPositions = [] then .error .noQrPosition else .ok (label l slot item))
    (l : Layout) (r : Table → Refit)
    (hlabel : ∀ slot < Int.toNat (l .itemsPerPage), ∀ item, label (l.refit r) slot item = label l slot item)
    (items : List α) : (madeWith (l.refit r) (commands (l.refit r)) items).map Document.text =
      (madeWith l (commands l) items).map Document.text := by
  by_cases hroom : 0 < l .itemsPerPage
  · refine madeWith_text_congr hcommands hcommands (l.framesLike_refit r hroom) ?_
      (List.forall₂_same.2 fun _ _ => rfl)
    rintro slot hslot item _ rfl
    rw [hlabel slot (Int.lt_toNat.2 hslot)]
  · rw [madeWith_of_noRoom hroom, madeWith_of_noRoom (l := l.refit r) hroom]
    rfl

variable {options : Options} {stock : Stock} {l : Layout}

/-- **The length of a table does not matter beyond the slots of a page.** The layout of some options with any of its
tables filled up with the first entry, or cut off, prints records and values as they are printed with the options;
and with all tables filled there is nothing to report. -/
theorem refit_prints_same (hl : (options.resolve stock).outcome = .ok l) (r : Table → Refit) :
    (∀ records, (madeWith (l.refit r) (l.refit r).recordCommands records).map Document.text =
      (assemble records stock options).outcome.map Document.text) ∧
    (∀ values size, stockOf size = stock →
      (madeWith (l.refit r) (l.refit r).valueCommands values).map Document.text =
        (ofValues values size options).outcome.map Document.text) ∧
    ∀ tables, (l.refit fun _ => .fill).underflows tables = [] := by
  refine ⟨?_, ?_, l.underflows_fill⟩
  · intro records
    rw [assemble_outcome, made_of_layout hl]
    exact madeWith_refit_text Layout.recordCommands_eq l r (fun _ hslot => l.label_refit r hslot) records
  · rintro values size rfl
    rw [ofValues_outcome, made_of_layout hl]
    exact madeWith_refit_text Layout.valueCommands_eq l r (fun _ hslot => l.valueLabel_refit r hslot) values

/-- Three medium labels to a page, with one of four places of symbols cut off and the places of names filled up. -/
theorem refit_prints_same_medium : ∃ (options : Options) (l : Layout) (r : Table → Refit) (d : Document),
    (options.resolve .medium).outcome = .ok l ∧
    (l.refit r).table .qr = [⟨1, 2⟩, ⟨3, 4⟩, ⟨5, 6⟩] ∧ (l.refit r).table .nameText = List.replicate 3 ⟨696, 80⟩ ∧
    (assemble [⟨"a", "A", "1"⟩, ⟨"b", "B", "2"⟩] .medium options).outcome = .ok d ∧
    (madeWith (l.refit r) (l.refit r).recordCommands [⟨"a", "A", "1"⟩, ⟨"b", "B", "2"⟩]).map Document.text =
      .ok d.text := by
  let options : Options := .given (.map [(.text "itemsPerRow", .text "3"), (.text "qrPositions", .list
    [.list [.int 1, .int 2], .tuple [.int 3, .int 4], .position ⟨5, 6⟩, .list [.int 7, .int 8]])])
  let r : Table → Refit
    | .qr => .cut
    | .nameText => .fill
    | .text | .idText => .keep
  obtain ⟨l, pitch, hl, hpitch, hroom, hqr, hcut, hfilled⟩ : ∃ l pitch,
      (options.resolve .medium).outcome = .ok l ∧
      Pitch.text? (l .height) = some pitch ∧ l .itemsPerPage = ((2 : Nat) : Int) + 1 ∧ l .qrPositions ≠ [] ∧
      (l.refit r).table .qr = [⟨1, 2⟩, ⟨3, 4⟩, ⟨5, 6⟩] ∧
      (l.refit r).table .nameText = List.replicate 3 ⟨696, 80⟩ :=
    ⟨_, _, rfl, rfl, rfl, List.cons_ne_nil _ _, rfl, rfl⟩
  obtain ⟨d, hd⟩ : ∃ d, (assemble [⟨"a", "A", "1"⟩, ⟨"b", "B", "2"⟩] .medium options).outcome = .ok d := by
    rw [assemble_outcome, made_of_room Layout.recordCommands_eq hl hroom, hpitch]
    exact ⟨_, if_neg fun h => hqr h.1⟩
  refine ⟨options, l, r, d, hl, hcut, hfilled, hd, ?_⟩
  rw [(refit_prints_same hl r).1, hd]
  rfl

end Generation
end LabelPress
