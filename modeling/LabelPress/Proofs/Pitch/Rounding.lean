import LabelPress.Proofs.Digits
import LabelPress.Proofs.Document.Characters
import LabelPress.Proofs.Generation.Ending
import LabelPress.Proofs.Options.Printable

/-!
# Rounding to tenths

A pitch is read back as a number of tenths (`Pitch.shownTenths?`), and these are the tenths nearest to the exact value
of the height, a half going up. So a pitch is within half a tenth of its height and no greater height has a smaller one
(`Pitch.isRounded`, `Pitch.IsRounded.mono`). Header and pages of a document open with the pitch of one height
(`Generation.pitch_roundsHalfUp`).
-/

namespace LabelPress

/-! ## The nearest tenths -/

/-- The tenths of a value, a half going up. -/
def nearestTenths (v : ℚ) : Nat := ⌊10 * v + 1 / 2⌋₊

section
variable {v w : ℚ} {q : Nat}

theorem nearestTenths_eq_iff (hv : 0 ≤ v) :
    nearestTenths v = q ↔ (q : ℚ) / 10 - 1 / 20 ≤ v ∧ v < (q : ℚ) / 10 + 1 / 20 := by
  have hnonneg : 0 ≤ 10 * v + 1 / 2 := by positivity
  rw [nearestTenths, Nat.floor_eq_iff hnonneg]
  refine and_congr ⟨fun h => ?_, fun h => ?_⟩ ⟨fun h => ?_, fun h => ?_⟩ <;> linarith

theorem abs_nearestTenths_sub_le (hv : 0 ≤ v) : |(nearestTenths v : ℚ) / 10 - v| ≤ 1 / 20 := by
  obtain ⟨hlow, hhigh⟩ := (nearestTenths_eq_iff hv).1 rfl
  rw [abs_le]
  constructor <;> linarith

/-- A value in the middle of two tenths goes to the upper one. -/
theorem nearestTenths_tie (k : Nat) : nearestTenths ((k : ℚ) / 10 + 1 / 20) = k + 1 := by
  have hvalue : (0 : ℚ) ≤ (k : ℚ) / 10 + 1 / 20 := by positivity
  rw [nearestTenths_eq_iff hvalue]
  push_cast
  constructor <;> linarith

theorem nearestTenths_mono (h : v ≤ w) : nearestTenths v ≤ nearestTenths w := by
  refine Nat.floor_le_floor ?_
  linarith

end

/-! ## The tenths of a pitch -/

namespace Pitch

/-- The tenths that a pitch shows: those of its digits, of which one stands behind the point. -/
def shownTenths? (p : String) : Option Nat :=
  match spanDigits p.toList with
  | (whole, ['.', digit]) =>
    if whole ≠ [] ∧ isDigit digit = true then some (ofDigits 10 (whole ++ [digit])) else none
  | _ => none

theorem toList_tenthsText (q : Nat) :
    (tenthsText q).toList = Nat.toDigits 10 (q / 10) ++ ['.', (q % 10).digitChar] := by
  have hpoint : ".".toList = ['.'] := by decide
  have hdigit : (numeral (q % 10)).toList = [(q % 10).digitChar] := by
    rw [numeral, String.toList_ofList, Nat.toDigits_of_lt_base (Nat.mod_lt q (by decide))]
  rw [tenthsText, String.toList_append, String.toList_append, hpoint, hdigit, numeral, String.toList_ofList,
    List.append_assoc]
  rfl

/-- **The tenths that a pitch is written with are read back.** -/
theorem shownTenths?_tenthsText (q : Nat) : shownTenths? (tenthsText q) = some q := by
  have hspan : spanDigits (tenthsText q).toList = (Nat.toDigits 10 (q / 10), ['.', (q % 10).digitChar]) := by
    rw [toList_tenthsText]
    refine spanDigits_append (fun c hc => isDigitOf_ten (isDigit_of_mem_toDigits hc)) ?_
    rintro c ⟨rfl⟩
    decide
  have hdigit : digitValue? (q % 10).digitChar = some (q % 10) :=
    (by decide : ∀ d < 10, digitValue? d.digitChar = some d) _ (Nat.mod_lt q (by decide))
  have hlast : isDigit (q % 10).digitChar = true :=
    (by decide : ∀ d < 10, isDigit d.digitChar = true) _ (Nat.mod_lt q (by decide))
  have hvalue : ofDigits 10 (Nat.toDigits 10 (q / 10) ++ [(q % 10).digitChar]) = q := by
    have hwhole := ofDigits_toDigits (q / 10)
    rw [ofDigits] at hwhole ⊢
    rw [List.foldl_append, hwhole, List.foldl_cons, List.foldl_nil, hdigit, Option.getD_some]
    exact Nat.div_add_mod' q 10
  rw [shownTenths?, hspan]
  exact (if_pos ⟨Nat.toDigits_ne_nil, hlast⟩).trans (congrArg some hvalue)

/-- How a height gets its pitch from its exact value. -/
structure IsRounded (n : Number) (v : ℚ) : Prop where
  /-- Tenths of at most 28 digits are written, with a point before the last of them. -/
  text_eq : nearestTenths v < 10 ^ 28 →
    text? n = some (numeral (nearestTenths v / 10) ++ "." ++ numeral (nearestTenths v % 10))
  none_iff : text? n = none ↔ 10 ^ 28 ≤ nearestTenths v
  shown : ∀ p, text? n = some p → shownTenths? p = some (nearestTenths v)
  near : |(nearestTenths v : ℚ) / 10 - v| ≤ 1 / 20
  tie : ∀ k : Nat, v = (k : ℚ) / 10 + 1 / 20 → nearestTenths v = k + 1

variable {n n' : Number} {v v' : ℚ}

theorem text?_eq_nearestTenths (hn : n.isPositive = true) (hv : n.value? = some v) :
    text? n = if nearestTenths v < 10 ^ 28 then some (tenthsText (nearestTenths v)) else none := by
  have hpos : 0 < v := (Number.isPositive_of_value hv).1 hn
  have hnonneg : 0 ≤ 10 * v + 1 / 2 := by positivity
  have hlt : ⌊10 * v + 1 / 2⌋ < 10 ^ 28 ↔ nearestTenths v < 10 ^ 28 := by
    rw [nearestTenths, ← Int.natCast_floor_eq_floor hnonneg]
    norm_cast
  rw [text?_of_value hn hv, Int.floor_toNat, if_congr hlt rfl rfl]
  rfl

theorem isRounded (hn : n.isPositive = true) (hv : n.value? = some v) : IsRounded n v := by
  have htext := text?_eq_nearestTenths hn hv
  have hnonneg : 0 ≤ v := ((Number.isPositive_of_value hv).1 hn).le
  refine ⟨fun hlt => htext.trans (if_pos hlt), ?_, fun p hp => ?_, abs_nearestTenths_sub_le hnonneg, ?_⟩
  · rw [htext, ite_eq_right_iff, ← not_lt]
    exact ⟨fun h hlt => Option.some_ne_none _ (h hlt), fun h hlt => absurd hlt h⟩
  · rw [htext] at hp
    split at hp
    · obtain rfl := Option.some.inj hp
      exact shownTenths?_tenthsText _
    · cases hp
  · rintro k rfl
    exact nearestTenths_tie k

/-- A height below one that has a pitch has one as well, and not a greater one. -/
theorem IsRounded.mono (h : IsRounded n v) (h' : IsRounded n' v') (hle : v ≤ v') {p' : String}
    (hp' : text? n' = some p') : ∃ p q q', text? n = some p ∧ shownTenths? p = some q ∧
      shownTenths? p' = some q' ∧ q ≤ q' := by
  have hlimit : nearestTenths v' < 10 ^ 28 := by
    refine not_le.1 fun hge => ?_
    cases (h'.none_iff.2 hge).symm.trans hp'
  have hq : nearestTenths v ≤ nearestTenths v' := nearestTenths_mono hle
  have hp := h.text_eq (hq.trans_lt hlimit)
  exact ⟨_, _, _, hp, h.shown _ hp, h'.shown p' hp', hq⟩

end Pitch

/-! ## Documents -/

/-- A document whose blocks open with one pitch, the header as the pages. -/
structure Document.OpensWith (d : Document) (pitch : String) : Prop where
  header : (openTag 0 pitch).toList <+: d.header.text.toList
  pages : ∀ page ∈ d.pages, (openTag 1 pitch).toList <+: page.text.toList

theorem Layout.opensWith_pitch {α : Type} (l : Layout) (pitch : String) (label : Nat → α → Block)
    (plan : List (List α)) :
    Document.OpensWith ⟨l.headerBlock pitch, plan.map (l.sheet pitch label)⟩ pitch := by
  have hopens : ∀ (quantity : Nat) (c : Command) (b : Block) (rest : String),
      c.line = openTag quantity pitch ++ rest →
      (openTag quantity pitch).toList <+: (Block.text (c :: b)).toList := by
    intro quantity c b rest hline
    rw [Block.toList_text_cons, hline, String.toList_append, List.append_assoc]
    exact List.prefix_append _ _
  constructor
  · refine hopens 0 _ _ ("SIZE " ++ (l .width).text ++ " mm, " ++ (l .height).text ++ " mm") ?_
    simp only [Command.line, String.append_assoc]
  · intro page hpage
    obtain ⟨items, -, rfl⟩ := List.mem_map.1 hpage
    exact hopens 1 _ _ ("SET TEAR " ++ switchText (l .tearOn)) String.append_assoc

namespace Generation

/-- How generation ends for a height of an exact value: every block of the document opens with the tenths nearest to
it, unless these have too many digits. -/
def EndsByHeight (v : ℚ) (outcome : Except GenerationError Document) : Prop :=
  if nearestTenths v < 10 ^ 28 then
    ∃ d, outcome = .ok d ∧ d.OpensWith (Pitch.tenthsText (nearestTenths v))
  else outcome = .error (.rendering .noPitch)

variable {α : Type} {options : Options} {stock : Stock} {l : Layout} {v : ℚ}
  {commands : Layout → Nat → α → Except RenderFault Block} {label : Layout → Nat → α → Block}

theorem made_endsByHeight (hlabel : ∀ l slot item, commands l slot item =
      if l .qrPositions = [] then .error .noQrPosition else .ok (label l slot item))
    (hg : options.IsGenuine) (hl : (options.resolve stock).outcome = .ok l) (hv : (l .height).value? = some v)
    (items : List α) : EndsByHeight v (made options stock commands items) := by
  have hpositive : (l .height).isPositive = true := resolve_allows hg hl .height
  rw [made_of_resolved hlabel hg hl, Pitch.text?_eq_nearestTenths hpositive hv]
  unfold EndsByHeight
  split
  · exact ⟨_, rfl, l.opensWith_pitch _ _ _⟩
  · rfl

/-- **Heights are rounded to tenths, a half going up.** A positive height of an exact value is written with the tenths
nearest to it if these have no more than 28 digits, and has no pitch otherwise; lower heights have no greater pitches;
and a document opens its header and every page with the one pitch of its layout. -/
theorem pitch_roundsHalfUp :
    (∀ n v, n.isPositive = true → n.value? = some v → Pitch.IsRounded n v) ∧
    (∀ n v n' v' p', n.isPositive = true → n.value? = some v → n'.isPositive = true → n'.value? = some v' →
      v ≤ v' → Pitch.text? n' = some p' → ∃ p q q', Pitch.text? n = some p ∧ Pitch.shownTenths? p = some q ∧
        Pitch.shownTenths? p' = some q' ∧ q ≤ q') ∧
    ∀ (options : Options) (stock : Stock) (l : Layout) (v : ℚ), options.IsGenuine →
      (options.resolve stock).outcome = .ok l → (l .height).value? = some v →
      (∀ records, EndsByHeight v (assemble records stock options).outcome) ∧
      (∀ size records, stockOf size = stock → EndsByHeight v (ofRecords size records options).outcome) ∧
      ∀ values size, stockOf size = stock → EndsByHeight v (ofValues values size options).outcome := by
  refine ⟨fun n v => Pitch.isRounded, ?_, ?_⟩
  · intro n v n' v' p' hn hv hn' hv' hle hp'
    exact (Pitch.isRounded hn hv).mono (Pitch.isRounded hn' hv') hle hp'
  · intro options stock l v hg hl hv
    refine ⟨fun records => ?_, ?_, ?_⟩
    · rw [assemble_outcome]
      exact made_endsByHeight Layout.recordCommands_eq hg hl hv records
    · rintro size records rfl
      rw [ofRecords_outcome]
      exact made_endsByHeight Layout.recordCommands_eq hg hl hv records
    · rintro values size rfl
      rw [ofValues_outcome]
      exact made_endsByHeight Layout.valueCommands_eq hg hl hv values

/-- A height of 25.25 mm, which lies in the middle of two tenths, and the height of the stock below it. -/
theorem pitch_roundsHalfUp_middle : ∃ (options : Options) (l : Layout) (v : ℚ), options.IsGenuine ∧
    (options.resolve .small).outcome = .ok l ∧ (l .height).value? = some v ∧ v = 25 + 1 / 4 ∧
    (l .height).isPositive = true ∧ Pitch.text? (l .height) = some "25.3" ∧ Pitch.IsRounded (l .height) v ∧
    (Stock.small.layout .height).isPositive = true ∧ (Stock.small.layout .height).value? = some 25 ∧ 25 ≤ v ∧
    (∃ p q q', Pitch.text? (Stock.small.layout .height) = some p ∧ Pitch.shownTenths? p = some q ∧
      Pitch.shownTenths? "25.3" = some q' ∧ q ≤ q') ∧
    EndsByHeight v (assemble [⟨"a", "A", "1"⟩] .small options).outcome := by
  let options : Options := .given (.map [(.text "heightMm", .float (.finite false 7107243161944064 (-48)))])
  obtain ⟨l, hl, hheight⟩ : ∃ l : Layout, (options.resolve .small).outcome = .ok l ∧
      l .height = .real (.finite false 7107243161944064 (-48)) := ⟨_, rfl, rfl⟩
  have hvalue : (l .height).value? = some (25 + 1 / 4) := by
    rw [hheight]
    norm_num [Number.value?, Binary64.value?]
  have hpositive : (l .height).isPositive = true := hheight ▸ rfl
  have hpitch : Pitch.text? (l .height) = some "25.3" := by
    rw [hheight]
    decide
  have hstock : (Stock.small.layout .height).value? = some 25 := rfl
  have hle : (25 : ℚ) ≤ 25 + 1 / 4 := by norm_num
  obtain ⟨hrounded, hmono, hdocuments⟩ := pitch_roundsHalfUp
  exact ⟨options, l, _, trivial, hl, hvalue, rfl, hpositive, hpitch, hrounded _ _ hpositive hvalue, rfl, hstock, hle,
    hmono _ _ _ _ _ rfl hstock hpositive hvalue hle hpitch, (hdocuments options .small l _ trivial hl hvalue).1 _⟩

end Generation
end LabelPress
