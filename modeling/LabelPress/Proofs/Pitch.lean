import LabelPress.Pitch
import LabelPress.Proofs.Number.Exact

/-!
# Which heights have a pitch

The tenths of a height are ten times its exact value, rounded to a whole number with a half going up
(`Pitch.tenths_eq_floor`), and a pitch is written of nothing else (`Pitch.text?_of_value`). There is no pitch for an
infinite height and for one of `10 ^ 28` tenths or more, and for no others (`Pitch.text?_eq_none_iff`).
-/

namespace LabelPress

theorem Pitch.tenths_eq_floor (num : Nat) {den : Nat} (hden : 0 < den) :
    (tenths num den : Int) = ⌊10 * ((num : ℚ) / den) + 1 / 2⌋ := by
  have hne : (den : ℚ) ≠ 0 := Nat.cast_ne_zero.2 hden.ne'
  have hratio : 10 * ((num : ℚ) / den) + 1 / 2 = ((20 * num + den : Nat) : ℚ) / (2 * den : Nat) := by
    push_cast
    field_simp
    ring
  rw [hratio, Rat.floor_natCast_div_natCast]
  rfl

theorem Pitch.signedText?_eq {num den : Nat} (hden : 0 < den) : signedText? false num den =
    if ⌊10 * ((num : ℚ) / den) + 1 / 2⌋ < 10 ^ 28
    then some (tenthsText ⌊10 * ((num : ℚ) / den) + 1 / 2⌋.toNat) else none := by
  have hlimit : ((limit : Nat) : Int) = 10 ^ 28 := rfl
  rw [← tenths_eq_floor num hden, ← hlimit, signedText?, Int.toNat_natCast, if_congr Nat.cast_lt rfl rfl]
  exact if_congr Iff.rfl (congrArg some String.empty_append) rfl

/-- The pitch of a positive height is written of its value, whichever way the height is held. -/
theorem Pitch.text?_of_value {n : Number} (hn : n.isPositive = true) {v : ℚ} (hv : n.value? = some v) :
    text? n = if ⌊10 * v + 1 / 2⌋ < 10 ^ 28 then some (tenthsText ⌊10 * v + 1 / 2⌋.toNat) else none := by
  cases n with
  | whole k =>
    obtain rfl := Option.some.inj hv
    have hpos : 0 < k := of_decide_eq_true hn
    have hk : (k : ℚ) = ((k.natAbs : Nat) : ℚ) / (1 : Nat) := by
      rw [Nat.cast_natAbs, abs_of_pos hpos, Nat.cast_one, div_one]
    rw [hk, ← signedText?_eq Nat.one_pos, text?, decide_eq_false (Int.not_lt.2 hpos.le)]
  | real x =>
    cases x with
    | nan | infinite _ => cases hv
    | finite negative m e =>
      cases negative with
      | true => cases hn
      | false =>
        obtain rfl := Option.some.inj hv
        rw [if_neg Bool.false_ne_true, ← Binary64.magnitude_div, ← signedText?_eq (Binary64.magnitude_snd_pos m e)]
        rfl

/-- A height that has no pitch: it is infinite, or its tenths do not fit in 28 digits. -/
def Number.ExceedsPitch (n : Number) : Prop :=
  (∃ negative, n = .real (.infinite negative)) ∨
    ∃ v : ℚ, n.value? = some v ∧ 10 ^ 28 ≤ ⌊10 * v + 1 / 2⌋

/-- **A positive height has no pitch exactly when** it is infinite or has too many tenths. -/
theorem Pitch.text?_eq_none_iff {n : Number} (hn : n.isPositive = true) :
    text? n = none ↔ n.ExceedsPitch := by
  unfold Number.ExceedsPitch
  cases hv : n.value? with
  | some v =>
    have hfinite : ¬∃ negative, n = .real (.infinite negative) := by
      rintro ⟨negative, rfl⟩
      cases hv
    rw [text?_of_value hn hv, or_iff_right hfinite]
    simp
  | none =>
    cases n with
    | whole k => cases hv
    | real x =>
      cases x with
      | nan => cases hn
      | infinite negative => simp [text?]
      | finite negative m e => cases hv

end LabelPress
