import LabelPress.Binary64.Reader
import Mathlib.Algebra.Order.Field.Power
import Mathlib.Data.Rat.Lemmas
import Mathlib.Tactic.FieldSimp
import Mathlib.Tactic.Linarith
import Mathlib.Tactic.NormNum
import Mathlib.Tactic.Ring

/-!
# Canonical doubles

A double has a mantissa of 53 bits, or a shorter one with the least exponent there is (`Binary64.IsDouble`).
Rounding gives nothing else (`Binary64.ofRatio_isDouble`): the exponent is chosen by the lengths of numerator and
denominator, so that the scaled ratio lies from `2 ^ 52` to `2 ^ 53` wherever exponents allow it.
-/

namespace LabelPress

theorem le_nearestEven (num den : Nat) : num / den ≤ nearestEven num den := by
  unfold nearestEven
  dsimp only
  (repeat' split) <;> omega

theorem nearestEven_le (num den : Nat) : nearestEven num den ≤ num / den + 1 := by
  unfold nearestEven
  dsimp only
  (repeat' split) <;> omega

namespace Binary64

/-- A number that is a double: infinite, undefined or with a mantissa and an exponent in their bounds. -/
def IsDouble : Binary64 → Prop
  | .finite _ m e => m < 2 ^ 53 ∧ -1074 ≤ e ∧ e ≤ 971 ∧ (2 ^ 52 ≤ m ∨ e = -1074)
  | _ => True

instance : (x : Binary64) → Decidable x.IsDouble
  | .finite _ m e => inferInstanceAs (Decidable (m < 2 ^ 53 ∧ -1074 ≤ e ∧ e ≤ 971 ∧ (2 ^ 52 ≤ m ∨ e = -1074)))
  | .infinite _ | .nan => isTrue trivial

theorem zero_isDouble (negative : Bool) : IsDouble (.finite negative 0 (-1074)) :=
  ⟨by decide, by decide, by decide, .inr rfl⟩

/-! ## Scaled ratios -/

theorem scaleRatio_snd_pos (num : Nat) {den : Nat} (hden : 0 < den) (e : Int) :
    0 < (scaleRatio num den e).2 := by
  unfold scaleRatio
  split
  · exact Nat.mul_pos hden (Nat.two_pow_pos _)
  · exact hden

theorem scaleRatio_div (num den : Nat) (e : Int) :
    ((scaleRatio num den e).1 : ℚ) / (scaleRatio num den e).2 = (num : ℚ) / den / 2 ^ e := by
  unfold scaleRatio
  split
  · next h =>
    obtain ⟨k, rfl⟩ := Int.eq_ofNat_of_zero_le h
    simp [Nat.pow_eq, div_div]
  · next h =>
    obtain ⟨k, rfl⟩ : ∃ k : Nat, e = -k := ⟨(-e).toNat, by omega⟩
    simp [Nat.pow_eq, div_eq_mul_inv, mul_right_comm]

theorem le_scaleRatio_iff {num den : Nat} (hden : 0 < den) (e : Int) (k : Nat) :
    k ≤ (scaleRatio num den e).1 / (scaleRatio num den e).2 ↔ k * 2 ^ e ≤ (num : ℚ) / den := by
  have hpos := scaleRatio_snd_pos num hden e
  have hcast : (0 : ℚ) < (scaleRatio num den e).2 := Nat.cast_pos.2 hpos
  rw [Nat.le_div_iff_mul_le hpos, ← le_div_iff₀ (zpow_pos two_pos e), ← scaleRatio_div,
    le_div_iff₀ hcast]
  exact_mod_cast Iff.rfl

/-- A ratio lies within a factor of two of the power that the lengths of its parts give. -/
theorem ratio_bounds {num den : Nat} (hnum : num ≠ 0) (hden : 0 < den) :
    (2 : ℚ) ^ ((Nat.log2 num : Int) - Nat.log2 den - 1) ≤ (num : ℚ) / den ∧
      (num : ℚ) / den < 2 ^ ((Nat.log2 num : Int) - Nat.log2 den + 1) := by
  have hcast : (0 : ℚ) < den := Nat.cast_pos.2 hden
  have hnumLow : (2 : ℚ) ^ (Nat.log2 num : Int) ≤ num := by exact_mod_cast Nat.log2_self_le hnum
  have hnumHigh : (num : ℚ) < 2 ^ ((Nat.log2 num : Int) + 1) := by exact_mod_cast Nat.lt_log2_self
  have hdenLow : (2 : ℚ) ^ (Nat.log2 den : Int) ≤ den := by exact_mod_cast Nat.log2_self_le hden.ne'
  have hdenHigh : (den : ℚ) < 2 ^ ((Nat.log2 den : Int) + 1) := by exact_mod_cast Nat.lt_log2_self
  constructor
  · rw [le_div_iff₀ hcast]
    calc (2 : ℚ) ^ ((Nat.log2 num : Int) - Nat.log2 den - 1) * den
        ≤ 2 ^ ((Nat.log2 num : Int) - Nat.log2 den - 1) * 2 ^ ((Nat.log2 den : Int) + 1) :=
          mul_le_mul_of_nonneg_left hdenHigh.le (zpow_nonneg two_pos.le _)
      _ = 2 ^ (Nat.log2 num : Int) := by
          rw [← zpow_add₀ two_ne_zero]
          congr 1
          omega
      _ ≤ num := hnumLow
  · rw [div_lt_iff₀ hcast]
    calc (num : ℚ) < 2 ^ ((Nat.log2 num : Int) + 1) := hnumHigh
      _ = 2 ^ ((Nat.log2 num : Int) - Nat.log2 den + 1) * 2 ^ (Nat.log2 den : Int) := by
          rw [← zpow_add₀ two_ne_zero]
          congr 1
          omega
      _ ≤ 2 ^ ((Nat.log2 num : Int) - Nat.log2 den + 1) * den :=
          mul_le_mul_of_nonneg_left hdenLow (zpow_nonneg two_pos.le _)

/-- At the exponent of a ratio the integer part has at most 53 bits, and not fewer unless the exponent is the
least. -/
theorem ratioExponent_spec {num den : Nat} (hnum : num ≠ 0) (hden : 0 < den) :
    let e := ratioExponent num den
    let part := (scaleRatio num den e).1 / (scaleRatio num den e).2
    part < 2 ^ 53 ∧ -1074 ≤ e ∧ (2 ^ 52 ≤ part ∨ e = -1074) := by
  obtain ⟨hlow, hhigh⟩ := ratio_bounds hnum hden
  generalize hguess : (Nat.log2 num : Int) - Nat.log2 den - 53 = guess
  have hpow : ∀ (k : Nat) (e : Int), ((2 ^ k : Nat) : ℚ) * 2 ^ e = 2 ^ (k + e) := fun k e => by
    rw [zpow_add₀ two_ne_zero]
    norm_cast
  have hparts : ∀ (k : Nat) (e : Int), 2 ^ k ≤ (scaleRatio num den e).1 / (scaleRatio num den e).2 ↔
      2 ^ (k + e) ≤ (num : ℚ) / den := fun k e => by
    rw [le_scaleRatio_iff hden, hpow]
  have hexponent : ratioExponent num den =
      if (scaleRatio num den (max guess (-1074))).1 / (scaleRatio num den (max guess (-1074))).2 < 2 ^ 53
      then max guess (-1074) else max guess (-1074) + 1 := by
    rw [← hguess]
    rfl
  have hleast : guess ≤ max guess (-1074) ∧ -1074 ≤ max guess (-1074) :=
    ⟨le_max_left .., le_max_right ..⟩
  intro e part
  split at hexponent
  · next hfits =>
    have he : e = max guess (-1074) := hexponent
    refine ⟨by rwa [← he] at hfits, by omega, ?_⟩
    rcases le_total guess (-1074) with hsmall | hlarge
    · exact .inr (by omega)
    · have hbits : (52 : Int) + e = (Nat.log2 num : Int) - Nat.log2 den - 1 := by omega
      exact .inl ((hparts 52 e).2 (by exact_mod_cast hbits ▸ hlow))
  · next hlong =>
    have he : e = max guess (-1074) + 1 := hexponent
    have hlong := (hparts 53 (max guess (-1074))).1 (not_lt.1 hlong)
    have hbits : ((52 : Nat) : Int) + e = (53 : Nat) + max guess (-1074) := by omega
    refine ⟨lt_of_not_ge fun hge => ?_, by omega, .inl ((hparts 52 e).2 (hbits ▸ hlong))⟩
    have hreach : (2 : ℚ) ^ ((Nat.log2 num : Int) - Nat.log2 den + 1) ≤ 2 ^ (((53 : Nat) : Int) + e) :=
      zpow_le_zpow_right₀ one_le_two (by omega)
    exact absurd hhigh (not_lt.2 (hreach.trans ((hparts 53 e).1 hge)))

/-- **Rounding gives doubles.** -/
theorem ofRatio_isDouble (negative : Bool) (num : Nat) {den : Nat} (hden : 0 < den) :
    (ofRatio negative num den).IsDouble := by
  unfold ofRatio
  split
  · exact zero_isDouble negative
  · next hnum =>
    obtain ⟨hpart, hleast, hbits⟩ := ratioExponent_spec hnum hden
    generalize ratioExponent num den = e at *
    dsimp only at *
    generalize (scaleRatio num den e).1 = n at *
    generalize (scaleRatio num den e).2 = d at *
    have hle := le_nearestEven n d
    have hge := nearestEven_le n d
    have hpow : Nat.pow 2 53 = 2 ^ 53 := rfl
    have hpow' : Nat.pow 2 52 = 2 ^ 52 := rfl
    rw [hpow, hpow']
    split <;> split <;> simp only [IsDouble] <;> omega

theorem ofInt_isDouble (n : Int) : (ofInt n).IsDouble :=
  ofRatio_isDouble _ _ Nat.one_pos

theorem ofDecimal_isDouble (negative : Bool) (digits : Nat) (exponent : Int) :
    (ofDecimal negative digits exponent).IsDouble := by
  unfold ofDecimal
  split
  · exact zero_isDouble negative
  · dsimp only
    split
    · trivial
    · split
      · exact zero_isDouble negative
      · split
        · exact ofRatio_isDouble negative _ Nat.one_pos
        · exact ofRatio_isDouble negative _ (Nat.pow_pos (by decide))

theorem scaled?_isDouble {negative : Bool} {digits : Nat} {scale : Int} {rest : List Char} {x : Binary64}
    (h : scaled? negative digits scale rest = some x) : x.IsDouble := by
  unfold scaled? at h
  split at h
  · obtain rfl := Option.some.inj h
    exact ofDecimal_isDouble ..
  · split at h
    · obtain ⟨_, -, rfl⟩ := Option.map_eq_some_iff.1 h
      exact ofDecimal_isDouble ..
    · cases h

theorem readUnsigned?_isDouble {negative : Bool} {cs : List Char} {x : Binary64}
    (h : readUnsigned? negative cs = some x) : x.IsDouble := by
  unfold readUnsigned? at h
  dsimp only at h
  split at h
  · cases h
  · exact scaled?_isDouble h

theorem readDecimal?_isDouble {cs : List Char} {x : Binary64} (h : readDecimal? cs = some x) :
    x.IsDouble := by
  unfold readDecimal? at h
  dsimp only at h
  split at h
  · obtain rfl := Option.some.inj h
    trivial
  · split at h
    · obtain rfl := Option.some.inj h
      trivial
    · exact readUnsigned?_isDouble h

end Binary64
end LabelPress
