import LabelPress.Proofs.Number.Exact
import Mathlib.Algebra.Order.Field.Power
import Mathlib.Data.Nat.Cast.Order.Field
import Mathlib.Tactic.FieldSimp
import Mathlib.Tactic.Linarith
import Mathlib.Tactic.NormNum
import Mathlib.Tactic.Ring

/-!
# How far shortest decimals are from their doubles

The search for the shortest decimal only tries neighbours of the double on decimal grids, and stops where one
of them lies in the rounding interval. So the decimal it ends with is not below a power of ten that the double
has reached, and not above the double by more than half a unit in the last place (`shortest_bounds`).
-/

namespace LabelPress

/-- The rational number that a decimal is. -/
def DecimalFraction.value (d : DecimalFraction) : ℚ :=
  d.digits * 10 ^ d.exponent

theorem toDigits_length_bounds {n : Nat} (hn : n ≠ 0) :
    10 ^ ((Nat.toDigits 10 n).length - 1) ≤ n ∧ n < 10 ^ (Nat.toDigits 10 n).length := by
  have hlength : 0 < (Nat.toDigits 10 n).length := Nat.length_toDigits_pos
  refine ⟨?_, (Nat.length_toDigits_le_iff (by decide) hlength).1 le_rfl⟩
  by_contra hlt
  rcases Nat.eq_zero_or_pos ((Nat.toDigits 10 n).length - 1) with hone | hmore
  · rw [hone] at hlt
    omega
  · have := (Nat.length_toDigits_le_iff (by decide) hmore).2 (not_le.1 hlt)
    omega

namespace Binary64

/-! ## The exponent of the leading digit -/

section ratio
variable {num den : Nat} (hden : 0 < den) (k : Nat)

include hden

theorem le_ratio_iff : (10 : ℚ) ^ (k : ℤ) ≤ (num : ℚ) / den ↔ 10 ^ k * den ≤ num := by
  rw [le_div_iff₀ (Nat.cast_pos.2 hden)]
  exact_mod_cast Iff.rfl

theorem ratio_lt_iff : (num : ℚ) / den < (10 : ℚ) ^ (k : ℤ) ↔ num < 10 ^ k * den := by
  rw [div_lt_iff₀ (Nat.cast_pos.2 hden)]
  exact_mod_cast Iff.rfl

theorem inv_le_ratio_iff : (10 : ℚ) ^ (-(k : ℤ)) ≤ (num : ℚ) / den ↔ den ≤ num * 10 ^ k := by
  rw [zpow_neg, zpow_natCast, inv_eq_one_div, div_le_div_iff₀ (by positivity) (Nat.cast_pos.2 hden),
    one_mul]
  exact_mod_cast Iff.rfl

theorem ratio_lt_inv_iff : (num : ℚ) / den < (10 : ℚ) ^ (-(k : ℤ)) ↔ num * 10 ^ k < den := by
  rw [← not_le, inv_le_ratio_iff hden, not_le]

theorem ratio_le_inv_iff : (num : ℚ) / den ≤ (10 : ℚ) ^ (-(k : ℤ)) ↔ num * 10 ^ k ≤ den := by
  rw [zpow_neg, zpow_natCast, inv_eq_one_div, div_le_div_iff₀ (Nat.cast_pos.2 hden) (by positivity),
    one_mul]
  exact_mod_cast Iff.rfl

end ratio

/-- A ratio lies from the power of ten of its leading digit up to the next one. -/
theorem leadingExponent_spec {num den : Nat} (hnum : 0 < num) (hden : 0 < den) :
    (10 : ℚ) ^ leadingExponent num den ≤ (num : ℚ) / den ∧
      (num : ℚ) / den < 10 ^ (leadingExponent num den + 1) := by
  unfold leadingExponent
  split
  · next hge =>
    have hquotient : num / den ≠ 0 := (Nat.div_pos hge hden).ne'
    obtain ⟨hlow, hhigh⟩ := toDigits_length_bounds hquotient
    have hlength : 0 < (Nat.toDigits 10 (num / den)).length := Nat.length_toDigits_pos
    generalize (Nat.toDigits 10 (num / den)).length = length at *
    have hlead : (length : ℤ) - 1 = ((length - 1 : Nat) : ℤ) := by omega
    have hnext : (length : ℤ) - 1 + 1 = (length : ℤ) := by omega
    rw [hnext, hlead, le_ratio_iff hden, ratio_lt_iff hden]
    exact ⟨(Nat.le_div_iff_mul_le hden).1 hlow, (Nat.div_lt_iff_lt_mul hden).1 hhigh⟩
  · next hlt =>
    have hquotient : den / num ≠ 0 := (Nat.div_pos (not_le.1 hlt).le hnum).ne'
    obtain ⟨hlow, hhigh⟩ := toDigits_length_bounds hquotient
    have hlength : 0 < (Nat.toDigits 10 (den / num)).length := Nat.length_toDigits_pos
    generalize (Nat.toDigits 10 (den / num)).length = zeros at *
    rw [Nat.le_div_iff_mul_le hnum] at hlow
    rw [Nat.div_lt_iff_lt_mul hnum] at hhigh
    have hpred : -(zeros : ℤ) + 1 = -((zeros - 1 : Nat) : ℤ) := by omega
    dsimp only
    split
    · next hbelow =>
      rw [hpred, inv_le_ratio_iff hden, ratio_lt_inv_iff hden]
      exact ⟨by rw [Nat.mul_comm]; exact hhigh.le, hbelow⟩
    · next hpower =>
      -- Here the ratio is a power of ten itself.
      have hreached : (10 : ℚ) ^ (-(zeros : ℤ) + 1) ≤ (num : ℚ) / den := by
        rw [hpred, inv_le_ratio_iff hden]
        exact not_lt.1 hpower
      have hequal : (num : ℚ) / den ≤ (10 : ℚ) ^ (-(zeros : ℤ) + 1) := by
        rw [hpred, ratio_le_inv_iff hden, Nat.mul_comm]
        exact hlow
      exact ⟨hreached, hequal.trans_lt (zpow_lt_zpow_right₀ (by norm_num) (by omega))⟩

/-! ## The search -/

/-- The neighbours of a ratio are the multiples around the quotient of the scaled ratio. -/
theorem gridNeighbours_eq (num : Nat) {den : Nat} (hden : 0 < den) (exponent : ℤ) :
    ∃ n d : Nat, 0 < d ∧ (n : ℚ) / d = (num : ℚ) / den / 10 ^ exponent ∧
      (gridNeighbours num den exponent = [⟨n / d, exponent⟩, ⟨n / d + 1, exponent⟩] ∨
        gridNeighbours num den exponent = [⟨n / d + 1, exponent⟩, ⟨n / d, exponent⟩]) := by
  have horder : ∀ (p : Prop) [Decidable p] (xs ys : List DecimalFraction),
      (if p then xs else ys) = xs ∨ (if p then xs else ys) = ys := fun p _ xs ys => ite_eq_or_eq p xs ys
  unfold gridNeighbours
  by_cases h : 0 ≤ exponent
  · rw [if_pos h]
    obtain ⟨k, rfl⟩ := Int.eq_ofNat_of_zero_le h
    refine ⟨num, den * 10 ^ k, by positivity, ?_, horder _ _ _⟩
    push_cast
    rw [zpow_natCast, div_div]
  · rw [if_neg h]
    obtain ⟨k, rfl⟩ : ∃ k : Nat, exponent = -k := ⟨(-exponent).toNat, by omega⟩
    have hk : (- -(k : ℤ)).toNat = k := by omega
    rw [hk]
    refine ⟨num * 10 ^ k, den, hden, ?_, horder _ _ _⟩
    push_cast
    rw [zpow_neg, zpow_natCast, div_inv_eq_mul, div_mul_eq_mul_div]

theorem gridNeighbours_ne_nil (num : Nat) {den : Nat} (hden : 0 < den) (exponent : ℤ) :
    gridNeighbours num den exponent ≠ [] := by
  obtain ⟨_, _, -, -, h | h⟩ := gridNeighbours_eq num hden exponent
  · exact h ▸ List.cons_ne_nil _ _
  · exact h ▸ List.cons_ne_nil _ _

/-- What a neighbour of a ratio on a grid is: not below a multiple that the ratio has reached, and not above
the ratio by more than the width of the grid. -/
theorem gridNeighbours_spec {num den : Nat} (hden : 0 < den) {exponent : ℤ} {d : DecimalFraction}
    (h : d ∈ gridNeighbours num den exponent) :
    (∀ k : Nat, k * (10 : ℚ) ^ exponent ≤ (num : ℚ) / den → k * (10 : ℚ) ^ exponent ≤ d.value) ∧
      d.value ≤ (num : ℚ) / den + 10 ^ exponent := by
  obtain ⟨n, m, hm, hratio, horder⟩ := gridNeighbours_eq num hden exponent
  have hpow : (0 : ℚ) < 10 ^ exponent := zpow_pos (by norm_num) exponent
  have hquotient : (num : ℚ) / den = n / m * 10 ^ exponent := by
    rw [hratio, div_mul_cancel₀ _ hpow.ne']
  have hd : d = ⟨n / m, exponent⟩ ∨ d = ⟨n / m + 1, exponent⟩ := by
    rcases horder with horder | horder
    · simpa [horder] using h
    · simpa [horder, or_comm] using h
  have hexponent : d.exponent = exponent := by rcases hd with rfl | rfl <;> rfl
  have hlow : n / m ≤ d.digits := by rcases hd with rfl | rfl <;> simp
  have hhigh : d.digits ≤ n / m + 1 := by rcases hd with rfl | rfl <;> simp
  rw [DecimalFraction.value, hexponent, hquotient]
  constructor
  · intro k hk
    have hreached : k ≤ n / m := by
      rw [Nat.le_div_iff_mul_le hm]
      have := (le_div_iff₀ (Nat.cast_pos.2 hm)).1 (le_of_mul_le_mul_right hk hpow)
      exact_mod_cast this
    exact mul_le_mul_of_nonneg_right (by exact_mod_cast hreached.trans hlow) hpow.le
  · have hfloor : ((n / m : Nat) : ℚ) ≤ n / m := Nat.cast_div_le
    have hdigits : (d.digits : ℚ) ≤ n / m + 1 := by
      calc (d.digits : ℚ) ≤ ((n / m : Nat) : ℚ) + 1 := by exact_mod_cast hhigh
        _ ≤ n / m + 1 := by linarith
    calc d.digits * (10 : ℚ) ^ exponent ≤ (n / m + 1) * 10 ^ exponent :=
          mul_le_mul_of_nonneg_right hdigits hpow.le
      _ = n / m * 10 ^ exponent + 10 ^ exponent := by ring

/-- What the search ends with: a neighbour on one of the grids, and in the interval unless the grid is the
finest. -/
theorem searchShortest_spec {i : RoundingInterval} (hi : 0 < i.denominator) (lead : ℤ) (fuel count : Nat) :
    ∃ c ≤ count + fuel, searchShortest i lead fuel count ∈ gridNeighbours i.mid i.denominator (lead - c) ∧
      (i.contains (searchShortest i lead fuel count) = true ∨ c = count + fuel) := by
  induction fuel generalizing count with
  | zero =>
    refine ⟨count, le_rfl, ?_, .inr rfl⟩
    rw [searchShortest]
    cases h : gridNeighbours i.mid i.denominator (lead - count) with
    | nil => exact absurd h (gridNeighbours_ne_nil _ hi _)
    | cons d ds => exact List.mem_cons_self
  | succ fuel ih =>
    rw [searchShortest]
    split
    · next hit hits hfound =>
      have hmem := hfound ▸ List.mem_cons_self
      obtain ⟨hneighbour, hcontained⟩ := List.mem_filter.1 hmem
      exact ⟨count, Nat.le_add_right .., hneighbour, .inl hcontained⟩
    · obtain ⟨c, hc, hneighbour, hend⟩ := ih (count + 1)
      exact ⟨c, by omega, hneighbour, hend.imp_right (by omega)⟩

theorem stripZeros_value (fuel : Nat) (d : DecimalFraction) : (stripZeros fuel d).value = d.value := by
  induction fuel generalizing d with
  | zero => rfl
  | succ fuel ih =>
    rw [stripZeros]
    split
    · next htail =>
      have hdigits : d.digits = 10 * (d.digits / 10) := by omega
      rw [ih, DecimalFraction.value, DecimalFraction.value, zpow_add₀ (by norm_num)]
      conv_rhs => rw [hdigits]
      push_cast
      ring
    · rfl

/-! ## The rounding interval -/

section interval
variable (m : Nat) (e : ℤ)

theorem roundingInterval_denominator_pos : 0 < (roundingInterval m e).denominator :=
  Nat.mul_pos (by decide) (magnitude_snd_pos 1 e)

theorem roundingInterval_mid :
    ((roundingInterval m e).mid : ℚ) / (roundingInterval m e).denominator = m * 2 ^ e := by
  have hunit := magnitude_div 1 e
  have hden : ((magnitude 1 e).2 : ℚ) ≠ 0 := Nat.cast_ne_zero.2 (magnitude_snd_pos 1 e).ne'
  simp only [roundingInterval]
  push_cast at hunit ⊢
  rw [one_mul] at hunit
  rw [← hunit]
  field_simp

theorem roundingInterval_high :
    ((roundingInterval m e).high : ℚ) / (roundingInterval m e).denominator = (m + 1 / 2) * 2 ^ e := by
  have hunit := magnitude_div 1 e
  have hden : ((magnitude 1 e).2 : ℚ) ≠ 0 := Nat.cast_ne_zero.2 (magnitude_snd_pos 1 e).ne'
  simp only [roundingInterval]
  push_cast at hunit ⊢
  rw [one_mul] at hunit
  rw [← hunit]
  field_simp
  ring

end interval

theorem RoundingInterval.value_le_of_contains {i : RoundingInterval} (hi : 0 < i.denominator)
    {d : DecimalFraction} (h : i.contains d = true) : d.value ≤ (i.high : ℚ) / i.denominator := by
  have hratio : ∀ num den : Nat, 0 < den → d.value = (num : ℚ) / den →
      num * i.denominator ≤ i.high * den → d.value ≤ (i.high : ℚ) / i.denominator := by
    intro num den hden hvalue hle
    rw [hvalue, div_le_div_iff₀ (Nat.cast_pos.2 hden) (Nat.cast_pos.2 hi)]
    exact_mod_cast hle
  unfold RoundingInterval.contains at h
  by_cases hexponent : 0 ≤ d.exponent
  · rw [if_pos hexponent] at h
    refine hratio (d.digits * 10 ^ d.exponent.toNat) 1 Nat.one_pos ?_ ?_
    · obtain ⟨k, hk⟩ := Int.eq_ofNat_of_zero_le hexponent
      simp [DecimalFraction.value, hk]
    · dsimp only at h
      split at h
      · exact (of_decide_eq_true h).2
      · exact (of_decide_eq_true h).2.le
  · rw [if_neg hexponent] at h
    refine hratio d.digits (10 ^ (-d.exponent).toNat) (by positivity) ?_ ?_
    · obtain ⟨k, hk⟩ : ∃ k : Nat, d.exponent = -k := ⟨(-d.exponent).toNat, by omega⟩
      simp [DecimalFraction.value, hk, div_eq_mul_inv]
    · dsimp only at h
      split at h
      · exact (of_decide_eq_true h).2
      · exact (of_decide_eq_true h).2.le

/-- **How far the shortest decimal is from its double.** It is not zero, has reached every power of ten that
the double has reached, and exceeds the double by half a unit in the last place at most. -/
theorem shortest_bounds {m : Nat} {e : ℤ} (hpos : 0 < m) (hm : m < 2 ^ 53) :
    (shortest m e).digits ≠ 0 ∧
      (∀ k : ℤ, (10 : ℚ) ^ k ≤ m * 2 ^ e → (10 : ℚ) ^ k ≤ (shortest m e).value) ∧
      (shortest m e).value ≤ (m + 1 / 2) * 2 ^ e := by
  have hden := roundingInterval_denominator_pos m e
  have hmid := roundingInterval_mid m e
  have hhigh := roundingInterval_high m e
  have hunit : (0 : ℚ) < 2 ^ e := zpow_pos two_pos e
  have hnum : 0 < (roundingInterval m e).mid := by
    have : (0 : ℚ) < (roundingInterval m e).mid / (roundingInterval m e).denominator := by
      rw [hmid]
      exact mul_pos (Nat.cast_pos.2 hpos) hunit
    exact_mod_cast (div_pos_iff_of_pos_right (Nat.cast_pos.2 hden)).1 this
  obtain ⟨hlead, hnext⟩ := leadingExponent_spec hnum hden
  obtain ⟨c, hc, hneighbour, hend⟩ := searchShortest_spec hden
    (leadingExponent (roundingInterval m e).mid (roundingInterval m e).denominator) 17 0
  obtain ⟨hreached, hnear⟩ := gridNeighbours_spec hden hneighbour
  rw [hmid] at *
  have hvalue : (shortest m e).value = (searchShortest (roundingInterval m e)
      (leadingExponent (roundingInterval m e).mid (roundingInterval m e).denominator) 17 0).value :=
    stripZeros_value ..
  rw [hvalue]
  generalize leadingExponent (roundingInterval m e).mid (roundingInterval m e).denominator = lead at *
  generalize searchShortest (roundingInterval m e) lead 17 0 = d at *
  have hgrid : ((10 ^ c : Nat) : ℚ) * 10 ^ (lead - (c : ℤ)) = 10 ^ lead := by
    push_cast
    rw [← zpow_natCast, ← zpow_add₀ (by norm_num)]
    congr 1
    omega
  have hfirst : (10 : ℚ) ^ lead ≤ d.value := hgrid ▸ hreached (10 ^ c) (hgrid.trans_le hlead)
  refine ⟨?_, ?_, ?_⟩
  · intro hzero
    rw [← hvalue, DecimalFraction.value, hzero, Nat.cast_zero, zero_mul] at hfirst
    exact absurd hfirst (not_le.2 (zpow_pos (by norm_num) lead))
  · intro k hk
    have hle : k ≤ lead := by
      have := (zpow_lt_zpow_iff_right₀ (by norm_num : (1 : ℚ) < 10)).1 (hk.trans_lt hnext)
      omega
    exact (zpow_le_zpow_right₀ (by norm_num) hle).trans hfirst
  · rcases hend with hcontained | rfl
    · exact hhigh ▸ RoundingInterval.value_le_of_contains hden hcontained
    · -- Seventeen digits are finer than half a unit, whether a hit was found among them or not.
      have hwidth : (10 : ℚ) ^ (lead - ((0 + 17 : Nat) : ℤ)) ≤ 2 ^ e / 2 := by
        have hbits : (m : ℚ) ≤ 2 ^ 53 := by exact_mod_cast hm.le
        rw [zpow_sub₀ (by norm_num), div_le_iff₀ (by positivity)]
        calc (10 : ℚ) ^ lead ≤ m * 2 ^ e := hlead
          _ ≤ 2 ^ 53 * 2 ^ e := mul_le_mul_of_nonneg_right hbits hunit.le
          _ ≤ 10 ^ 17 / 2 * 2 ^ e := mul_le_mul_of_nonneg_right (by norm_num) hunit.le
          _ = 2 ^ e / 2 * 10 ^ ((0 + 17 : Nat) : ℤ) := by
            push_cast
            norm_num
            ring
      calc d.value ≤ m * 2 ^ e + 10 ^ (lead - ((0 + 17 : Nat) : ℤ)) := hnear
        _ ≤ m * 2 ^ e + 2 ^ e / 2 := by linarith
        _ = (m + 1 / 2) * 2 ^ e := by ring

end Binary64
end LabelPress
