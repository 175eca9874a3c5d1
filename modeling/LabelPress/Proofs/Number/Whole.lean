import LabelPress.Proofs.Binary64.Canonical
import LabelPress.Proofs.Number.Exact

/-!
# Whole numbers as doubles

A whole number below `2 ^ 53` is a double without rounding (`Binary64.value?_ofInt`). What is written of a number
with a whole value is the numeral of that value, whichever way the number is held (`Number.text_of_value`).
-/

namespace LabelPress

theorem nearestEven_one (n : Nat) : nearestEven n 1 = n := by
  simp [nearestEven, Nat.mod_one]

namespace Binary64

/-- The exponent of a whole number that is short enough takes nothing off it. -/
theorem ratioExponent_one_le {num : Nat} (hnum : num ≠ 0) (hshort : num < 2 ^ 53) : ratioExponent num 1 ≤ 0 := by
  obtain ⟨-, -, hbits⟩ := ratioExponent_spec hnum Nat.one_pos
  generalize ratioExponent num 1 = e at *
  by_contra hpos
  obtain ⟨k, rfl⟩ : ∃ k : Nat, e = (k + 1 : Nat) := ⟨(e - 1).toNat, by omega⟩
  have hhalf : num / 2 ^ (k + 1) ≤ num / 2 := by
    rw [Nat.pow_succ', ← Nat.div_div_eq_div_mul]
    exact Nat.div_le_self _ _
  have hpart : (scaleRatio num 1 (k + 1 : Nat)).1 / (scaleRatio num 1 (k + 1 : Nat)).2 = num / 2 ^ (k + 1) := by
    rw [scaleRatio, if_pos (by omega), Int.toNat_natCast, Nat.one_mul]
    rfl
  rw [hpart] at hbits
  omega

theorem ofRatio_one {num : Nat} (hshort : num < 2 ^ 53) (negative : Bool) :
    ∃ m e, ofRatio negative num 1 = .finite negative m e ∧ (m : ℚ) * 2 ^ e = num := by
  by_cases hnum : num = 0
  · subst hnum
    exact ⟨0, -1074, rfl, by simp⟩
  · have hexponent := ratioExponent_one_le hnum hshort
    obtain ⟨hpart, -, -⟩ := ratioExponent_spec hnum Nat.one_pos
    have hvalue := scaleRatio_div num 1 (ratioExponent num 1)
    have hden : (scaleRatio num 1 (ratioExponent num 1)).2 = 1 := by
      unfold scaleRatio
      split
      · next h =>
        have hzero : ratioExponent num 1 = 0 := by omega
        rw [hzero]
        rfl
      · rfl
    rw [hden, Nat.div_one] at hpart
    rw [hden, Nat.cast_one, div_one, div_one] at hvalue
    refine ⟨(scaleRatio num 1 (ratioExponent num 1)).1, ratioExponent num 1, ?_, ?_⟩
    · have hlong : (scaleRatio num 1 (ratioExponent num 1)).1 ≠ Nat.pow 2 53 := Nat.ne_of_lt hpart
      simp only [ofRatio, if_neg hnum, hden, nearestEven_one, if_neg hlong]
      exact if_neg (by omega)
    · rw [hvalue]
      exact div_mul_cancel₀ _ (zpow_ne_zero _ two_ne_zero)

/-- **Whole numbers of 53 bits are doubles.** -/
theorem value?_ofInt {n : Int} (h : n.natAbs < 2 ^ 53) : (ofInt n).value? = some (n : ℚ) := by
  obtain ⟨m, e, hx, hvalue⟩ := ofRatio_one h (n < 0)
  rw [ofInt, hx, value?, hvalue]
  by_cases hn : n < 0
  · simp [hn, Nat.cast_natAbs, abs_of_neg]
  · simp [hn, Nat.cast_natAbs, abs_of_nonneg (not_lt.1 hn)]

end Binary64

namespace Number

theorem text_of_value {n : Number} {k : Int} (h : n.value? = some (k : ℚ)) : n.text = signedNumeral k := by
  cases n with
  | whole m =>
    obtain rfl : m = k := by exact_mod_cast Option.some.inj h
    rfl
  | real x => rw [text, Binary64.toInt?_eq_some_iff.2 h]

end Number
end LabelPress
