import LabelPress.Number
import Mathlib.Data.Nat.Cast.Field
import Mathlib.Data.Rat.Floor

/-!
# The exact value of a number

A whole number and a finite double are each one rational number (`Number.value?`). The ratio of naturals that
calculations take a double apart into is that number without its sign (`Binary64.magnitude_div`), and the
integer that a double is taken for is its value (`Binary64.toInt?_eq_some_iff`).
-/

namespace LabelPress
namespace Binary64

/-- The rational number that a finite double is. -/
def value? : Binary64 → Option ℚ
  | .finite negative m e => some (if negative then -(m * 2 ^ e) else m * 2 ^ e)
  | _ => none

theorem magnitude_snd_pos (m : Nat) (e : Int) : 0 < (magnitude m e).2 := by
  unfold magnitude
  split
  · exact Nat.one_pos
  · exact Nat.two_pow_pos _

theorem magnitude_div (m : Nat) (e : Int) :
    ((magnitude m e).1 : ℚ) / (magnitude m e).2 = m * 2 ^ e := by
  unfold magnitude
  split
  · next h =>
    obtain ⟨k, rfl⟩ := Int.eq_ofNat_of_zero_le h
    simp [Nat.pow_eq]
  · next h =>
    obtain ⟨k, rfl⟩ : ∃ k : Nat, e = -k := ⟨(-e).toNat, by omega⟩
    simp [Nat.pow_eq, div_eq_mul_inv]

theorem toInt?_eq_some_iff {x : Binary64} {n : Int} : x.toInt? = some n ↔ x.value? = some (n : ℚ) := by
  cases x with
  | infinite _ | nan => simp [toInt?, value?]
  | finite negative m e =>
    have hden : ((magnitude m e).2 : ℚ) ≠ 0 := Nat.cast_ne_zero.2 (magnitude_snd_pos m e).ne'
    simp only [toInt?, value?, ← magnitude_div m e]
    generalize (magnitude m e).1 = num at *
    generalize (magnitude m e).2 = den at *
    by_cases hdvd : num % den = 0
    · obtain ⟨k, rfl⟩ := Nat.dvd_of_mod_eq_zero hdvd
      have hk : den * k / den = k := Nat.mul_div_cancel_left k (Nat.pos_of_ne_zero (by exact_mod_cast hden))
      have hratio : ((den * k : Nat) : ℚ) / den = k := by
        rw [Nat.cast_mul, mul_div_cancel_left₀ _ hden]
      rw [if_pos hdvd, hk, hratio, Option.some.injEq, Option.some.injEq]
      cases negative
      · exact_mod_cast Iff.rfl
      · exact_mod_cast Iff.rfl
    · rw [if_neg hdvd]
      constructor
      · intro h
        cases h
      · intro h
        have habs : (num : ℚ) / den = (n.natAbs : ℚ) := by
          rw [Nat.cast_natAbs, Int.cast_abs, ← Option.some.inj h]
          cases negative
          · simp [abs_div]
          · simp [abs_div]
        have hnum : num = n.natAbs * den := by
          exact_mod_cast (div_eq_iff hden).1 habs
        refine absurd ?_ hdvd
        rw [hnum, Nat.mul_mod_left]

end Binary64

namespace Number

/-- The rational number that a number is, if it is finite. -/
def value? : Number → Option ℚ
  | .whole n => some n
  | .real x => x.value?

end Number
end LabelPress
