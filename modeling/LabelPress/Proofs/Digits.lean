import LabelPress.Numeral
import Mathlib.Data.List.Basic
import Mathlib.Data.List.TakeDrop

/-!
# Runs of digits

The digits of a numeral denote the number they were made of (`ofDigits_toDigits`), and a run of digits is split off up
to the first character that is none (`spanDigits_append`).
-/

namespace LabelPress
variable {n : Nat} {digits rest : List Char} {c : Char}

theorem isDigit_bounds (h : c.isDigit = true) : '0' ≤ c ∧ c ≤ '9' := by
  rwa [Char.isDigit, Bool.and_eq_true, decide_eq_true_eq, decide_eq_true_eq] at h

theorem ne_of_isDigit {d : Char} (h : c.isDigit = true) (hd : d.isDigit = false) : c ≠ d := by
  rintro rfl
  exact Bool.false_ne_true (hd.symm.trans h)

theorem digitValue?_of_isDigit (h : c.isDigit = true) : digitValue? c = some (c.toNat - '0'.toNat) := by
  rw [digitValue?, if_pos (isDigit_bounds h)]

theorem isDigitOf_ten (h : c.isDigit = true) : isDigit c = true := by
  have hle : c.toNat ≤ '9'.toNat := (isDigit_bounds h).2
  have hnine : '9'.toNat - '0'.toNat < 10 := by decide
  rw [isDigit, isDigitOf, digitValue?_of_isDigit h]
  exact decide_eq_true (by omega)

theorem isDigit_of_mem_toDigits (h : c ∈ Nat.toDigits 10 n) : c.isDigit = true :=
  Nat.isDigit_of_mem_toDigits (by decide) (by decide) h

theorem ofDigits_toDigits (n : Nat) : ofDigits 10 (Nat.toDigits 10 n) = n := by
  have hfold : ∀ (ds : List Char) (start : Nat), (∀ c ∈ ds, c.isDigit = true) →
      ds.foldl (fun n c => n * 10 + (digitValue? c).getD 0) start = Nat.ofDigitChars 10 ds start := by
    intro ds
    induction ds with
    | nil => exact fun _ _ => Nat.ofDigitChars_nil.symm
    | cons c ds ih =>
      intro start hdigits
      obtain ⟨hc, hds⟩ := List.forall_mem_cons.1 hdigits
      rw [List.foldl_cons, ih _ hds, digitValue?_of_isDigit hc, Nat.ofDigitChars_cons, Nat.mul_comm, Option.getD_some]
  rw [ofDigits, hfold _ 0 fun c hc => isDigit_of_mem_toDigits hc, Nat.ofDigitChars_ten_toDigits]

/-- Only zero has a numeral that starts with a zero. -/
theorem head_toDigits_ne_zero (hn : n ≠ 0) : (Nat.toDigits 10 n).head? ≠ some '0' := by
  induction n using Nat.strongRecOn with
  | _ n ih =>
    by_cases hlt : n < 10
    · rw [Nat.toDigits_of_lt_base hlt, List.head?_cons, Ne, Option.some.injEq, Nat.digitChar_eq_zero]
      exact hn
    · have hrest : n / 10 ≠ 0 := by omega
      rw [Nat.toDigits_of_base_le (by decide) (Nat.not_lt.1 hlt),
        List.head?_append_of_ne_nil _ Nat.toDigits_ne_nil]
      exact ih (n / 10) (by omega) hrest

theorem spanDigits_append (hdigits : ∀ c ∈ digits, isDigit c = true)
    (hrest : ∀ c, rest.head? = some c → isDigit c = false) : spanDigits (digits ++ rest) = (digits, rest) := by
  have hstop : rest.takeWhile isDigit = [] ∧ rest.dropWhile isDigit = rest := by
    cases rest with
    | nil => exact ⟨rfl, rfl⟩
    | cons c rest =>
      have hc : ¬isDigit c = true := by simp [hrest c rfl]
      exact ⟨List.takeWhile_cons_of_neg hc, List.dropWhile_cons_of_neg hc⟩
  rw [spanDigits, List.span_eq_takeWhile_dropWhile, List.takeWhile_append_of_pos hdigits,
    List.dropWhile_append_of_pos hdigits, hstop.1, hstop.2, List.append_nil]

end LabelPress
