import LabelPress.Proofs.Binary64.Canonical
import LabelPress.Proofs.Binary64.Shortest
import LabelPress.Proofs.Numerals
import LabelPress.Proofs.Options.Doubles

/-!
# Plain numerals

A printer reads digits and at most one point. A number is written that way exactly when it is a natural number
or at least a ten thousandth (`isPlainNumeral_number`): whole numbers never take an exponent, a double that is
not whole is too small to take a positive one, and below a ten thousandth all of them take a negative one.
-/

namespace LabelPress

/-- One digit or more. -/
def AreDigits (cs : List Char) : Prop :=
  cs ≠ [] ∧ ∀ c ∈ cs, c.isDigit = true

/-- Digits, or digits around a point. -/
def IsPlainNumeral (s : String) : Prop :=
  AreDigits s.toList ∨ ∃ whole fraction, AreDigits whole ∧ AreDigits fraction ∧
    s.toList = whole ++ '.' :: fraction

namespace AreDigits

theorem zero : AreDigits ['0'] :=
  ⟨List.cons_ne_nil _ _, List.forall_mem_singleton.2 rfl⟩

theorem toDigits (n : Nat) : AreDigits (Nat.toDigits 10 n) :=
  ⟨List.ne_nil_of_length_pos Nat.length_toDigits_pos, fun _ hc =>
    Nat.isDigit_of_mem_toDigits (by decide) (by decide) hc⟩

theorem append {cs ds : List Char} (hcs : AreDigits cs) (hds : ∀ c ∈ ds, c.isDigit = true) :
    AreDigits (cs ++ ds) :=
  ⟨List.append_ne_nil_of_left_ne_nil hcs.1 ds, List.forall_mem_append.2 ⟨hcs.2, hds⟩⟩

theorem zeros_append {cs : List Char} (k : Nat) (hcs : AreDigits cs) :
    AreDigits (List.replicate k '0' ++ cs) := by
  refine ⟨List.append_ne_nil_of_right_ne_nil _ hcs.1, List.forall_mem_append.2 ⟨fun c hc => ?_, hcs.2⟩⟩
  rw [(List.mem_replicate.1 hc).2]
  rfl

end AreDigits

theorem isDigit_of_mem_zeros {k : Nat} {c : Char} (h : c ∈ List.replicate k '0') : c.isDigit = true := by
  rw [(List.mem_replicate.1 h).2]
  rfl

theorem IsPlainNumeral.not_mem {s : String} (h : IsPlainNumeral s) {c : Char} (hdigit : c.isDigit = false)
    (hpoint : c ≠ '.') : c ∉ s.toList := by
  intro hc
  rcases h with h | ⟨whole, fraction, hwhole, hfraction, hs⟩
  · exact Bool.false_ne_true (hdigit.symm.trans (h.2 c hc))
  · rw [hs, List.mem_append, List.mem_cons] at hc
    rcases hc with hc | hc | hc
    · exact Bool.false_ne_true (hdigit.symm.trans (hwhole.2 c hc))
    · exact hpoint hc
    · exact Bool.false_ne_true (hdigit.symm.trans (hfraction.2 c hc))

theorem isPlainNumeral_numeral (n : Nat) : IsPlainNumeral (numeral n) := by
  refine .inl ?_
  rw [numeral, String.toList_ofList]
  exact .toDigits n

theorem isPlainNumeral_signedNumeral {n : Int} : IsPlainNumeral (signedNumeral n) ↔ 0 ≤ n := by
  unfold signedNumeral
  split
  · next hneg =>
    refine iff_of_false (fun h => h.not_mem (c := '-') (by decide) (by decide) ?_) (by omega)
    simp
  · next hpos => exact iff_of_true (isPlainNumeral_numeral _) (by omega)

/-! ## Decimals -/

namespace DecimalFraction

/-- The exponent of the leading digit. -/
def lead (d : DecimalFraction) : ℤ :=
  d.exponent + (Nat.toDigits 10 d.digits).length - 1

theorem lead_bounds {d : DecimalFraction} (hd : d.digits ≠ 0) :
    (10 : ℚ) ^ d.lead ≤ d.value ∧ d.value < 10 ^ (d.lead + 1) := by
  obtain ⟨hlow, hhigh⟩ := toDigits_length_bounds hd
  have hlength : 0 < (Nat.toDigits 10 d.digits).length := Nat.length_toDigits_pos
  have hpow : (0 : ℚ) < 10 ^ d.exponent := zpow_pos (by norm_num) _
  have hscale : ∀ k : Nat, (10 : ℚ) ^ (d.exponent + k) = ((10 ^ k : Nat) : ℚ) * 10 ^ d.exponent := by
    intro k
    rw [zpow_add₀ (by norm_num), mul_comm, zpow_natCast]
    push_cast
    rfl
  unfold lead value
  generalize (Nat.toDigits 10 d.digits).length = length at *
  have hfirst : d.exponent + (length : ℤ) - 1 = d.exponent + (length - 1 : Nat) := by omega
  have hnext : d.exponent + (length : ℤ) - 1 + 1 = d.exponent + length := by omega
  rw [hnext, hfirst, hscale, hscale]
  exact ⟨mul_le_mul_of_nonneg_right (by exact_mod_cast hlow) hpow.le,
    mul_lt_mul_of_pos_right (by exact_mod_cast hhigh) hpow⟩

theorem le_lead_iff {d : DecimalFraction} (hd : d.digits ≠ 0) (k : ℤ) :
    k ≤ d.lead ↔ (10 : ℚ) ^ k ≤ d.value := by
  obtain ⟨hlow, hhigh⟩ := lead_bounds hd
  constructor
  · intro hk
    exact (zpow_le_zpow_right₀ (by norm_num) hk).trans hlow
  · intro hk
    have := (zpow_lt_zpow_iff_right₀ (by norm_num : (1 : ℚ) < 10)).1 (hk.trans_lt hhigh)
    omega

end DecimalFraction

/-- A decimal has a point in its place from a ten thousandth up to sixteen digits before the point. -/
theorem isPlainNumeral_spellDigits {d : DecimalFraction} (hd : d.digits ≠ 0) :
    IsPlainNumeral (plainFloat.spellDigits d) ↔ (10 : ℚ) ^ (-4 : ℤ) ≤ d.value ∧ d.value < 10 ^ (16 : ℤ) := by
  have hplace : (-4 ≤ d.lead ∧ d.lead ≤ 15) ↔
      (10 : ℚ) ^ (-4 : ℤ) ≤ d.value ∧ d.value < 10 ^ (16 : ℤ) := by
    rw [← d.le_lead_iff hd, ← not_le, ← d.le_lead_iff hd]
    omega
  have hdigits := AreDigits.toDigits d.digits
  have hlength : 0 < (Nat.toDigits 10 d.digits).length := Nat.length_toDigits_pos
  rw [← hplace]
  unfold FloatLayout.spellDigits
  change IsPlainNumeral (if -4 ≤ d.lead ∧ d.lead ≤ 15 then _ else _) ↔ _
  by_cases hposition : -4 ≤ d.lead ∧ d.lead ≤ 15
  · rw [if_pos hposition]
    refine iff_of_true (.inr ?_) hposition
    by_cases hexponent : 0 ≤ d.exponent
    · rw [if_pos hexponent]
      refine ⟨Nat.toDigits 10 d.digits ++ List.replicate d.exponent.toNat '0', ['0'],
        hdigits.append fun c hc => isDigit_of_mem_zeros hc, .zero, ?_⟩
      rw [String.toList_append, String.toList_ofList]
      rfl
    · rw [if_neg hexponent]
      by_cases hlead : 0 ≤ d.lead
      · -- The point falls between two digits.
        have hwhole : 0 < (d.lead + 1).toNat := by omega
        have hinside : (d.lead + 1).toNat < (Nat.toDigits 10 d.digits).length := by
          simp only [DecimalFraction.lead] at hlead ⊢
          omega
        refine ⟨(Nat.toDigits 10 d.digits).take (d.lead + 1).toNat,
          (Nat.toDigits 10 d.digits).drop (d.lead + 1).toNat, ⟨?_, ?_⟩, ⟨?_, ?_⟩, ?_⟩
        · exact List.ne_nil_of_length_pos (by rw [List.length_take]; omega)
        · exact fun c hc => hdigits.2 c (List.mem_of_mem_take hc)
        · exact List.ne_nil_of_length_pos (by rw [List.length_drop]; omega)
        · exact fun c hc => hdigits.2 c (List.mem_of_mem_drop hc)
        · change (if 0 ≤ d.lead then _ else _ : String).toList = _
          rw [if_pos hlead]
          simp only [String.toList_append, String.toList_ofList, List.append_assoc]
          rfl
      · refine ⟨['0'], List.replicate (-d.lead - 1).toNat '0' ++ Nat.toDigits 10 d.digits,
          .zero, hdigits.zeros_append _, ?_⟩
        change (if 0 ≤ d.lead then _ else _ : String).toList = _
        rw [if_neg hlead]
        simp only [String.toList_append, String.toList_ofList]
        rfl
  · rw [if_neg hposition]
    refine iff_of_false (fun h => h.not_mem (c := 'e') (by decide) (by decide) ?_) hposition
    simp [plainFloat]

/-! ## Doubles -/

/-- A double below a ten thousandth is below it by more than half a unit in the last place. -/
theorem Binary64.half_unit_lt {m : Nat} {e : ℤ} (hdouble : IsDouble (.finite false m e))
    (hlt : (m : ℚ) * 2 ^ e < 10 ^ (-4 : ℤ)) : ((m : ℚ) + 1 / 2) * 2 ^ e < 10 ^ (-4 : ℤ) := by
  obtain ⟨hm, -, -, hbits⟩ := hdouble
  have hunit : (0 : ℚ) < 2 ^ e := zpow_pos two_pos e
  rcases lt_trichotomy e (-66) with hsmall | rfl | hlarge
  · have hmantissa : (m : ℚ) + 1 / 2 ≤ 2 ^ 53 := by
      have : (m : ℚ) + 1 ≤ 2 ^ 53 := by exact_mod_cast hm
      linarith
    have hpow : (2 : ℚ) ^ e ≤ 2 ^ (-67 : ℤ) := zpow_le_zpow_right₀ one_le_two (by omega)
    calc ((m : ℚ) + 1 / 2) * 2 ^ e ≤ 2 ^ 53 * 2 ^ (-67 : ℤ) :=
          mul_le_mul hmantissa hpow hunit.le (by norm_num)
      _ < 10 ^ (-4 : ℤ) := by norm_num
  · -- The one exponent at which a ten thousandth itself would stand.
    have hmantissa : m ≤ 7378697629483820 := by
      by_contra hge
      have : (7378697629483821 : ℚ) ≤ m := by exact_mod_cast not_le.1 hge
      norm_num at hlt
      linarith
    have : (m : ℚ) ≤ 7378697629483820 := by exact_mod_cast hmantissa
    norm_num
    linarith
  · have hmantissa : (2 : ℚ) ^ 52 ≤ m := by
      have : 2 ^ 52 ≤ m := by omega
      exact_mod_cast this
    have hpow : (2 : ℚ) ^ (-65 : ℤ) ≤ 2 ^ e := zpow_le_zpow_right₀ one_le_two (by omega)
    have hreached : (10 : ℚ) ^ (-4 : ℤ) ≤ m * 2 ^ e :=
      calc (10 : ℚ) ^ (-4 : ℤ) ≤ 2 ^ 52 * 2 ^ (-65 : ℤ) := by norm_num
        _ ≤ m * 2 ^ e := mul_le_mul hmantissa hpow (by positivity) (Nat.cast_nonneg m)
    exact absurd hlt (not_lt.2 hreached)

theorem isPlainNumeral_fraction {m : Nat} {e : ℤ} (hdouble : Binary64.IsDouble (.finite false m e))
    (hm : m ≠ 0) (he : e < 0) :
    IsPlainNumeral (Binary64.text (.finite false m e)) ↔ (10 : ℚ) ^ (-4 : ℤ) ≤ m * 2 ^ e := by
  have hbits : m < 2 ^ 53 := hdouble.1
  obtain ⟨hdigits, hreached, hnear⟩ := Binary64.shortest_bounds (e := e) (Nat.pos_of_ne_zero hm) hbits
  have htext : Binary64.text (.finite false m e) = plainFloat.spellDigits (Binary64.shortest m e) := by
    simp [Binary64.text, FloatLayout.spell, hm]
  have hbelow : (Binary64.shortest m e).value < 10 ^ (16 : ℤ) := by
    have hmantissa : (m : ℚ) + 1 / 2 ≤ 2 ^ 53 := by
      have : (m : ℚ) + 1 ≤ 2 ^ 53 := by exact_mod_cast hbits
      linarith
    have hpow : (2 : ℚ) ^ e ≤ 2 ^ (-1 : ℤ) := zpow_le_zpow_right₀ one_le_two (by omega)
    calc (Binary64.shortest m e).value ≤ (m + 1 / 2) * 2 ^ e := hnear
      _ ≤ 2 ^ 53 * 2 ^ (-1 : ℤ) := mul_le_mul hmantissa hpow (by positivity) (by norm_num)
      _ < 10 ^ (16 : ℤ) := by norm_num
  rw [htext, isPlainNumeral_spellDigits hdigits]
  constructor
  · intro h
    by_contra hlt
    exact absurd (hnear.trans_lt (Binary64.half_unit_lt hdouble (not_le.1 hlt))) (not_lt.2 h.1)
  · intro h
    exact ⟨hreached (-4) h, hbelow⟩

/-! ## Numbers -/

/-- A number that is natural, or at least a ten thousandth. -/
def Number.IsPlainlyWritten (n : Number) : Prop :=
  ∃ v, n.value? = some v ∧ ((∃ k : Nat, v = k) ∨ (10 : ℚ) ^ (-4 : ℤ) ≤ v)

theorem isPlainNumeral_whole {n : Number} {k : ℤ} (htext : n.text = signedNumeral k)
    (hvalue : n.value? = some (k : ℚ)) : IsPlainNumeral n.text ↔ n.IsPlainlyWritten := by
  rw [htext, isPlainNumeral_signedNumeral]
  constructor
  · intro hk
    obtain ⟨j, rfl⟩ := Int.eq_ofNat_of_zero_le hk
    exact ⟨_, hvalue, .inl ⟨j, rfl⟩⟩
  · rintro ⟨v, hv, hwritten⟩
    obtain rfl := Option.some.inj (hvalue.symm.trans hv)
    rcases hwritten with ⟨j, hj⟩ | hleast
    · have : k = j := by exact_mod_cast hj
      omega
    · have : (0 : ℚ) ≤ k := le_trans (by positivity) hleast
      exact_mod_cast this

theorem isPlainNumeral_notWhole {x : Binary64} (hx : x.IsDouble) (hint : x.toInt? = none) :
    IsPlainNumeral x.text ↔ (Number.real x).IsPlainlyWritten := by
  have hfraction : ∀ k : ℤ, x.value? ≠ some (k : ℚ) := fun k hk => by
    rw [Binary64.toInt?_eq_some_iff.2 hk] at hint
    cases hint
  cases x with
  | nan =>
    exact iff_of_false (fun h => h.not_mem (c := 'n') (by decide) (by decide) (by decide))
      fun ⟨_, hv, _⟩ => nomatch hv
  | infinite negative =>
    refine iff_of_false (fun h => h.not_mem (c := 'i') (by decide) (by decide) ?_)
      fun ⟨_, hv, _⟩ => nomatch hv
    cases negative <;> decide
  | finite negative m e =>
    cases negative with
    | true =>
      refine iff_of_false (fun h => h.not_mem (c := '-') (by decide) (by decide) ?_) ?_
      · simp [Binary64.text, FloatLayout.spell]
      · rintro ⟨v, hv, ⟨k, rfl⟩ | hleast⟩
        · exact hfraction k (by exact_mod_cast hv)
        · obtain rfl := Option.some.inj hv
          have : (0 : ℚ) ≤ m * 2 ^ e := by positivity
          have : (0 : ℚ) < 10 ^ (-4 : ℤ) := by positivity
          simp only [if_true] at hleast
          linarith
    | false =>
      have hm : m ≠ 0 := by
        rintro rfl
        exact hfraction 0 (by simp [Binary64.value?])
      have he : e < 0 := by
        by_contra hpos
        obtain ⟨k, rfl⟩ := Int.eq_ofNat_of_zero_le (not_lt.1 hpos)
        exact hfraction (m * 2 ^ k) (by simp [Binary64.value?])
      rw [isPlainNumeral_fraction hx hm he]
      constructor
      · intro hleast
        exact ⟨_, rfl, .inr hleast⟩
      · rintro ⟨v, hv, ⟨k, rfl⟩ | hleast⟩
        · exact absurd (by exact_mod_cast hv) (hfraction k)
        · obtain rfl := Option.some.inj hv
          exact hleast

/-- **Which numbers are written plainly**: the natural ones and those from a ten thousandth on. -/
theorem isPlainNumeral_number {n : Number} (hn : n.IsDouble) :
    IsPlainNumeral n.text ↔ n.IsPlainlyWritten := by
  cases n with
  | whole k => exact isPlainNumeral_whole rfl rfl
  | real x =>
    cases hint : x.toInt? with
    | some k =>
      refine isPlainNumeral_whole (k := k) ?_ (Binary64.toInt?_eq_some_iff.1 hint)
      rw [Number.text, hint]
    | none =>
      have htext : Number.text (.real x) = x.text := by rw [Number.text, hint]
      rw [htext]
      exact isPlainNumeral_notWhole hn hint

end LabelPress
