import LabelPress.Proofs.Digits
import LabelPress.Proofs.Json.Document

/-!
# Whole numbers in JSON

The numeral of a whole number has no zero in front of other digits, so the reader takes it up to its last digit, and
there it ends in front of anything that can follow a value (`isReadBack_int`). Numerals with too many digits are not
read, and those are not written either (`isWithinLimit`).
-/

namespace LabelPress
variable {n : Nat} {cs digits rest : List Char} {c : Char}

namespace Json
variable {negative : Bool} {fuel : Nat} {start : List Char}

/-! ## Numbers -/

theorem EndsValue.not_isDigit (h : EndsValue rest) (hc : rest.head? = some c) : isDigit c = false := by
  rcases h c hc with rfl | rfl | rfl <;> decide

theorem spanFraction_of_endsValue (h : EndsValue rest) : spanFraction rest = ([], rest) := by
  unfold spanFraction
  split
  · rcases h '.' rfl with hc | hc | hc <;> exact absurd hc (by decide)
  · rfl

theorem spanExponent_of_endsValue (h : EndsValue rest) : spanExponent rest = ([], rest) := by
  cases rest with
  | nil => rfl
  | cons c rest =>
    rw [spanExponent, if_neg]
    rcases h c rfl with rfl | rfl | rfl <;> decide

theorem spanWhole_toDigits (n : Nat) (h : EndsValue rest) :
    spanWhole (Nat.toDigits 10 n ++ rest) = (Nat.toDigits 10 n, rest) := by
  -- The reader ends the whole part behind a zero, which is the whole numeral then.
  by_cases hn : n = 0
  · subst hn
    rfl
  · have hspan : spanDigits (Nat.toDigits 10 n ++ rest) = (Nat.toDigits 10 n, rest) :=
      spanDigits_append (fun c hc => isDigitOf_ten (isDigit_of_mem_toDigits hc)) fun c hc => h.not_isDigit hc
    unfold spanWhole
    split
    · next left hzero =>
      have hhead := congrArg List.head? hzero
      rw [List.head?_append_of_ne_nil _ Nat.toDigits_ne_nil] at hhead
      exact absurd hhead (head_toDigits_ne_zero hn)
    · exact hspan

theorem readUnsigned_toDigits (h : EndsValue rest) (hlimit : (Nat.toDigits 10 n).length ≤ digitLimit) :
    readUnsigned negative start (Nat.toDigits 10 n ++ rest) =
      .ok (.int (if negative then -(n : Int) else n), rest) := by
  rw [readUnsigned, spanWhole_toDigits n h]
  split
  · next hnil => exact absurd (congrArg Prod.fst hnil) Nat.toDigits_ne_nil
  · next whole left hspan =>
    obtain ⟨rfl, rfl⟩ := Prod.mk.inj hspan
    rw [spanFraction_of_endsValue h]
    dsimp only
    rw [spanExponent_of_endsValue h, ofDigits_toDigits]
    exact if_neg (Nat.not_lt.2 hlimit)

/-! ## Numerals -/

theorem toList_signedNumeral (n : Int) : (signedNumeral n).toList =
    if n < 0 then '-' :: Nat.toDigits 10 n.natAbs else Nat.toDigits 10 n.natAbs := by
  unfold signedNumeral numeral
  split
  · rw [String.toList_append, String.toList_ofList, String.toList_ofList, List.singleton_append]
  · rw [String.toList_ofList]

theorem isPrintable_of_isDigit (h : ∀ c ∈ cs, c.isDigit = true) : IsPrintable cs := by
  intro c hc
  have hlow : '0'.toNat ≤ c.toNat := (isDigit_bounds (h c hc)).1
  have hhigh : c.toNat ≤ '9'.toNat := (isDigit_bounds (h c hc)).2
  have hzero : '0'.toNat = 0x30 := rfl
  have hnine : '9'.toNat = 0x39 := rfl
  omega

theorem isPrintable_signedNumeral (n : Int) : IsPrintable (signedNumeral n).toList := by
  have hdigits : IsPrintable (Nat.toDigits 10 n.natAbs) :=
    isPrintable_of_isDigit fun _ hc => isDigit_of_mem_toDigits hc
  have hsign : IsPrintable ['-'] := by decide
  rw [toList_signedNumeral]
  split
  · exact hsign.append hdigits
  · exact hdigits

/-- What a number starts with: a digit, perhaps with a sign in front of it. -/
def StartsNumber (cs : List Char) : Prop :=
  ∃ d ds, d.isDigit = true ∧ (cs = d :: ds ∨ cs = '-' :: d :: ds)

theorem startsNumber_append {ds : List Char} (h : StartsNumber cs) : StartsNumber (cs ++ ds) := by
  obtain ⟨d, rest, hd, rfl | rfl⟩ := h
  · exact ⟨d, rest ++ ds, hd, .inl rfl⟩
  · exact ⟨d, rest ++ ds, hd, .inr rfl⟩

theorem startsNumber_signedNumeral (n : Int) : StartsNumber (signedNumeral n).toList := by
  obtain ⟨d, ds, hds⟩ := List.exists_cons_of_ne_nil (Nat.toDigits_ne_nil (n := n.natAbs) (b := 10))
  have hd : d.isDigit = true := isDigit_of_mem_toDigits (hds ▸ List.mem_cons_self)
  rw [toList_signedNumeral, hds]
  split
  · exact ⟨d, ds, hd, .inr rfl⟩
  · exact ⟨d, ds, hd, .inl rfl⟩

/-- What starts a number starts no other value. -/
theorem readValue_of_startsNumber (h : StartsNumber cs) : readValue (fuel + 1) cs = readNumber cs := by
  obtain ⟨d, ds, hd, hcs⟩ := h
  have hne : ∀ c : Char, c.isDigit = false → c ≠ d := fun c hc => (ne_of_isDigit hd hc).symm
  have hhead : ∀ c rest, c.isDigit = false → c ≠ '-' → cs ≠ c :: rest := by
    rintro c rest hc hminus heq
    rcases hcs with rfl | rfl
    · exact hne c hc (List.cons.inj heq).1.symm
    · exact hminus (List.cons.inj heq).1.symm
  -- A word that starts with a minus goes on with a letter, and the number with a digit.
  have hword : readWord? cs = none := by
    rcases hcs with rfl | rfl
    · simp [readWord?, words, hne 'n' rfl, hne 't' rfl, hne 'f' rfl, hne 'N' rfl, hne 'I' rfl, hne '-' rfl]
    · simp [readWord?, words, hne 'I' rfl]
  rw [readValue, hword]
  · exact fun rest => hhead '"' rest rfl (by decide)
  · exact fun rest => hhead '[' rest rfl (by decide)
  · exact fun rest => hhead '\x7b' rest rfl (by decide)

theorem readNumber_signedNumeral {n : Int} (h : isWithinLimit n = true) (hrest : EndsValue rest) :
    readNumber ((signedNumeral n).toList ++ rest) = .ok (.int n, rest) := by
  have hlimit : (Nat.toDigits 10 n.natAbs).length ≤ digitLimit := of_decide_eq_true h
  rw [toList_signedNumeral]
  split
  · next hneg =>
    have hvalue : -(n.natAbs : Int) = n := by omega
    rw [List.cons_append, readNumber, readUnsigned_toDigits hrest hlimit, if_pos rfl, hvalue]
  · next hpos =>
    have hvalue : (n.natAbs : Int) = n := by omega
    unfold readNumber
    split
    · next left hminus =>
      have hhead := congrArg List.head? hminus
      rw [List.head?_append_of_ne_nil _ Nat.toDigits_ne_nil] at hhead
      exact absurd (isDigit_of_mem_toDigits (List.mem_of_head? hhead)) (by decide)
    · rw [readUnsigned_toDigits hrest hlimit, if_neg Bool.false_ne_true, hvalue]

/-- **A whole number is read back**, unless it has too many digits. -/
theorem isReadBack_int {n : Int} (h : isWithinLimit n = true) : IsReadBack (.int n) := by
  have hstarts := startsNumber_signedNumeral n
  refine ⟨isPrintable_signedNumeral n, ?_, fun fuel rest hfuel hrest => ?_⟩
  · obtain ⟨d, ds, hd, hcs | hcs⟩ := hstarts
    · have hspace : isSpace d = false := by
        simp [isSpace, ne_of_isDigit hd (d := ' ') rfl, ne_of_isDigit hd (d := '\t') rfl,
          ne_of_isDigit hd (d := '\n') rfl, ne_of_isDigit hd (d := '\r') rfl]
      exact ⟨d, ds, hcs, hspace, ne_of_isDigit hd rfl⟩
    · exact ⟨'-', d :: ds, hcs, by decide, by decide⟩
  · obtain ⟨fuel, rfl⟩ := Nat.exists_eq_add_one_of_ne_zero (Nat.ne_of_gt (Nat.zero_lt_of_lt hfuel))
    exact (readValue_of_startsNumber (startsNumber_append hstarts)).trans (readNumber_signedNumeral h hrest)

end Json
end LabelPress
