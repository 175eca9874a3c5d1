import LabelPress.Pitch

/-!
# The characters of numbers

However a number is written, with a sign, a point, an exponent or as a word, it is made of ASCII letters and
digits, points and signs (`isNumeric_number`, `isNumeric_pitch`). None of these can end a line or an argument
or open markup.
-/

namespace LabelPress

/-- Whether a character can be part of a written number. -/
def isNumericChar (c : Char) : Bool :=
  c.isAlphanum || c = '.' || c = '-' || c = '+'

/-- A text made of the characters of written numbers. -/
def IsNumeric (s : String) : Prop :=
  ∀ c ∈ s.toList, isNumericChar c = true

instance (s : String) : Decidable (IsNumeric s) :=
  List.decidableBAll _ s.toList

namespace IsNumeric

theorem append {s t : String} (hs : IsNumeric s) (ht : IsNumeric t) : IsNumeric (s ++ t) := by
  intro c hc
  rw [String.toList_append] at hc
  exact (List.mem_append.1 hc).elim (hs c) (ht c)

theorem ofList {cs : List Char} (h : ∀ c ∈ cs, isNumericChar c = true) :
    IsNumeric (String.ofList cs) := by
  intro c hc
  rw [String.toList_ofList] at hc
  exact h c hc

/-- A character that no number is written with is not in a numeric text. -/
theorem not_mem {s : String} (h : IsNumeric s) {c : Char} (hc : isNumericChar c = false) :
    c ∉ s.toList :=
  fun hm => Bool.false_ne_true (hc.symm.trans (h c hm))

end IsNumeric

theorem isNumericChar_of_isDigit {c : Char} (h : c.isDigit = true) : isNumericChar c = true := by
  simp [isNumericChar, Char.isAlphanum, h]

theorem isNumericChar_of_mem_toDigits {n : Nat} {c : Char} (h : c ∈ Nat.toDigits 10 n) :
    isNumericChar c = true :=
  isNumericChar_of_isDigit (Nat.isDigit_of_mem_toDigits (by decide) (by decide) h)

theorem isNumericChar_of_mem_zeros {k : Nat} {c : Char} (h : c ∈ List.replicate k '0') :
    isNumericChar c = true := by
  rw [(List.mem_replicate.1 h).2]
  decide

theorem isNumeric_numeral (n : Nat) : IsNumeric (numeral n) :=
  .ofList fun _ hc => isNumericChar_of_mem_toDigits hc

theorem isNumeric_signedNumeral (n : Int) : IsNumeric (signedNumeral n) := by
  unfold signedNumeral
  split
  · exact .append (by decide) (isNumeric_numeral _)
  · exact isNumeric_numeral _

theorem isNumeric_paddedNumeral (width n : Nat) : IsNumeric (paddedNumeral width n) :=
  .ofList fun _ hc =>
    (List.mem_append.1 hc).elim isNumericChar_of_mem_zeros isNumericChar_of_mem_toDigits

/-! ## Doubles -/

/-- A layout of doubles whose own words and marks are numeric. -/
structure FloatLayout.IsNumeric (layout : FloatLayout) : Prop where
  wholeTail : LabelPress.IsNumeric layout.wholeTail
  exponentMark : LabelPress.IsNumeric layout.exponentMark
  infinity : LabelPress.IsNumeric layout.infinity
  undefined : LabelPress.IsNumeric layout.undefined

theorem plainFloat_isNumeric : plainFloat.IsNumeric where
  wholeTail := by decide
  exponentMark := by decide
  infinity := by decide
  undefined := by decide

theorem isNumeric_spellDigits {layout : FloatLayout} (hl : layout.IsNumeric) (d : DecimalFraction) :
    IsNumeric (layout.spellDigits d) := by
  have digits : ∀ c ∈ Nat.toDigits 10 d.digits, isNumericChar c = true :=
    fun _ hc => isNumericChar_of_mem_toDigits hc
  have taken : ∀ k, IsNumeric (String.ofList ((Nat.toDigits 10 d.digits).take k)) :=
    fun k => .ofList fun c hc => digits c (List.mem_of_mem_take hc)
  have dropped : ∀ k, IsNumeric (String.ofList ((Nat.toDigits 10 d.digits).drop k)) :=
    fun k => .ofList fun c hc => digits c (List.mem_of_mem_drop hc)
  have point : IsNumeric "." := by decide
  unfold FloatLayout.spellDigits
  dsimp only
  split
  · split
    · refine .append (.ofList fun c hc => ?_) hl.wholeTail
      exact (List.mem_append.1 hc).elim (digits c) isNumericChar_of_mem_zeros
    · split
      · exact ((taken _).append point).append (dropped _)
      · refine .append (by decide) (.ofList fun c hc => ?_)
        exact (List.mem_append.1 hc).elim isNumericChar_of_mem_zeros (digits c)
  · refine .append (.append (.append (.append (taken 1) ?_) hl.exponentMark) ?_)
      (isNumeric_paddedNumeral _ _)
    · cases hd : (Nat.toDigits 10 d.digits).drop 1 with
      | nil => decide
      | cons c rest => exact point.append (hd ▸ dropped 1)
    · split <;> decide

theorem isNumeric_sign (negative : Bool) : IsNumeric (if negative then "-" else "") := by
  cases negative <;> decide

theorem isNumeric_double (x : Binary64) : IsNumeric x.text := by
  have hl := plainFloat_isNumeric
  unfold Binary64.text FloatLayout.spell
  split
  · exact hl.undefined
  · exact (isNumeric_sign _).append hl.infinity
  · refine (isNumeric_sign _).append ?_
    split <;> exact isNumeric_spellDigits hl _

/-- **A number is written with numeric characters**, whatever it is. -/
theorem isNumeric_number (n : Number) : IsNumeric n.text := by
  cases n with
  | whole n => exact isNumeric_signedNumeral n
  | real x =>
    rw [Number.text]
    split
    · exact isNumeric_signedNumeral _
    · exact isNumeric_double x

/-! ## Pitches -/

theorem isNumeric_signedText {negative : Bool} {num den : Nat} {p : String}
    (h : Pitch.signedText? negative num den = some p) : IsNumeric p := by
  unfold Pitch.signedText? at h
  dsimp only at h
  split at h
  · obtain rfl := Option.some.inj h
    refine (isNumeric_sign negative).append (.append (.append (isNumeric_numeral _) ?_) ?_)
    · decide
    · exact isNumeric_numeral _
  · cases h

theorem isNumeric_pitch {n : Number} {p : String} (h : Pitch.text? n = some p) : IsNumeric p := by
  unfold Pitch.text? at h
  split at h
  · exact isNumeric_signedText h
  · exact isNumeric_signedText h
  · cases h
  · obtain rfl := Option.some.inj h
    decide

end LabelPress
