import LabelPress.Text.Letter
import Mathlib.Data.List.Forall2

/-!
# Lower case and ASCII words

A character beyond ASCII has something beyond ASCII in its lower case; the one exception is the Kelvin sign, which
becomes a k (`exists_mem_lowerPiece`). So a text has an ASCII word without a k as its lower case exactly if it is that
word with some of its letters as capitals (`lowerCase_eq_iff`): no letter that looks alike gets in.
-/

namespace LabelPress

/-- Whether a text is a word but for the case of its ASCII letters: every character is that of the word or the capital
of it. -/
def Spells (text word : List Char) : Prop :=
  List.Forall₂ (fun c d => c = d ∨ c = d.toUpper) text word

instance : DecidableRel Spells := fun text word =>
  inferInstanceAs (Decidable (List.Forall₂ (fun c d => c = d ∨ c = d.toUpper) text word))

/-- Characters that only ASCII characters have as their lower case. The letter k is not one of them, since it is the
lower case of the Kelvin sign too. -/
structure IsPlainLower (d : Char) : Prop where
  ascii : d.toNat < 0x80
  lower : d.toLower = d
  ne_k : d ≠ 'k'

instance : DecidablePred IsPlainLower := fun d =>
  decidable_of_iff (d.toNat < 0x80 ∧ d.toLower = d ∧ d ≠ 'k')
    ⟨fun h => ⟨h.1, h.2.1, h.2.2⟩, fun h => ⟨h.ascii, h.lower, h.ne_k⟩⟩

/-! ## ASCII characters -/

section
variable {c d : Char}

theorem forall_ascii {p : Char → Prop} (h : ∀ n < 0x80, p (Char.ofNat n)) (hc : c.toNat < 0x80) : p c := by
  rw [← Char.ofNat_toNat c]
  exact h _ hc

theorem eq_toLower_or_eq_capital (hc : c.toNat < 0x80) : c = c.toLower ∨ c = c.toLower.toUpper :=
  forall_ascii (p := fun c => c = c.toLower ∨ c = c.toLower.toUpper) (by decide) hc

theorem IsPlainLower.capital (h : IsPlainLower d) : d.toUpper.toNat < 0x80 ∧ d.toUpper.toLower = d :=
  forall_ascii (p := fun d => d.toLower = d → d.toUpper.toNat < 0x80 ∧ d.toUpper.toLower = d) (by decide) h.ascii
    h.lower

theorem IsPlainLower.of_spelled (h : IsPlainLower d) (hc : c = d ∨ c = d.toUpper) :
    c.toNat < 0x80 ∧ c.toLower = d := by
  rcases hc with rfl | rfl
  · exact ⟨h.ascii, h.lower⟩
  · exact h.capital

theorem lowerChar_of_ascii (hc : c.toNat < 0x80) : lowerChar c = [c.toLower] :=
  if_pos hc

end

/-! ## Characters beyond ASCII -/

/-- The runs lead from beyond ASCII to beyond ASCII, and past the surrogates. -/
theorem lowerRuns_beyond_ascii : ∀ run ∈ lowerRuns, 0x80 ≤ run.first + run.offset ∧
    (run.last + run.offset < 0xD800 ∨ 0xDFFF < run.first + run.offset ∧ run.last + run.offset < 0x110000) := by
  decide +kernel

theorem lowerRun_beyond_ascii {run : CaseRun} {n : Nat} (hrun : run ∈ lowerRuns) (hn : run.contains n = true) :
    0x80 ≤ (Char.ofNat (n + run.offset).toNat).toNat := by
  obtain ⟨hlow, hvalid⟩ := lowerRuns_beyond_ascii run hrun
  simp only [CaseRun.contains, Bool.and_eq_true, decide_eq_true_eq] at hn
  have hscalar : (n + run.offset).toNat.isValidChar := by
    unfold Nat.isValidChar
    omega
  rw [Char.ofNat, dif_pos hscalar]
  change 0x80 ≤ (n + run.offset).toNat
  omega

theorem exists_mem_lowerChar {c : Char} (hc : ¬ c.toNat < 0x80) : ∃ d ∈ lowerChar c, ¬ IsPlainLower d := by
  have beyond : ∀ {d : Char}, 0x80 ≤ d.toNat → ¬ IsPlainLower d := fun hd h => absurd h.ascii (by omega)
  unfold lowerChar
  rw [if_neg hc]
  split
  · exact ⟨'k', List.mem_singleton_self _, fun h => h.ne_k rfl⟩
  · split
    · exact ⟨Char.ofNat 0x0307, by simp, by decide⟩
    · split
      · next run hfind =>
        have hcontains : run.contains c.toNat = true := List.find?_some (p := fun run : CaseRun => run.contains c.toNat) hfind
        exact ⟨_, List.mem_singleton_self _, beyond (lowerRun_beyond_ascii (List.mem_of_find?_eq_some hfind) hcontains)⟩
      · exact ⟨c, List.mem_singleton_self _, beyond (by omega)⟩

theorem exists_mem_lowerPiece {c : Char} (hc : ¬ c.toNat < 0x80) (before after : List Char) :
    ∃ d ∈ if c = 'Σ' then [smallSigma before after] else lowerChar c, ¬ IsPlainLower d := by
  split
  · refine ⟨_, List.mem_singleton_self _, ?_⟩
    unfold smallSigma
    split <;> decide
  · exact exists_mem_lowerChar hc

theorem lowerFrom_cons_of_ascii {c : Char} (hc : c.toNat < 0x80) (before after : List Char) :
    lowerFrom before (c :: after) = c.toLower :: lowerFrom (c :: before) after := by
  have hsigma : c ≠ 'Σ' := by
    rintro rfl
    exact absurd hc (by decide)
  rw [lowerFrom, if_neg hsigma, lowerChar_of_ascii hc, List.singleton_append]

/-! ## Texts -/

theorem Spells.ascii {text word : List Char} (h : Spells text word) (hword : ∀ d ∈ word, IsPlainLower d) :
    ∀ c ∈ text, c.toNat < 0x80 := by
  induction h with
  | nil => exact fun _ hc => absurd hc List.not_mem_nil
  | cons hc _ ih =>
    obtain ⟨hd, hword⟩ := List.forall_mem_cons.1 hword
    exact List.forall_mem_cons.2 ⟨(hd.of_spelled hc).1, ih hword⟩

theorem lowerFrom_eq_iff {before cs word : List Char} (hword : ∀ d ∈ word, IsPlainLower d) :
    lowerFrom before cs = word ↔ Spells cs word := by
  induction cs generalizing before word with
  | nil => cases word <;> simp [lowerFrom, Spells]
  | cons c cs ih =>
    by_cases hc : c.toNat < 0x80
    · rw [lowerFrom_cons_of_ascii hc]
      cases word with
      | nil => simp [Spells]
      | cons d word =>
        obtain ⟨hd, hword⟩ := List.forall_mem_cons.1 hword
        have hspelled : c.toLower = d ↔ c = d ∨ c = d.toUpper :=
          ⟨fun h => h ▸ eq_toLower_or_eq_capital hc, fun h => (hd.of_spelled h).2⟩
        rw [List.cons.injEq, ih hword, hspelled, Spells, Spells, List.forall₂_cons]
    · -- Neither side holds: the character leaves something that is not plain, and spells nothing that is.
      constructor
      · rintro rfl
        obtain ⟨d, hd, hplain⟩ := exists_mem_lowerPiece hc before cs
        exact absurd (hword d (List.mem_append_left _ hd)) hplain
      · exact fun h => absurd (h.ascii hword c List.mem_cons_self) hc

/-- **Only its own spellings have a plain word as their lower case.** -/
theorem lowerCase_eq_iff {s word : String} (hword : ∀ d ∈ word.toList, IsPlainLower d) :
    lowerCase s = word ↔ Spells s.toList word.toList := by
  rw [lowerCase, ← lowerFrom_eq_iff hword, ← String.toList_inj, String.toList_ofList]

end LabelPress
