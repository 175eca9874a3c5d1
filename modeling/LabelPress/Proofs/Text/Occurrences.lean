import Mathlib.Data.List.Basic

/-!
# Occurrences of a word

How often a word is met in a text that is read from left to right, where the next occurrence starts behind
the last one. A character that the word does not have separates what is met on its two sides
(`occurrencesFrom_append_cons`), and nothing is met before the first character that starts the word
(`occurrencesFrom_append_of_not_mem`).
-/

namespace LabelPress

/-- The occurrences of a word behind the next `skip` characters, which belong to the occurrence met last. -/
def occurrencesFrom (w : List Char) : (skip : Nat) → List Char → Nat
  | _, [] => 0
  | skip + 1, _ :: cs => occurrencesFrom w skip cs
  | 0, c :: cs =>
    if w.isPrefixOf (c :: cs) then 1 + occurrencesFrom w (w.length - 1) cs
    else occurrencesFrom w 0 cs

/-- How often a word is met in a text. -/
def occurrences (w s : String) : Nat :=
  occurrencesFrom w.toList 0 s.toList

/-- How often a word is met in some texts. -/
def totalOccurrences (w : String) : List String → Nat
  | [] => 0
  | s :: texts => occurrences w s + totalOccurrences w texts

/-! ## Words and separators -/

variable {w : List Char} {c d : Char}

theorem prefix_append_cons_iff (hd : d ∉ w) {a b : List Char} : w <+: a ++ d :: b ↔ w <+: a := by
  constructor
  · intro h
    have hone : a ++ [d] <+: a ++ d :: b := ⟨b, by rw [List.append_assoc, List.singleton_append]⟩
    rcases List.prefix_or_prefix_of_prefix h hone with hw | hw
    · rcases List.prefix_concat_iff.1 hw with rfl | hw
      · exact absurd (List.mem_append_right a List.mem_cons_self) hd
      · exact hw
    · exact absurd (hw.subset (List.mem_append_right a List.mem_cons_self)) hd
  · exact fun h => h.trans (List.prefix_append a _)

theorem occurrencesFrom_append_cons_of_le (hne : w ≠ []) (hd : d ∉ w) {skip : Nat} {a : List Char}
    (hskip : skip ≤ a.length) (b : List Char) : occurrencesFrom w skip (a ++ d :: b) =
      occurrencesFrom w skip a + occurrencesFrom w 0 b := by
  -- What is skipped lies within `a`: an occurrence that starts there ends before the separator.
  induction a generalizing skip with
  | nil =>
    obtain rfl := Nat.le_zero.1 hskip
    have hnot : ¬w.isPrefixOf (d :: b) = true := by
      rw [List.isPrefixOf_iff_prefix]
      exact fun h => hne (List.prefix_nil.1 ((prefix_append_cons_iff hd (a := [])).1 h))
    have hstep : occurrencesFrom w 0 (d :: b) = occurrencesFrom w 0 b := by
      rw [occurrencesFrom, if_neg hnot]
    exact hstep.trans (Nat.zero_add _).symm
  | cons c a ih =>
    cases skip with
    | succ skip =>
      exact ih (Nat.le_of_succ_le_succ hskip)
    | zero =>
      have hstart : w.isPrefixOf (c :: a ++ d :: b) = true ↔ w.isPrefixOf (c :: a) = true := by
        rw [List.isPrefixOf_iff_prefix, List.isPrefixOf_iff_prefix, prefix_append_cons_iff hd]
      rw [List.cons_append, occurrencesFrom, occurrencesFrom, ← List.cons_append]
      by_cases hw : w.isPrefixOf (c :: a) = true
      · have hlength := (List.isPrefixOf_iff_prefix.1 hw).length_le
        rw [List.length_cons] at hlength
        rw [if_pos (hstart.2 hw), if_pos hw, ih (by omega), Nat.add_assoc]
      · rw [if_neg (hstart.not.2 hw), if_neg hw, ih (Nat.zero_le _)]

/-- **A separator** splits the occurrences. -/
theorem occurrencesFrom_append_cons (hne : w ≠ []) (hd : d ∉ w) (a b : List Char) :
    occurrencesFrom w 0 (a ++ d :: b) = occurrencesFrom w 0 a + occurrencesFrom w 0 b :=
  occurrencesFrom_append_cons_of_le hne hd (Nat.zero_le _) b

theorem occurrencesFrom_append_of_not_mem {u : List Char} (hu : c ∉ u) (v : List Char) :
    occurrencesFrom (c :: w) 0 (u ++ v) = occurrencesFrom (c :: w) 0 v := by
  induction u with
  | nil => rfl
  | cons d u ih =>
    rw [List.mem_cons, not_or] at hu
    rw [List.cons_append, occurrencesFrom, if_neg (by simp [hu.1]), ih hu.2]

theorem occurrencesFrom_length_append (u v : List Char) :
    occurrencesFrom w u.length (u ++ v) = occurrencesFrom w 0 v := by
  induction u with
  | nil => rfl
  | cons c u ih => exact ih

theorem occurrencesFrom_append_self (hne : w ≠ []) (v : List Char) :
    occurrencesFrom w 0 (w ++ v) = 1 + occurrencesFrom w 0 v := by
  obtain ⟨c, u, rfl⟩ := List.exists_cons_of_ne_nil hne
  have hstart : (c :: u).isPrefixOf (c :: (u ++ v)) = true :=
    List.isPrefixOf_iff_prefix.2 (List.prefix_append (c :: u) v)
  rw [List.cons_append, occurrencesFrom, if_pos hstart, List.length_cons, Nat.add_sub_cancel,
    occurrencesFrom_length_append]

/-- A word is met exactly in the texts that contain it. -/
theorem occurrencesFrom_eq_zero_iff (hne : w ≠ []) {s : List Char} :
    occurrencesFrom w 0 s = 0 ↔ ¬w <:+: s := by
  induction s with
  | nil => exact iff_of_true rfl fun h => hne (List.eq_nil_of_infix_nil h)
  | cons c s ih =>
    rw [occurrencesFrom, List.infix_cons_iff, not_or, ← ih, ← List.isPrefixOf_iff_prefix]
    split
    · next hw => exact iff_of_false (by omega) fun h => h.1 hw
    · next hw => exact ⟨fun h => ⟨hw, h⟩, And.right⟩

/-! ## Texts -/

@[simp] theorem totalOccurrences_nil (w : String) : totalOccurrences w [] = 0 := rfl

@[simp] theorem totalOccurrences_cons (w s : String) (texts : List String) :
    totalOccurrences w (s :: texts) = occurrences w s + totalOccurrences w texts := rfl

@[simp] theorem totalOccurrences_append (w : String) (texts texts' : List String) :
    totalOccurrences w (texts ++ texts') = totalOccurrences w texts + totalOccurrences w texts' := by
  induction texts with
  | nil => exact (Nat.zero_add _).symm
  | cons s texts ih => rw [List.cons_append, totalOccurrences_cons, totalOccurrences_cons, ih, Nat.add_assoc]

theorem totalOccurrences_replicate (w s : String) (n : Nat) :
    totalOccurrences w (List.replicate n s) = n * occurrences w s := by
  induction n with
  | zero => exact (Nat.zero_mul _).symm
  | succ n ih => rw [List.replicate_succ, totalOccurrences_cons, ih, Nat.succ_mul, Nat.add_comm]

theorem totalOccurrences_eq_zero_iff {w : String} (hne : w.toList ≠ []) {texts : List String} :
    totalOccurrences w texts = 0 ↔ ∀ s ∈ texts, ¬w.toList <:+: s.toList := by
  induction texts with
  | nil => exact iff_of_true rfl fun _ h => absurd h List.not_mem_nil
  | cons s texts ih =>
    rw [totalOccurrences_cons, Nat.add_eq_zero_iff, ih, List.forall_mem_cons, occurrences,
      occurrencesFrom_eq_zero_iff hne]

theorem occurrences_intercalate {w sep : String} {d : Char} (hne : w.toList ≠ []) (hsep : sep.toList = [d])
    (hd : d ∉ w.toList) (texts : List String) :
    occurrences w (String.intercalate sep texts) = totalOccurrences w texts := by
  induction texts with
  | nil => rfl
  | cons s texts ih =>
    cases texts with
    | nil => rw [String.intercalate_singleton, totalOccurrences_cons, totalOccurrences_nil, Nat.add_zero]
    | cons s' texts =>
      rw [totalOccurrences_cons, ← ih, String.intercalate_cons_cons, occurrences, String.toList_append,
        String.toList_append, hsep, List.append_assoc, List.singleton_append,
        occurrencesFrom_append_cons hne hd]
      rfl

end LabelPress
