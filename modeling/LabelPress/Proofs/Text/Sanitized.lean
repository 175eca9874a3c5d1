import LabelPress.Text.Literal

/-!
# Sanitised texts

A sanitised text has neither a double quote nor a line break, so a literal ends where its text ends: what
stands between the quotes and what follows them can be told apart (`literal_append_inj`).
-/

namespace LabelPress

theorem of_mem_sanitizeFrom {inBreak : Bool} {cs : List Char} {c : Char}
    (h : c ∈ sanitizeFrom inBreak cs) : c ≠ '"' ∧ isLineBreak c = false := by
  induction cs generalizing inBreak with
  | nil => cases h
  | cons d cs ih =>
    rw [sanitizeFrom] at h
    split at h
    · split at h
      · exact ih h
      · rcases List.mem_cons.1 h with rfl | h
        · decide
        · exact ih h
    · next hd =>
      rcases List.mem_cons.1 h with rfl | h
      · split
        · decide
        · next hq => exact ⟨hq, Bool.eq_false_iff.2 hd⟩
      · exact ih h

theorem quote_not_mem_sanitize (s : String) : '"' ∉ (sanitize s).toList := by
  intro h
  rw [sanitize, String.toList_ofList] at h
  exact (of_mem_sanitizeFrom h).1 rfl

theorem isLineBreak_of_mem_sanitize {s : String} {c : Char} (h : c ∈ (sanitize s).toList) :
    isLineBreak c = false := by
  rw [sanitize, String.toList_ofList] at h
  exact (of_mem_sanitizeFrom h).2

/-- Two lists are equal up to the first place of an element and from there on. -/
theorem append_cons_inj_of_not_mem {α : Type} {a : α} {x y u v : List α} (hx : a ∉ x) (hy : a ∉ y)
    (h : x ++ a :: u = y ++ a :: v) : x = y ∧ u = v := by
  induction x generalizing y with
  | nil =>
    cases y with
    | nil => exact ⟨rfl, (List.cons.inj h).2⟩
    | cons b y => exact absurd (List.cons.inj h).1 fun e => hy (e ▸ List.mem_cons_self)
  | cons b x ih =>
    cases y with
    | nil => exact absurd (List.cons.inj h).1 fun e => hx (e ▸ List.mem_cons_self)
    | cons c y =>
      obtain ⟨rfl, hrest⟩ := List.cons.inj h
      obtain ⟨rfl, hu⟩ := ih (fun m => hx (List.mem_cons_of_mem b m))
        (fun m => hy (List.mem_cons_of_mem b m)) hrest
      exact ⟨rfl, hu⟩

theorem toList_literal (s : String) : (literal s).toList = '"' :: (sanitize s).toList ++ ['"'] := by
  rw [literal, String.toList_append, String.toList_append]
  rfl

/-- **A literal is read back with what follows it**: nothing in a sanitised text is taken for the quote
that ends it. -/
theorem literal_append_inj {s t : String} {u v : List Char} :
    (literal s).toList ++ u = (literal t).toList ++ v ↔ sanitize s = sanitize t ∧ u = v := by
  constructor
  · intro h
    simp only [toList_literal, List.cons_append, List.append_assoc, List.nil_append, List.cons.injEq,
      true_and] at h
    obtain ⟨hs, hu⟩ :=
      append_cons_inj_of_not_mem (quote_not_mem_sanitize s) (quote_not_mem_sanitize t) h
    exact ⟨String.toList_inj.1 hs, hu⟩
  · rintro ⟨hs, rfl⟩
    rw [literal, literal, hs]

/-- Texts that end in literals and are the same up to these. -/
theorem append_literal_append_inj (stem : String) {s t : String} {u v : List Char} :
    (stem ++ literal s).toList ++ u = (stem ++ literal t).toList ++ v ↔
      sanitize s = sanitize t ∧ u = v := by
  rw [String.toList_append, String.toList_append, List.append_assoc, List.append_assoc,
    List.append_cancel_left_eq, literal_append_inj]

end LabelPress
