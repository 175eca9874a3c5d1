import LabelPress.Page
import Mathlib.Data.List.Forall2

/-!
# Pages of a plan

The pages of a plan are the consecutive stretches of its items (`split_eq_map_range`): joined they are the
items again, none of them is empty, and with `k` items to a page, page `p` holds the items from number
`p * k` up to number `(p + 1) * k` (`zipIdx_stretch`).
-/

namespace LabelPress.Page

variable {α β : Type} {spare : Nat} {items : List α}

theorem split_of_ne_nil (h : items ≠ []) :
    split spare items = items.take (spare + 1) :: split spare (items.drop (spare + 1)) := by
  cases items with
  | nil => exact absurd rfl h
  | cons item items => rw [split, List.take_succ_cons, List.drop_succ_cons]

theorem split_eq_nil_iff : split spare items = [] ↔ items = [] := by
  cases items <;> simp [split]

theorem flatten_split : (split spare items).flatten = items := by
  induction items using split.induct spare with
  | case1 => rw [split, List.flatten_nil]
  | case2 item items ih =>
    rw [split, List.flatten_cons, ih, List.cons_append, List.take_append_drop]

/-- Plans of items that are related one by one are related page by page, and no page is longer than one can be. -/
theorem forall₂_split_le {R : α → β → Prop} {xs : List α} {ys : List β} (h : List.Forall₂ R xs ys) :
    List.Forall₂ (fun page page' => page.length ≤ spare + 1 ∧ List.Forall₂ R page page')
      (split spare xs) (split spare ys) := by
  induction xs using split.induct spare generalizing ys with
  | case1 =>
    cases h
    rw [split, split]
    exact .nil
  | case2 x xs ih =>
    cases h with
    | cons hxy h =>
      rw [split, split]
      refine .cons ⟨?_, .cons hxy (List.forall₂_take spare h)⟩ (ih (List.forall₂_drop spare h))
      rw [List.length_cons, List.length_take]
      omega

/-- Plans are related page by page exactly when their items are related one by one. -/
theorem forall₂_split {R : α → β → Prop} {xs : List α} {ys : List β} :
    List.Forall₂ (List.Forall₂ R) (split spare xs) (split spare ys) ↔ List.Forall₂ R xs ys := by
  constructor
  · intro h
    have hitems := List.rel_flatten h
    rwa [flatten_split, flatten_split] at hitems
  · intro h
    exact (forall₂_split_le h).imp fun _ _ hpages => hpages.2

theorem ne_nil_of_mem_split {page : List α} (h : page ∈ split spare items) : page ≠ [] := by
  induction items using split.induct spare with
  | case1 =>
    rw [split] at h
    cases h
  | case2 item items ih =>
    rw [split] at h
    rcases List.mem_cons.1 h with rfl | h
    · exact List.cons_ne_nil _ _
    · exact ih h

/-- The number of pages: as many as are full, and one more for a remainder. -/
theorem length_split : (split spare items).length = (items.length + spare) / (spare + 1) := by
  induction items using split.induct spare with
  | case1 =>
    rw [split]
    exact (Nat.div_eq_of_lt (by simp)).symm
  | case2 item items ih =>
    rw [split, List.length_cons, ih, List.length_drop, List.length_cons]
    rcases Nat.lt_or_ge spare items.length with h | h
    · rw [← Nat.add_div_right _ (Nat.succ_pos spare)]
      congr 1
      omega
    · have hnone : items.length - spare + spare < spare + 1 := by omega
      have hone : items.length + 1 + spare = items.length + (spare + 1) := by omega
      rw [Nat.div_eq_of_lt hnone, hone, Nat.add_div_right _ (Nat.succ_pos spare),
        Nat.div_eq_of_lt (Nat.lt_succ_of_le h)]

/-- Page `p` starts behind `p` full pages and is no longer than one. -/
theorem getElem_split {p : Nat} (hp : p < (split spare items).length) :
    (split spare items)[p] = (items.drop (p * (spare + 1))).take (spare + 1) := by
  induction p generalizing items with
  | zero =>
    have hne : items ≠ [] := fun h => by simp [split_eq_nil_iff.2 h] at hp
    simp only [split_of_ne_nil hne, List.getElem_cons_zero, Nat.zero_mul, List.drop_zero]
  | succ p ih =>
    have hne : items ≠ [] := fun h => by simp [split_eq_nil_iff.2 h] at hp
    have hnext : spare + 1 + p * (spare + 1) = (p + 1) * (spare + 1) := by
      rw [Nat.succ_mul, Nat.add_comm]
    simp only [split_of_ne_nil hne, List.length_cons] at hp
    simp only [split_of_ne_nil hne, List.getElem_cons_succ, ih (Nat.lt_of_succ_lt_succ hp),
      List.drop_drop, hnext]

theorem length_le_of_mem_split {page : List α} (h : page ∈ split spare items) : page.length ≤ spare + 1 := by
  obtain ⟨p, hp, rfl⟩ := List.getElem_of_mem h
  rw [getElem_split hp, List.length_take]
  exact Nat.min_le_left _ _

/-- **A plan, page by page.** -/
theorem split_eq_map_range :
    split spare items = (List.range ((items.length + spare) / (spare + 1))).map fun p =>
      (items.drop (p * (spare + 1))).take (spare + 1) := by
  refine List.ext_getElem (by rw [length_split, List.length_map, List.length_range]) fun p hp _ => ?_
  rw [getElem_split hp, List.getElem_map, List.getElem_range]

/-- Items that fill whole pages, and others behind them, fill their pages apart from each other. -/
theorem split_append {items : List α} (h : spare + 1 ∣ items.length) (others : List α) :
    split spare (items ++ others) = split spare items ++ split spare others := by
  induction items using split.induct spare with
  | case1 => rw [split, List.nil_append, List.nil_append]
  | case2 item items ih =>
    have hne : item :: items ≠ [] := List.cons_ne_nil item items
    have hfull : spare + 1 ≤ (item :: items).length := Nat.le_of_dvd (Nat.succ_pos _) h
    have hrest : spare + 1 ∣ (items.drop spare).length := by
      have hlength : (items.drop spare).length = (item :: items).length - (spare + 1) := by
        rw [List.length_drop, List.length_cons, Nat.succ_sub_succ]
      rw [hlength]
      exact Nat.dvd_sub h (Nat.dvd_refl _)
    rw [split_of_ne_nil (List.append_ne_nil_of_left_ne_nil hne others), split_of_ne_nil hne,
      List.take_append_of_le_length hfull, List.drop_append_of_le_length hfull, List.drop_succ_cons, ih hrest,
      List.cons_append]

/-- The first pages hold the first items. -/
theorem take_split (count : Nat) (items : List α) :
    (split spare items).take count = split spare (items.take (count * (spare + 1))) := by
  induction count generalizing items with
  | zero => rw [Nat.zero_mul, List.take_zero, List.take_zero, split]
  | succ count ih =>
    have hlength : (count + 1) * (spare + 1) = (spare + 1) + count * (spare + 1) := by
      rw [Nat.succ_mul, Nat.add_comm]
    by_cases hnil : items = []
    · rw [hnil, List.take_nil, split, List.take_nil]
    · have hne : items.take ((count + 1) * (spare + 1)) ≠ [] := by
        rw [ne_eq, List.take_eq_nil_iff, hlength]
        exact not_or.2 ⟨by omega, hnil⟩
      rw [split_of_ne_nil hnil, split_of_ne_nil hne, List.take_succ_cons, ih, hlength, List.take_take, List.drop_take,
        Nat.min_eq_left (Nat.le_add_right ..), Nat.add_sub_cancel_left]

/-- A plan is made for every positive number of items per page, and for no other. -/
theorem plan_eq_ok_iff {perPage : Int} {pages : List (List α)} :
    plan items perPage = .ok pages ↔ ∃ spare : Nat, perPage = spare + 1 ∧ pages = split spare items := by
  unfold plan
  constructor
  · intro h
    split at h
    · next hpos => exact ⟨perPage.toNat - 1, by omega, (Except.ok.inj h).symm⟩
    · cases h
  · rintro ⟨spare, rfl, rfl⟩
    have hpos : (0 : Int) < spare + 1 := by omega
    have hspare : ((spare : Int) + 1).toNat - 1 = spare := by omega
    rw [if_pos hpos, hspare]

theorem zipIdx_take_drop (items : List α) (i first count : Nat) :
    ((items.drop first).take count).zipIdx (i + first) =
      (items.zipIdx i).filter fun entry => i + first ≤ entry.2 ∧ entry.2 < i + first + count := by
  induction items generalizing i first count with
  | nil => simp
  | cons item items ih =>
    cases first with
    | zero =>
      cases count with
      | zero =>
        refine (List.filter_eq_nil_iff.2 fun entry _ => ?_).symm
        simp
      | succ count =>
        have hrest := ih (i + 1) 0 count
        rw [List.drop_zero] at hrest
        rw [List.drop_zero, List.take_succ_cons, List.zipIdx_cons, List.zipIdx_cons,
          List.filter_cons_of_pos (by simp), Nat.add_zero]
        refine congrArg ((item, i) :: ·) (hrest.trans (List.filter_congr fun entry he => ?_))
        have := List.le_snd_of_mem_zipIdx he
        simp only [decide_eq_decide]
        omega
    | succ first =>
      have hrest := ih (i + 1) first count
      have hi : i + 1 + first = i + (first + 1) := by omega
      rw [hi] at hrest
      have hout : ¬(i + (first + 1) ≤ i ∧ i < i + (first + 1) + count) := by omega
      rw [List.drop_succ_cons, List.zipIdx_cons, List.filter_cons_of_neg (by rwa [decide_eq_true_eq]), hrest]

/-- **The items of a stretch** are those whose number lies in it. -/
theorem zipIdx_stretch (items : List α) (first count : Nat) :
    ((items.drop first).take count).zipIdx first =
      items.zipIdx.filter fun entry => first ≤ entry.2 ∧ entry.2 < first + count := by
  have h := zipIdx_take_drop items 0 first count
  rwa [Nat.zero_add] at h

end LabelPress.Page
