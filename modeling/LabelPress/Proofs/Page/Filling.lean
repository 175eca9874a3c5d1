import LabelPress.Proofs.Page
import Mathlib.Algebra.Order.Floor.Div

/-!
# Filling pages

What it is for items to fill pages in order, said by the pages alone: joined they are the items, none of them is
empty, all but the last are full, and the last holds no more than it can (`Fills`). Items fill pages of one size in one
way only, which is how they are cut (`fills_iff`), so that each item has its place by its number (`getElem?_split`).
There is a plan for every positive whole number of items per page and for no other value (`planFor_fills`).
-/

namespace LabelPress.Page

variable {α : Type} {size spare : Nat} {items page rest : List α} {pages : List (List α)}

/-- Pages with room for `size` items each that some items fill one after another. -/
structure Fills (size : Nat) (items : List α) (pages : List (List α)) : Prop where
  flatten_eq : pages.flatten = items
  ne_nil : ∀ page ∈ pages, page ≠ []
  /-- Every page but the last is full. -/
  full : ∀ page ∈ pages.dropLast, page.length = size
  /-- The last page holds no more than it can. -/
  fits : ∀ page, pages.getLast? = some page → page.length ≤ size

/-! ## One way to fill pages -/

/-- Behind the first page, the others are filled with what is left. -/
theorem Fills.tail (h : Fills size items (page :: pages)) : Fills size pages.flatten pages := by
  refine ⟨rfl, fun page' hpage => h.ne_nil page' (List.mem_cons_of_mem page hpage), fun page' hpage => ?_,
    fun page' hlast => ?_⟩
  · have hne : pages ≠ [] := by
      rintro rfl
      cases hpage
    refine h.full page' ?_
    rw [List.dropLast_cons_of_ne_nil hne]
    exact List.mem_cons_of_mem page hpage
  · refine h.fits page' ?_
    rw [List.getLast?_cons, hlast]
    rfl

/-- The first page is full, or it is the last one as well. -/
theorem Fills.head (h : Fills size items (page :: pages)) :
    page.length = size ∨ page.length ≤ size ∧ pages = [] := by
  by_cases hne : pages = []
  · subst hne
    exact .inr ⟨h.fits page rfl, rfl⟩
  · refine .inl (h.full page ?_)
    rw [List.dropLast_cons_of_ne_nil hne]
    exact List.mem_cons_self

/-- A page that is full, or that nothing follows, is the first page of its items. -/
theorem split_page_append (hne : page ≠ []) (h : page.length = spare + 1 ∨ page.length ≤ spare + 1 ∧ rest = []) :
    split spare (page ++ rest) = page :: split spare rest := by
  rw [split_of_ne_nil (List.append_ne_nil_of_left_ne_nil hne rest)]
  rcases h with hfull | ⟨hfits, rfl⟩
  · rw [List.take_left' hfull, List.drop_left' hfull]
  · rw [List.append_nil, List.take_of_length_le hfits, List.drop_of_length_le hfits]

theorem Fills.eq_split (h : Fills (spare + 1) items pages) : pages = split spare items := by
  induction pages generalizing items with
  | nil =>
    obtain rfl := h.flatten_eq
    rw [List.flatten_nil, split]
  | cons page pages ih =>
    have hfirst : page.length = spare + 1 ∨ page.length ≤ spare + 1 ∧ pages.flatten = [] :=
      h.head.imp_right fun hlast => ⟨hlast.1, by rw [hlast.2, List.flatten_nil]⟩
    rw [← h.flatten_eq, List.flatten_cons, split_page_append (h.ne_nil page List.mem_cons_self) hfirst, ← ih h.tail]

theorem length_of_mem_dropLast_split (h : page ∈ (split spare items).dropLast) : page.length = spare + 1 := by
  induction items using split.induct spare with
  | case1 =>
    rw [split] at h
    cases h
  | case2 item items ih =>
    rw [split] at h
    by_cases hlast : split spare (items.drop spare) = []
    · rw [hlast] at h
      cases h
    · rw [List.dropLast_cons_of_ne_nil hlast] at h
      rcases List.mem_cons.1 h with rfl | h
      · -- What is left over shows that the first page is full.
        have hmore : spare < items.length := by
          rw [split_eq_nil_iff, List.drop_eq_nil_iff] at hlast
          omega
        rw [List.length_cons, List.length_take_of_le hmore.le]
      · exact ih h

theorem split_fills (spare : Nat) (items : List α) : Fills (spare + 1) items (split spare items) :=
  ⟨flatten_split, fun _ => ne_nil_of_mem_split, fun _ => length_of_mem_dropLast_split,
    fun _ hlast => length_le_of_mem_split (List.mem_of_getLast? hlast)⟩

/-- **There is one way to fill pages.** -/
theorem fills_iff : Fills (spare + 1) items pages ↔ pages = split spare items := by
  constructor
  · exact Fills.eq_split
  · rintro rfl
    exact split_fills spare items

/-! ## The place of an item -/

theorem div_lt_length_split {j : Nat} (hj : j < items.length) : j / (spare + 1) < (split spare items).length := by
  have hpages : (j + (spare + 1)) / (spare + 1) ≤ (items.length + spare) / (spare + 1) :=
    Nat.div_le_div_right (by omega)
  rwa [Nat.add_div_right j (Nat.succ_pos spare), ← length_split] at hpages

theorem getElem?_split (spare : Nat) (items : List α) (j : Nat) :
    ((split spare items)[j / (spare + 1)]?.bind fun page => page[j % (spare + 1)]?) = items[j]? := by
  have hplace : j % (spare + 1) < spare + 1 := Nat.mod_lt j (Nat.succ_pos spare)
  have hj : j / (spare + 1) * (spare + 1) + j % (spare + 1) = j := Nat.div_add_mod' j (spare + 1)
  by_cases hpage : j / (spare + 1) < (split spare items).length
  · rw [List.getElem?_eq_getElem hpage, Option.bind_some, getElem_split hpage, List.getElem?_take_of_lt hplace,
      List.getElem?_drop, hj]
  · have hbeyond : items.length ≤ j := Nat.le_of_not_lt fun hlt => hpage (div_lt_length_split hlt)
    rw [List.getElem?_eq_none (Nat.le_of_not_lt hpage), List.getElem?_eq_none hbeyond, Option.bind_none]

/-! ## Plans -/

theorem planFor_of_pos (items : List α) {size : Nat} (hsize : 0 < size) :
    planFor items (.int size) = .ok (split (size - 1) items) := by
  have hspare : (size : Int) = (size - 1 : Nat) + 1 := by omega
  exact plan_eq_ok_iff.2 ⟨size - 1, hspare, rfl⟩

theorem planFor_of_not_pos (items : List α) {n : Int} (hn : n ≤ 0) :
    planFor items (.int n) = .error (.notPositive n) :=
  if_neg (Int.not_lt.2 hn)

theorem planFor_of_not_int (items : List α) {v : Value} (hv : ∀ n, v ≠ .int n) :
    planFor items v = .error (.notWhole v.kindName) := by
  cases v with
  | int n => exact absurd rfl (hv n)
  | _ => rfl

/-- **A plan is the one way to fill its pages.** For a positive whole number of items per page there is one, with item
`j` on page `j / size` at place `j % size`, and no page for no items. Any other value is refused, whatever the items. -/
theorem planFor_fills (items : List α) :
    (∀ size : Nat, 0 < size → ∃ pages, planFor items (.int size) = .ok pages ∧
      (∀ pages', Fills size items pages' ↔ pages' = pages) ∧
      pages.length = items.length ⌈/⌉ size ∧
      (pages = [] ↔ items = []) ∧
      ∀ j item, items[j]? = some item ↔ ∃ page, pages[j / size]? = some page ∧ page[j % size]? = some item) ∧
    (∀ n : Int, n ≤ 0 → planFor items (.int n) = .error (.notPositive n)) ∧
    ∀ v : Value, (∀ n, v ≠ .int n) → planFor items v = .error (.notWhole v.kindName) := by
  refine ⟨fun size hsize => ?_, fun _ => planFor_of_not_pos items, fun _ => planFor_of_not_int items⟩
  obtain ⟨spare, rfl⟩ : ∃ spare, size = spare + 1 := ⟨size - 1, by omega⟩
  refine ⟨split spare items, planFor_of_pos items hsize, fun _ => fills_iff, length_split, split_eq_nil_iff,
    fun j item => ?_⟩
  rw [← getElem?_split spare, Option.bind_eq_some_iff]

/-- Five items with two to a page, and two values that are no number of items. -/
theorem planFor_fills_five :
    (0 < 2 ∧ planFor [1, 2, 3, 4, 5] (.int 2) = .ok [[1, 2], [3, 4], [5]]) ∧
    ((-1 : Int) ≤ 0 ∧ planFor [1, 2, 3, 4, 5] (.int (-1)) = .error (.notPositive (-1))) ∧
    ((∀ n, Value.bool true ≠ .int n) ∧ planFor ([] : List Nat) (.bool true) = .error (.notWhole "bool")) := by
  obtain ⟨hplans, hnotPositive, -⟩ := planFor_fills [1, 2, 3, 4, 5]
  have hfills : Fills 2 [1, 2, 3, 4, 5] [[1, 2], [3, 4], [5]] :=
    ⟨by decide, by decide, by decide, fun page hlast => by cases hlast; decide⟩
  have hbool : ∀ n, Value.bool true ≠ .int n := fun _ => nofun
  obtain ⟨pages, hplan, hpages, -⟩ := hplans 2 (by decide)
  refine ⟨⟨by decide, ?_⟩, ⟨by decide, hnotPositive (-1) (by decide)⟩, hbool, (planFor_fills []).2.2 _ hbool⟩
  rw [(hpages _).1 hfills]
  exact hplan

end LabelPress.Page
