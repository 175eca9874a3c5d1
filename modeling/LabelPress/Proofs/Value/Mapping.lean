import LabelPress.Value.Basic

/-!
# Entries of a mapping

What a mapping has under a text key. Keys of other kinds are never the same as a text
(`Value.sameKey_text`), so putting a value under a text key changes what is under this key and nothing else. A mapping
that is built entry by entry has a text key once (`Mapping.ofEntries_textsOnce`), so what is under it does not depend
on the order of the entries.
-/

namespace LabelPress

theorem Value.sameKey_text {k : Value} {key : String} : k.sameKey (.text key) = true ↔ k = .text key := by
  cases k <;> simp [Value.sameKey, Value.equals, Value.asInt?]

namespace Mapping
variable {m : Mapping} {key other : String} {k v : Value}

@[simp] theorem get?_cons_self (key : String) (v : Value) (m : Mapping) :
    get? ((.text key, v) :: m) key = some v := by
  simp [get?]

theorem get?_cons_of_ne (h : k ≠ .text key) : get? ((k, v) :: m) key = get? m key := by
  unfold get?
  rw [List.find?_cons_of_neg]
  intro hk
  split at hk
  · next s hs => exact h (hs.trans (congrArg Value.text (beq_iff_eq.1 hk)))
  · cases hk

theorem mem_of_get? (h : m.get? key = some v) : (.text key, v) ∈ m := by
  induction m with
  | nil => cases h
  | cons entry m ih =>
    obtain ⟨k, w⟩ := entry
    by_cases hk : k = .text key
    · subst hk
      rw [get?_cons_self] at h
      obtain rfl := Option.some.inj h
      exact List.mem_cons_self
    · rw [get?_cons_of_ne hk] at h
      exact List.mem_cons_of_mem _ (ih h)

theorem exists_get?_of_mem (h : (.text key, v) ∈ m) : ∃ w, m.get? key = some w := by
  refine Option.ne_none_iff_exists'.1 fun hnone => ?_
  unfold get? at hnone
  rw [Option.map_eq_none_iff, List.find?_eq_none] at hnone
  exact hnone _ h (beq_self_eq_true key)

theorem get?_append_of_ne (h : key ≠ other) (m : Mapping) (v : Value) :
    Mapping.get? (m ++ [(.text key, v)]) other = m.get? other := by
  have hnew : Mapping.get? [(.text key, v)] other = none := get?_cons_of_ne fun he => h (Value.text.inj he)
  unfold get? at *
  rw [List.find?_append, Option.map_or, hnew, Option.or_none]

/-! ## Putting a value under a key -/

theorem get?_insert_self (m : Mapping) (key : String) (v : Value) :
    (m.insert (.text key) v).get? key = some v := by
  induction m with
  | nil => exact get?_cons_self key v []
  | cons entry m ih =>
    obtain ⟨k, w⟩ := entry
    unfold insert
    split
    · next h =>
      obtain rfl := Value.sameKey_text.1 h
      exact get?_cons_self key v m
    · next h =>
      rw [get?_cons_of_ne fun hk => h (Value.sameKey_text.2 hk)]
      exact ih

theorem get?_insert_of_ne (m : Mapping) (h : key ≠ other) (v : Value) :
    (m.insert (.text key) v).get? other = m.get? other := by
  have hne : Value.text key ≠ .text other := fun he => h (Value.text.inj he)
  induction m with
  | nil => exact get?_cons_of_ne hne
  | cons entry m ih =>
    obtain ⟨k, w⟩ := entry
    unfold insert
    split
    · next hk =>
      obtain rfl := Value.sameKey_text.1 hk
      rw [get?_cons_of_ne hne, get?_cons_of_ne hne]
    · by_cases hk : k = .text other
      · subst hk
        rw [get?_cons_self, get?_cons_self]
      · rw [get?_cons_of_ne hk, get?_cons_of_ne hk]
        exact ih

theorem mem_insert {entry : Value × Value} (h : entry ∈ m.insert (.text key) v) :
    entry.1 = .text key ∨ entry ∈ m := by
  induction m with
  | nil =>
    obtain rfl := List.mem_singleton.1 h
    exact .inl rfl
  | cons first m ih =>
    obtain ⟨k, w⟩ := first
    unfold insert at h
    split at h
    · next hk =>
      rcases List.mem_cons.1 h with rfl | hmem
      · exact .inl (Value.sameKey_text.1 hk)
      · exact .inr (List.mem_cons_of_mem _ hmem)
    · rcases List.mem_cons.1 h with rfl | hmem
      · exact .inr List.mem_cons_self
      · exact (ih hmem).imp_right (List.mem_cons_of_mem _)

/-! ## Keys that occur once -/

/-- Whether no text is the key of two entries. -/
def TextsOnce (m : Mapping) : Prop :=
  m.Pairwise fun entry entry' => ∀ key, entry.1 = .text key → entry'.1 ≠ .text key

theorem get?_eq_some_iff (h : m.TextsOnce) : m.get? key = some v ↔ (.text key, v) ∈ m := by
  refine ⟨mem_of_get?, fun hmem => ?_⟩
  induction h with
  | nil => cases hmem
  | @cons entry m hentry _ ih =>
    obtain ⟨k, w⟩ := entry
    rcases List.mem_cons.1 hmem with hhead | hmem
    · rw [← hhead, get?_cons_self]
    · rw [get?_cons_of_ne fun hk => hentry _ hmem key hk rfl, ih hmem]

theorem exists_key_of_mem_insert {entry : Value × Value} (h : entry ∈ m.insert k v) :
    entry.1 = k ∨ ∃ old ∈ m, old.1 = entry.1 := by
  induction m with
  | nil => exact .inl (congrArg Prod.fst (List.mem_singleton.1 h))
  | cons first m ih =>
    obtain ⟨k', w⟩ := first
    unfold insert at h
    split at h
    · rcases List.mem_cons.1 h with rfl | hmem
      · exact .inr ⟨_, List.mem_cons_self, rfl⟩
      · exact .inr ⟨entry, List.mem_cons_of_mem _ hmem, rfl⟩
    · rcases List.mem_cons.1 h with rfl | hmem
      · exact .inr ⟨_, List.mem_cons_self, rfl⟩
      · exact (ih hmem).imp_right fun ⟨old, hold, hkey⟩ => ⟨old, List.mem_cons_of_mem _ hold, hkey⟩

theorem TextsOnce.insert (h : m.TextsOnce) (k v : Value) : (m.insert k v).TextsOnce := by
  induction h with
  | nil => exact List.pairwise_singleton _ _
  | @cons entry m hentry hm ih =>
    obtain ⟨k', w⟩ := entry
    unfold Mapping.insert
    split
    · exact .cons hentry hm
    · next hk =>
      refine .cons (fun entry' hmem key hkey hkey' => ?_) ih
      obtain rfl : k' = .text key := hkey
      rcases exists_key_of_mem_insert hmem with hnew | ⟨old, hold, hsame⟩
      · exact hk (by rw [← hnew, hkey']; exact Value.sameKey_text.2 rfl)
      · exact hentry old hold key rfl (hsame.trans hkey')

theorem ofEntries_textsOnce (entries : List (Value × Value)) : (ofEntries entries).TextsOnce := by
  unfold ofEntries
  have hfold : ∀ m : Mapping, m.TextsOnce →
      (entries.foldl (fun m entry => m.insert entry.1 entry.2) m).TextsOnce := by
    induction entries with
    | nil => exact fun _ hm => hm
    | cons entry entries ih => exact fun m hm => ih _ (hm.insert entry.1 entry.2)
  exact hfold [] .nil

end Mapping
end LabelPress
