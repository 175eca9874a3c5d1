import LabelPress.Json.Value
import LabelPress.Proofs.Json.Numerals
import LabelPress.Proofs.Value.Mapping

/-!
# Plain values in JSON

JSON has a form of its own for plain values: nothing, truth values, whole numbers and texts, and lists and mappings of
these. Such a value is the same once it has been a JSON value (`Value.IsPlain.toValue_ofValue`), and what is written of
it is read back, unless a whole number in it has too many digits to be written (`Value.IsPlain.isReadBack`).
-/

namespace LabelPress

/-! ## Mappings of texts -/

namespace Mapping
variable {m : Mapping} {fields : List (String × Value)} {key : String} {v : Value}

/-- The mapping that has fields for its entries. -/
def ofFields (fields : List (String × Value)) : Mapping :=
  fields.map fun field => (.text field.1, field.2)

theorem insert_of_not_mem (h : ∀ entry ∈ m, entry.1 ≠ .text key) : m.insert (.text key) v = m ++ [(.text key, v)] := by
  induction m with
  | nil => rfl
  | cons entry m ih =>
    obtain ⟨hentry, hm⟩ := List.forall_mem_cons.1 h
    rw [insert, if_neg fun hsame => hentry (Value.sameKey_text.1 hsame), ih hm]
    rfl

/-- Fields with a key each are the entries of the mapping that they build. -/
theorem ofEntries_ofFields (h : (fields.map Prod.fst).Nodup) : ofEntries (ofFields fields) = ofFields fields := by
  -- The mapping that has been built so far has none of the keys that are still to come.
  have hfold : ∀ m : Mapping, (∀ field ∈ fields, ∀ entry ∈ m, entry.1 ≠ .text field.1) →
      (ofFields fields).foldl (fun m entry => m.insert entry.1 entry.2) m = m ++ ofFields fields := by
    induction fields with
    | nil => exact fun m _ => (List.append_nil m).symm
    | cons field fields ih =>
      intro m hfree
      obtain ⟨hfield, hrest⟩ := List.forall_mem_cons.1 hfree
      obtain ⟨hnew, hdistinct⟩ := List.nodup_cons.1 h
      change (ofFields fields).foldl _ (m.insert (.text field.1) field.2) = _
      rw [insert_of_not_mem hfield, ih hdistinct, List.append_assoc]
      · rfl
      · intro other hother entry hentry
        rcases List.mem_append.1 hentry with hold | hlast
        · exact hrest other hother entry hold
        · rw [List.mem_singleton.1 hlast]
          intro hsame
          exact hnew (Value.text.inj hsame ▸ List.mem_map_of_mem hother)
  exact hfold [] fun _ _ _ hentry => absurd hentry List.not_mem_nil

end Mapping

/-- A plain value; a plain mapping has texts as its keys, and each of them once. -/
inductive Value.IsPlain : Value → Prop
  | null : IsPlain .null
  | bool (b : Bool) : IsPlain (.bool b)
  | int (n : Int) : IsPlain (.int n)
  | text (s : String) : IsPlain (.text s)
  | list {items : List Value} (h : ∀ v ∈ items, IsPlain v) : IsPlain (.list items)
  | map {fields : List (String × Value)} (hkeys : (fields.map Prod.fst).Nodup)
    (h : ∀ field ∈ fields, IsPlain field.2) : IsPlain (.map (Mapping.ofFields fields))

namespace Json

/-! ## There and back -/

theorem ofItems_eq_map (items : List Value) : ofItems items = items.map ofValue := by
  induction items with
  | nil => rfl
  | cons v items ih => rw [ofItems, ih, List.map_cons]

theorem ofEntries_ofFields (fields : List (String × Value)) :
    ofEntries (Mapping.ofFields fields) = keyedByParts (fields.map fun field => (field.1, ofValue field.2)) := by
  induction fields with
  | nil => rfl
  | cons field fields ih =>
    change (keyParts (.text field.1), ofValue field.2) :: ofEntries (Mapping.ofFields fields) = _
    rw [ih]
    rfl

theorem itemValues_eq_map (items : List Json) : itemValues items = items.map toValue := by
  induction items with
  | nil => rfl
  | cons v items ih => rw [itemValues, ih, List.map_cons]

theorem memberValues_eq_map (members : List (String × Json)) :
    memberValues members = members.map fun member => (.text member.1, member.2.toValue) := by
  induction members with
  | nil => rfl
  | cons member members ih => rw [memberValues, ih, List.map_cons]

/-- Objects whose members are plain values under a key each are mappings of these. -/
theorem toValue_object {fields : List (String × Value)} (hkeys : (fields.map Prod.fst).Nodup)
    (h : ∀ field ∈ fields, (ofValue field.2).toValue = field.2) :
    toValue (.object (fields.map fun field => (field.1, ofValue field.2))) = .map (Mapping.ofFields fields) := by
  have hvalues : memberValues (fields.map fun field => (field.1, ofValue field.2)) = Mapping.ofFields fields := by
    rw [memberValues_eq_map, List.map_map]
    exact List.map_congr_left fun field hmem => congrArg (Value.text field.1, ·) (h field hmem)
  rw [toValue, hvalues, Mapping.ofEntries_ofFields hkeys]

theorem canWriteItems_iff {items : List Value} : canWriteItems items = true ↔ ∀ v ∈ items, canWrite v = true := by
  induction items with
  | nil => exact iff_of_true rfl fun _ hv => absurd hv List.not_mem_nil
  | cons v items ih => rw [canWriteItems, Bool.and_eq_true, ih, List.forall_mem_cons]

theorem canWriteEntries_iff {fields : List (String × Value)} :
    canWriteEntries (Mapping.ofFields fields) = true ↔ ∀ field ∈ fields, canWrite field.2 = true := by
  induction fields with
  | nil => exact iff_of_true rfl fun _ hv => absurd hv List.not_mem_nil
  | cons field fields ih =>
    change (takesKey (.text field.1) && canWrite field.2 && canWriteEntries (Mapping.ofFields fields)) = true ↔ _
    rw [Bool.and_eq_true, Bool.and_eq_true, ih, List.forall_mem_cons]
    exact and_congr_left' (and_iff_right rfl)

end Json

namespace Value.IsPlain
variable {v : Value}

/-- **A plain value is the same once it has been a JSON value.** -/
theorem toValue_ofValue (h : v.IsPlain) : (Json.ofValue v).toValue = v := by
  induction h with
  | null | bool | int | text => rfl
  | @list items _ ih =>
    rw [Json.ofValue, Json.toValue, Json.ofItems_eq_map, Json.itemValues_eq_map, List.map_map]
    exact congrArg Value.list ((List.map_congr_left ih).trans (List.map_id items))
  | map hkeys _ ih =>
    rw [Json.ofValue, Json.ofEntries_ofFields, Json.ofMembers_keyedByParts]
    exact Json.toValue_object hkeys ih

/-- **What is written of a plain value is read back.** -/
theorem isReadBack (h : v.IsPlain) (hwrite : Json.canWrite v = true) : Json.IsReadBack (Json.ofValue v) := by
  induction h with
  | null => exact Json.isReadBack_null
  | bool b => exact Json.isReadBack_bool b
  | int n => exact Json.isReadBack_int hwrite
  | text s => exact Json.isReadBack_text s
  | list _ ih =>
    rw [Json.ofValue, Json.ofItems_eq_map]
    refine Json.isReadBack_array fun item hitem => ?_
    obtain ⟨v, hv, rfl⟩ := List.mem_map.1 hitem
    exact ih v hv (Json.canWriteItems_iff.1 hwrite v hv)
  | map _ _ ih =>
    rw [Json.ofValue, Json.ofEntries_ofFields, Json.ofMembers_keyedByParts]
    refine Json.isReadBack_object fun member hmember => ?_
    obtain ⟨field, hfield, rfl⟩ := List.mem_map.1 hmember
    exact ih field hfield (Json.canWriteEntries_iff.1 hwrite field hfield)

end Value.IsPlain
end LabelPress
