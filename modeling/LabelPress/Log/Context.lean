import LabelPress.Value.Basic

/-!
# Context

Fields that every line of a log carries. A field keeps its place when its value changes and loses it when
the field is removed.
-/

namespace LabelPress.Log

/-- The fields of a context in order. -/
abbrev Context := List (String × Value)

namespace Context

/-- The value of a field. -/
def get? (c : Context) (key : String) : Option Value :=
  (c.find? fun entry => entry.1 = key).map Prod.snd

/-- Sets one field. -/
def set (c : Context) (key : String) (v : Value) : Context :=
  match c with
  | [] => [(key, v)]
  | (k, w) :: rest => if k = key then (k, v) :: rest else (k, w) :: set rest key v

/-- Sets some fields, one after the other. -/
def push (c : Context) (fields : List (String × Value)) : Context :=
  fields.foldl (fun c field => set c field.1 field.2) c

/-- Removes the fields with some keys; those that are not there do not matter. -/
def pop (c : Context) (keys : List String) : Context :=
  c.filter fun entry => !keys.contains entry.1

/-- Setting a field does not touch another. -/
theorem get?_set_of_ne (c : Context) {key other : String} (v : Value) (h : other ≠ key) :
    (c.set key v).get? other = c.get? other := by
  have hne : key ≠ other := fun he => h he.symm
  induction c with
  | nil => simp [set, get?, hne]
  | cons entry rest ih =>
    obtain ⟨k, w⟩ := entry
    by_cases hk : k = key
    · subst hk
      simp [set, get?, hne]
    · by_cases ho : k = other
      · subst ho
        simp [set, get?, h]
      · simpa [set, get?, hk, ho] using ih

/-- A field has the value it was set to. -/
@[simp] theorem get?_set_self (c : Context) (key : String) (v : Value) :
    (c.set key v).get? key = some v := by
  induction c with
  | nil => simp [set, get?]
  | cons entry rest ih =>
    obtain ⟨k, w⟩ := entry
    by_cases hk : k = key
    · simp [set, get?, hk]
    · simpa [set, get?, hk] using ih

end Context
end LabelPress.Log
