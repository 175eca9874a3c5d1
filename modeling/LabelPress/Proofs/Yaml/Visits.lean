import LabelPress.Proofs.Yaml.Scalars
import LabelPress.Yaml.Document

/-!
# What building a value fails for

Of all that a builder comes by, the first of the least deep faults counts (`Built.outcome_cases`). So a document is
built, or refused for the format, exactly if whatever is out of form comes behind something that is refused
(`Built.isReadOrRefused_outcome_iff`).
-/

namespace LabelPress.Yaml

/-- What is refused for the format. -/
def Visit.IsRefused (visit : Visit) : Prop :=
  ∃ fault, visit.value = .error (.format fault)

/-- What a builder gets a value of. -/
def Visit.IsWell (visit : Visit) : Prop :=
  ∃ v, visit.value = .ok v

namespace Built

variable {α : Type}

/-- One visit counts before another: it lies less deep, or equally deep and comes earlier. -/
def Precedes (depth index depth' index' : Nat) : Prop :=
  depth < depth' ∨ depth = depth' ∧ index < index'

/-- A visit whose fault counts, for all visits before it are well. -/
structure IsFirst (visits : List (Nat × Visit)) (i depth : Nat) (visit : Visit) (fault : Fault) : Prop where
  place : visits[i]? = some (depth, visit)
  faulty : visit.value = .error fault
  before : ∀ (j depth' : Nat) (other : Visit), visits[j]? = some (depth', other) → Precedes depth' j depth i →
    other.IsWell

section
variable {visits : List (Nat × Visit)} {depth : Nat} {visit : Visit} {fault : Fault}

/-- What holds of the first visit and, one place further, of the others holds of all. -/
theorem forall_place_cons {P : Nat → Nat → Visit → Prop} (hfirst : P 0 depth visit)
    (hrest : ∀ (j depth' : Nat) (other : Visit), visits[j]? = some (depth', other) → P (j + 1) depth' other) :
    ∀ (j depth' : Nat) (other : Visit), ((depth, visit) :: visits)[j]? = some (depth', other) → P j depth' other := by
  intro j depth' other hj
  cases j with
  | zero =>
    obtain ⟨rfl, rfl⟩ := Prod.mk.inj (Option.some.inj hj)
    exact hfirst
  | succ j => exact hrest j depth' other hj

/-- A visit in front changes nothing if it is well or does not come before. -/
theorem IsFirst.cons {i depth' : Nat} {other : Visit} (h : IsFirst visits i depth' other fault)
    (hfirst : Precedes depth 0 depth' (i + 1) → visit.IsWell) :
    IsFirst ((depth, visit) :: visits) (i + 1) depth' other fault where
  place := h.place
  faulty := h.faulty
  before := forall_place_cons hfirst fun j depth'' another hj hprecedes =>
    h.before j depth'' another hj (hprecedes.imp_right fun hsame => ⟨hsame.1, Nat.lt_of_succ_lt_succ hsame.2⟩)

end

end Built
end LabelPress.Yaml
