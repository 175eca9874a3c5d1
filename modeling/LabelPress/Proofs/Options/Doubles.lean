import LabelPress.Proofs.Binary64.Canonical
import LabelPress.Proofs.Options.Allowed

/-!
# The doubles of a layout

Values hold any sign, mantissa and exponent, but what a caller gives as a number is a double
(`Options.HoldsDoubles`). Then every number of a layout that options resolve to is one as well
(`resolve_hasDoubles`): it was given as one, or it was rounded when it was read.
-/

namespace LabelPress

/-- A whole number, or a number that is a double. -/
def Number.IsDouble : Number → Prop
  | .whole _ => True
  | .real x => x.IsDouble

/-- A value that is a double if it is given as a binary number. -/
def Value.IsDouble : Value → Prop
  | .float x => x.IsDouble
  | _ => True

/-- A mapping that gives no binary numbers but doubles. -/
def Mapping.HasDoubles (m : Mapping) : Prop :=
  ∀ entry ∈ m, entry.2.IsDouble

/-- Options whose binary numbers are doubles, those included that a validation has been through. -/
def Options.HoldsDoubles : Options → Prop
  | .given (.map m) => Mapping.HasDoubles m
  | .given _ => True
  | .validated o => ∃ m : Mapping, m.HasDoubles ∧ Options.validate m = .ok o

/-- Choices of numbers that are doubles. -/
def Setting.IsDouble : (s : Setting) → s.Choice → Prop
  | .width, n | .height, n | .gap, n | .speed, n => n.IsDouble
  | .textXMul, n | .textYMul, n | .nameTextXMul, n | .nameTextYMul, n => n.IsDouble
  | .density, _ | .ribbonOn, _ | .tearOn, _ | .codepage, _ | .itemsPerPage, _ => True
  | .qrPositions, _ | .textPositions, _ | .idTextPositions, _ | .nameTextPositions, _ => True
  | .qrModel, _ | .qrSize, _ | .qrRotation, _ | .qrMask, _ | .qrErrorLevel, _ => True
  | .textFont, _ | .textRotation, _ | .nameTextFont, _ | .nameTextRotation, _ | .includeIdText, _ => True

def Layout.HasDoubles (l : Layout) : Prop :=
  ∀ s : Setting, s.IsDouble (l s)

namespace Options

theorem double_isDouble {v : Value} (hv : v.IsDouble) {x : Binary64} (h : double v = .ok x) : x.IsDouble := by
  have ofText : ∀ {s : String}, doubleOfText s = .ok x → x.IsDouble := by
    intro s hs
    unfold doubleOfText at hs
    split at hs
    · next hread =>
      obtain rfl := Except.ok.inj hs
      obtain ⟨_, -, hdecimal⟩ := Option.bind_eq_some_iff.1 hread
      exact Binary64.readDecimal?_isDouble hdecimal
    · cases hs
  unfold double at h
  split at h
  · dsimp only at h
    split at h
    · obtain rfl := Except.ok.inj h
      exact Binary64.ofInt_isDouble _
    · cases h
  · obtain rfl := Except.ok.inj h
    exact Binary64.ofInt_isDouble _
  · obtain rfl := Except.ok.inj h
    exact hv
  · exact ofText h
  · cases h
  · split at h
    · exact ofText h
    · cases h
  · cases h

theorem check_isDouble {s : Setting} {key : String} {v : Value} (hv : v.IsDouble) {c : s.Choice}
    (h : check s key v = .ok c) : s.IsDouble c := by
  cases s with
  | width | height | speed | textXMul | textYMul | nameTextXMul | nameTextYMul =>
    obtain ⟨x, hx, -, rfl⟩ := positive_eq_ok_iff.1 (atKey_eq_ok.1 h)
    exact double_isDouble hv hx
  | gap =>
    obtain ⟨x, hx, -, rfl⟩ := nonnegative_eq_ok_iff.1 (atKey_eq_ok.1 h)
    exact double_isDouble hv hx
  | _ => trivial

theorem validate_isDouble {m : Mapping} (hm : m.HasDoubles) {o : Overrides} (h : validate m = .ok o)
    {s : Setting} {c : s.Choice} (hc : o s = some c) : s.IsDouble c := by
  obtain ⟨key, v, ⟨-, hget, -⟩, hcheck⟩ := (chosen_iff h).1 hc
  exact check_isDouble (hm _ (Mapping.mem_of_get? hget)) hcheck

end Options

theorem stock_hasDoubles (stock : Stock) : stock.layout.HasDoubles := by
  intro s
  cases stock <;> cases s <;> trivial

/-- **The numbers of a layout are doubles.** -/
theorem resolve_hasDoubles {stock : Stock} {options : Options} (hd : options.HoldsDoubles) {l : Layout}
    (h : (options.resolve stock).outcome = .ok l) : l.HasDoubles := by
  obtain ⟨o, ho, rfl⟩ := Options.resolve_eq_ok_iff.1 h
  have hoverrides : ∀ (s : Setting) (c : s.Choice), o s = some c → s.IsDouble c := by
    intro s c hc
    unfold Options.overrides at ho
    split at ho
    · obtain rfl := Except.ok.inj ho
      obtain ⟨m, hm, hvalid⟩ := hd
      exact Options.validate_isDouble hm hvalid hc
    · obtain rfl := Except.ok.inj ho
      cases hc
    · exact Options.validate_isDouble hd (except_mapError_eq_ok.1 ho) hc
    · cases ho
  intro s
  cases hc : o s with
  | none =>
    rw [Layout.override_of_none hc]
    exact stock_hasDoubles stock s
  | some c =>
    rw [Layout.override_of_some hc]
    exact hoverrides s c hc

end LabelPress
