import LabelPress.Options.Resolution
import LabelPress.Proofs.Options.Canonical
import LabelPress.Proofs.Options.Notation

/-!
# Overrides as fields

Validated overrides can be given as options again, each under the name of its setting and tables as tuples of
positions (`Options.fieldsOf`). Whatever they were read from, they validate to themselves and resolve to the layout
that they have resolved to (`Options.overrides_canonical`).
-/

namespace LabelPress.Options

/-- What a choice is as a value, with the positions of a table as they are. -/
def fieldValue : (s : Setting) → s.Choice → Value
  | .qrPositions, c | .textPositions, c | .idTextPositions, c | .nameTextPositions, c => .tuple (c.map .position)
  | s, c => valueOf s c

/-- The mapping that gives exactly the chosen settings as fields, each under its name. -/
def fieldsOf (o : Overrides) : Mapping :=
  Setting.all.filterMap fun s => (o s).map fun c => (.text s.name, fieldValue s c)

/-- The coordinates of positions as pairs of values. -/
def coordinatePairs (table : List Position) : List (Value × Value) :=
  table.map fun p => (.int p.x, .int p.y)

theorem forall₂_writesPair {write : Position → Value} (h : ∀ p, WritesPair (.int p.x) (.int p.y) (write p))
    (table : List Position) :
    List.Forall₂ (fun ab => WritesPair ab.1 ab.2) (coordinatePairs table) (table.map write) :=
  List.forall₂_map_left_iff.2 (List.forall₂_map_right_iff.2 (List.forall₂_same.2 fun p _ => h p))

/-- A field is the value of its choice, but for the notation of positions. -/
theorem sameButForNotation_fieldValue (s : Setting) (c : s.Choice) :
    SameButForNotation (.text s.name, valueOf s c) (.text s.name, fieldValue s c) := by
  have htable (t : Table) (table : List Position) : SameButForNotation
      (.text t.setting.name, .list (table.map fun p => .map (members (.int p.x) (.int p.y))))
      (.text t.setting.name, .tuple (table.map .position)) :=
    .inr ⟨t, t.setting.name, coordinatePairs table, .inl rfl, rfl, rfl,
      ⟨_, .inl rfl, forall₂_writesPair (fun _ => .members) table⟩,
      ⟨_, .inr rfl, forall₂_writesPair (fun _ => .position rfl rfl) table⟩⟩
  cases s with
  | qrPositions => exact htable .qr c
  | textPositions => exact htable .text c
  | idTextPositions => exact htable .idText c
  | nameTextPositions => exact htable .nameText c
  | _ => exact .inl rfl

theorem validate_fieldsOf_eq (o : Overrides) : validate (fieldsOf o) = validate (mappingOf o) := by
  have hentry : ∀ s t, s = t → Option.Rel SameEntry ((o s).map fun c => (.text s.name, valueOf s c))
      ((o t).map fun c => (.text t.name, fieldValue t c)) := by
    rintro s _ rfl
    cases o s with
    | none => exact .none
    | some c => exact .some (sameButForNotation_fieldValue s c).sameEntry
  exact (validate_congr (List.rel_filterMap hentry (List.forall₂_refl Setting.all))).symm

variable {m : Mapping} {o : Overrides}

theorem validate_fieldsOf (h : validate m = .ok o) : validate (fieldsOf o) = .ok o := by
  rw [validate_fieldsOf_eq]
  exact validate_of_isMappingOf (mappingOf_isMappingOf o) (isStableAt_of_validate h)

/-- **Overrides are canonical.** The fields of what any mapping validates to validate to the same, and resolve as the
mapping does, for every stock. -/
theorem overrides_canonical (h : validate m = .ok o) :
    validate (fieldsOf o) = .ok o ∧ ∀ stock, ∃ l : Layout,
      ((Options.given (.map m)).resolve stock).outcome = .ok l ∧
      (Options.given (.map (fieldsOf o))).resolve stock = (Options.given (.map m)).resolve stock := by
  have hfields := validate_fieldsOf h
  refine ⟨hfields, fun stock => ⟨stock.layout.override o, ?_, ?_⟩⟩
  · exact resolve_eq_ok_iff.2 ⟨o, except_mapError_eq_ok.2 h, rfl⟩
  · rw [Options.resolve, Options.resolve, Options.overrides, Options.overrides, h, hfields]

-- Here each value is of another kind than what is read of it.
theorem overrides_canonical_coerced :
    let m : Mapping := [(.text "widthMm", .text " 5_8 "), (.text "qr_size", .bool true),
      (.text "codepage", .bytes [85, 84, 70]), (.text "idTextPositions", .list [.list [.text "8.0", .bool true]])]
    ∃ o, validate m = .ok o ∧ validate (fieldsOf o) = .ok o ∧
      (o .width, o .qrSize, o .codepage, o .idTextPositions) =
        (some (.real (Binary64.ofInt 58)), some 1, some (.name "UTF"), some [⟨8, 1⟩]) ∧
      ∃ l : Layout, ((Options.given (.map m)).resolve .medium).outcome = .ok l ∧
        (Options.given (.map (fieldsOf o))).resolve .medium = (Options.given (.map m)).resolve .medium := by
  intro m
  have hread : (validate m).toOption.map (fun o => (o .width, o .qrSize, o .codepage, o .idTextPositions)) =
      some (some (.real (Binary64.ofInt 58)), some 1, some (.name "UTF"), some [⟨8, 1⟩]) := by
    decide +kernel
  obtain ⟨o, ho, hchoices⟩ := Option.map_eq_some_iff.1 hread
  have hvalid := except_toOption_eq_some.1 ho
  obtain ⟨hfields, hresolve⟩ := overrides_canonical hvalid
  exact ⟨o, hvalid, hfields, hchoices, hresolve .medium⟩

end LabelPress.Options
