import LabelPress.Proofs.Value.Mapping
import LabelPress.Record

/-!
# Rows and records

A row is a record if it gives a payload, and its name and id are what it gives for them, or empty
(`Record.ofValue_eq_ok_iff`). What a row gives is said of its entries, so their order counts for nothing, and neither do
entries under other keys.
-/

namespace LabelPress

/-- Whether a mapping gives a value under a text key: null counts as nothing. -/
def Mapping.Gives (row : Mapping) (key : String) (v : Value) : Prop :=
  (.text key, v) ∈ row ∧ v ≠ .null

/-- Whether a value has every text key once, if it is a mapping. -/
def Value.HasTextsOnce (v : Value) : Prop :=
  ∀ row : Mapping, v = .map row → row.TextsOnce

namespace Record
variable {row : Mapping} {key text : String} {v : Value} {record : Record}

/-- Whether a text is that of the value which a row gives under a key, or empty if there is none. -/
def IsField (row : Mapping) (key text : String) : Prop :=
  (∃ v, row.Gives key v ∧ text = v.content) ∨ ((∀ v, ¬ row.Gives key v) ∧ text = "")

/-- Whether a text is that of the value which a row gives under the first of its payload keys. -/
def IsPayload (row : Mapping) (text : String) : Prop :=
  ∃ before key after v, ["qr_payload", "qrPayload", "qr"] = before ++ key :: after ∧ row.Gives key v ∧
    (∀ earlier ∈ before, ∀ w, ¬ row.Gives earlier w) ∧ text = v.content

/-- Whether a row is a mapping that gives a payload. -/
def HasPayload (v : Value) : Prop :=
  ∃ (row : Mapping) (key : String) (w : Value), v = .map row ∧ key ∈ ["qr_payload", "qrPayload", "qr"] ∧ row.Gives key w

/-- Whether a record is what a row says. -/
def IsRecordOf (v : Value) (record : Record) : Prop :=
  ∃ row, v = .map row ∧ IsPayload row record.payload ∧ IsField row "name" record.name ∧ IsField row "id" record.id

section
variable (honce : row.TextsOnce)
include honce

theorem given?_eq_some_iff : given? row key = some v ↔ row.Gives key v := by
  rw [given?, Option.filter_eq_some_iff, Mapping.get?_eq_some_iff honce]
  refine and_congr_right fun _ => ?_
  cases v <;> simp [Value.isNull]

theorem given?_eq_none_iff : given? row key = none ↔ ∀ v, ¬ row.Gives key v := by
  rw [Option.eq_none_iff_forall_ne_some]
  exact forall_congr' fun v => not_congr (given?_eq_some_iff honce)

theorem field_eq_iff : field row key = text ↔ IsField row key text := by
  unfold field IsField
  cases hgiven : given? row key with
  | none =>
    rw [given?_eq_none_iff honce] at hgiven
    refine ⟨fun h => .inr ⟨hgiven, h.symm⟩, ?_⟩
    rintro (⟨v, hv, -⟩ | ⟨-, rfl⟩)
    · exact absurd hv (hgiven v)
    · rfl
  | some w =>
    have hgives := (given?_eq_some_iff honce).1 hgiven
    refine ⟨fun h => .inl ⟨w, hgives, h.symm⟩, ?_⟩
    rintro (⟨v, hv, rfl⟩ | ⟨hnone, -⟩)
    · rw [(given?_eq_some_iff honce).2 hv] at hgiven
      obtain rfl := Option.some.inj hgiven
      rfl
    · exact absurd hgives (hnone w)

theorem isPayload_iff :
    IsPayload row text ↔ ∃ v, payloadKeys.findSome? (given? row) = some v ∧ text = v.content := by
  simp only [List.findSome?_eq_some_iff, given?_eq_some_iff honce, given?_eq_none_iff honce, payloadKeys]
  constructor
  · rintro ⟨before, key, after, v, hkeys, hgives, hearlier, rfl⟩
    exact ⟨v, ⟨before, key, after, hkeys, hgives, hearlier⟩, rfl⟩
  · rintro ⟨v, ⟨before, key, after, hkeys, hgives, hearlier⟩, rfl⟩
    exact ⟨before, key, after, v, hkeys, hgives, hearlier, rfl⟩

end

/-- **A row is read as the record that it says.** -/
theorem ofValue_eq_ok_iff (honce : v.HasTextsOnce) : ofValue v = .ok record ↔ IsRecordOf v record := by
  obtain ⟨payload, name, id⟩ := record
  cases v with
  | map row =>
    have honce := honce row rfl
    have hrow : IsRecordOf (.map row) ⟨payload, name, id⟩ ↔
        IsPayload row payload ∧ IsField row "name" name ∧ IsField row "id" id := by
      refine ⟨?_, fun h => ⟨row, rfl, h⟩⟩
      rintro ⟨_, hsame, h⟩
      obtain rfl := Value.map.inj hsame
      exact h
    rw [hrow, isPayload_iff honce, ← field_eq_iff honce, ← field_eq_iff honce, ofValue]
    cases payloadKeys.findSome? (given? row) with
    | none => simp
    | some v => simp [eq_comm]
  | _ =>
    refine iff_of_false (fun h => nomatch h) ?_
    rintro ⟨row, hrow, -⟩
    cases hrow

/-- **A row is read as a record if it has a payload**, and only then. -/
theorem exists_ofValue_iff (honce : v.HasTextsOnce) : (∃ record, ofValue v = .ok record) ↔ HasPayload v := by
  cases v with
  | map row =>
    have honce := honce row rfl
    have hrow : HasPayload (.map row) ↔ ∃ key ∈ payloadKeys, ∃ w, given? row key = some w := by
      simp only [given?_eq_some_iff honce, HasPayload]
      constructor
      · rintro ⟨_, key, w, hsame, hkey, hgives⟩
        obtain rfl := Value.map.inj hsame
        exact ⟨key, hkey, w, hgives⟩
      · rintro ⟨key, hkey, w, hgives⟩
        exact ⟨row, key, w, rfl, hkey, hgives⟩
    rw [hrow, ofValue]
    simp only [← Option.isSome_iff_exists, ← List.findSome?_isSome_iff]
    cases payloadKeys.findSome? (given? row) with
    | none => simp
    | some v => simp
  | _ =>
    refine iff_of_false (fun ⟨_, h⟩ => nomatch h) ?_
    rintro ⟨_, _, _, hrow, -⟩
    cases hrow

end Record
end LabelPress
