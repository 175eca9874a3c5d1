import LabelPress.Proofs.Json.PlainValues
import LabelPress.Proofs.Outcome
import LabelPress.Proofs.Record
import LabelPress.Sources
import Mathlib.Data.List.Forall2

/-!
# Records of a file

A file is read row by row up to the first that is no record (`recordsOf_cases`), so its records are those of all its
rows in order, or there are none and the first bad row is named (`readRecords_allOrNone`).
-/

namespace LabelPress

theorem Json.toValue_hasTextsOnce (v : Json) : v.toValue.HasTextsOnce := by
  intro row hrow
  cases v with
  | object members | brokenObject members =>
    obtain rfl := Value.map.inj hrow
    exact Mapping.ofEntries_textsOnce _
  | _ => cases hrow

namespace Sources
variable {files : Files} {path : Path} {rows : List Value} {records : List Record}

/-- Whether a file holds rows: those of a table without cells that are too long, or the items of a JSON list. -/
inductive HoldsRows (files : Files) (path : Path) : List Value → Prop
  | table {text : String} {maps : List Mapping} (hname : isTable path = true)
    (hread : files.read path = .ok text.toUTF8) (hrows : Csv.records? text = some maps) :
    HoldsRows files path (maps.map .map)
  | list {text : String} {items : List Json} (hname : isTable path = false)
    (hread : files.read path = .ok text.toUTF8) (hlist : Json.read (withUnifiedNewlines text) = .ok (.array items)) :
    HoldsRows files path (Json.itemValues items)

theorem tableRows_of_text {text : String} (hread : files.read path = .ok text.toUTF8) :
    tableRows files path = match Csv.records? text with
      | none => .error .cellTooLong
      | some maps => .ok (maps.map .map) := by
  have hstream : Utf8.stream Utf8.evenBlocks text.toUTF8 = ⟨text.toList, none⟩ := Utf8.stream_toUTF8 ..
  have htext : lineText ⟨text.toList, none⟩ = text := String.ofList_toList
  rw [tableRows, hread]
  dsimp only [Except.mapError, bind, Except.bind]
  rw [hstream, htext]
  cases Csv.records? text <;> rfl

theorem jsonRows_of_text {text : String} (hread : files.read path = .ok text.toUTF8) :
    jsonRows files path = (Json.read (withUnifiedNewlines text)).mapError .json >>= fun
      | .array items => .ok (Json.itemValues items)
      | _ => .error (.notList path) := by
  rw [jsonRows, hread]
  change (Utf8.decode text.toUTF8).mapError SourceError.undecodable >>= _ = _
  rw [Utf8.decode_toUTF8]
  rfl

theorem readRecords_of_holdsRows (h : HoldsRows files path rows) :
    readRecords files path = recordsOf codePointEscape path 0 rows := by
  unfold readRecords
  cases h with
  | table hname hread hrows =>
    rw [hname, if_pos rfl, tableRows_of_text hread, hrows]
    rfl
  | list hname hread hlist =>
    rw [hname, if_neg Bool.false_ne_true, jsonRows_of_text hread, hlist]
    rfl

theorem hasTextsOnce_of_holdsRows (h : HoldsRows files path rows) : ∀ row ∈ rows, row.HasTextsOnce := by
  cases h with
  | table _ _ hrows =>
    unfold Csv.records? at hrows
    dsimp only at hrows
    split at hrows
    · cases hrows
    split at hrows
    · obtain rfl := Option.some.inj hrows
      exact fun _ hrow => nomatch hrow
    · obtain rfl := Option.some.inj hrows
      intro row hrow m hm
      rw [List.map_map] at hrow
      obtain ⟨cells, -, rfl⟩ := List.mem_map.1 hrow
      obtain rfl := Value.map.inj hm
      exact Mapping.ofEntries_textsOnce _
  | list =>
    intro row hrow
    rw [Json.itemValues_eq_map] at hrow
    obtain ⟨v, -, rfl⟩ := List.mem_map.1 hrow
    exact Json.toValue_hasTextsOnce v

/-- **Either all rows are read or the first bad one is named**, whatever the file is called. -/
theorem recordsOf_cases (half : Nat → String) (rows : List Value) :
    (∃ records, rows.map (Record.ofValue · half) = records.map .ok ∧
      ∀ path index, recordsOf half path index rows = .ok records) ∨
    ∃ before row after fault, rows = before ++ row :: after ∧
      (∀ earlier ∈ before, ∃ record, Record.ofValue earlier half = .ok record) ∧
      Record.ofValue row half = .error fault ∧
      ∀ path index, recordsOf half path index rows = .error (.record path (index + before.length) fault) := by
  induction rows with
  | nil => exact .inl ⟨[], rfl, fun _ _ => rfl⟩
  | cons row rows ih =>
    cases hrow : Record.ofValue row half with
    | error fault =>
      refine .inr ⟨[], row, rows, fault, rfl, fun _ he => absurd he List.not_mem_nil, hrow, fun path index => ?_⟩
      rw [recordsOf, hrow]
      rfl
    | ok record =>
      have hstep : ∀ path index, recordsOf half path index (row :: rows) =
          (recordsOf half path (index + 1) rows).map (record :: ·) := by
        intro path index
        rw [recordsOf, hrow]
        cases recordsOf half path (index + 1) rows <;> rfl
      rcases ih with ⟨records, hrecords, hread⟩ | ⟨before, bad, after, fault, rfl, hbefore, hbad, hread⟩
      · refine .inl ⟨record :: records, ?_, fun path index => ?_⟩
        · rw [List.map_cons, List.map_cons, hrow, hrecords]
        · rw [hstep, hread]
          rfl
      · refine .inr ⟨row :: before, bad, after, fault, rfl,
          List.forall_mem_cons.2 ⟨⟨record, hrow⟩, hbefore⟩, hbad, fun path index => ?_⟩
        rw [hstep, hread, List.length_cons, Nat.add_right_comm, Nat.add_assoc]
        rfl

theorem map_ofValue_eq_iff (honce : ∀ row ∈ rows, row.HasTextsOnce) :
    rows.map Record.ofValue = records.map .ok ↔ List.Forall₂ Record.IsRecordOf rows records := by
  induction rows generalizing records with
  | nil => cases records <;> simp
  | cons row rows ih =>
    obtain ⟨hrow, hrows⟩ := List.forall_mem_cons.1 honce
    cases records with
    | nil => simp
    | cons record records =>
      rw [List.map_cons, List.map_cons, List.cons_eq_cons, List.forall₂_cons, ih hrows,
        Record.ofValue_eq_ok_iff hrow]

theorem map_ok_inj {records others : List Record} :
    records.map (Except.ok (ε := RecordFault)) = others.map .ok ↔ records = others :=
  (List.map_injective_iff.2 fun _ _ h => Except.ok.inj h).eq_iff

theorem hasPayload_of_map_ofValue (honce : ∀ row ∈ rows, row.HasTextsOnce)
    (h : rows.map Record.ofValue = records.map .ok) : ∀ row ∈ rows, Record.HasPayload row := by
  intro row hrow
  have hmem : Record.ofValue row ∈ records.map .ok := h ▸ List.mem_map_of_mem hrow
  obtain ⟨record, -, hrecord⟩ := List.mem_map.1 hmem
  exact (Record.exists_ofValue_iff (honce row hrow)).1 ⟨record, hrecord.symm⟩

section
variable {row : Value} {fault : RecordFault} (h : Record.ofValue row = .error fault)
include h

theorem not_hasPayload_of_error (honce : row.HasTextsOnce) : ¬ Record.HasPayload row := by
  rw [← Record.exists_ofValue_iff honce, h]
  exact fun ⟨_, hok⟩ => nomatch hok

theorem map_ofValue_ne_of_error (hrow : row ∈ rows) : rows.map Record.ofValue ≠ records.map .ok := by
  intro hrecords
  have hmem : Record.ofValue row ∈ records.map .ok := hrecords ▸ List.mem_map_of_mem hrow
  obtain ⟨_, -, hok⟩ := List.mem_map.1 hmem
  rw [h] at hok
  cases hok

end

/-- **Records are read all or none, in order.** -/
theorem readRecords_allOrNone (files : Files) (path : Path) :
    (∀ rows, HoldsRows files path rows →
      (∀ records, readRecords files path = .ok records ↔ List.Forall₂ Record.IsRecordOf rows records) ∧
      ((∃ records, readRecords files path = .ok records ∧ records.length = rows.length) ↔
        ∀ row ∈ rows, Record.HasPayload row) ∧
      ((∃ row ∈ rows, ¬ Record.HasPayload row) → ∃ i row fault, rows[i]? = some row ∧ ¬ Record.HasPayload row ∧
        (∀ j < i, ∀ earlier, rows[j]? = some earlier → Record.HasPayload earlier) ∧
        readRecords files path = .error (.record path i fault) ∧
        (SourceError.record path i fault).message =
          path.text ++ ": record " ++ numeral i ++ ": " ++ fault.message)) ∧
    ∀ text json, isTable path = false → files.read path = .ok text.toUTF8 →
      Json.read (withUnifiedNewlines text) = .ok json → (∀ items, json ≠ .array items) →
      readRecords files path = .error (.notList path) := by
  constructor
  · intro rows hholds
    have honce := hasTextsOnce_of_holdsRows hholds
    simp only [readRecords_of_holdsRows hholds, ← map_ofValue_eq_iff honce]
    rcases recordsOf_cases codePointEscape rows with
      ⟨records, hrecords, hread⟩ | ⟨before, bad, after, fault, rfl, hbefore, hbad, hread⟩
    · have hall := hasPayload_of_map_ofValue honce hrecords
      have hlength : records.length = rows.length := by
        simpa using congrArg List.length hrecords.symm
      refine ⟨fun others => ?_, iff_of_true ⟨records, hread path 0, hlength⟩ hall, ?_⟩
      · rw [hread, hrecords, map_ok_inj, Except.ok.injEq]
      · rintro ⟨row, hrow, hnone⟩
        exact absurd (hall row hrow) hnone
    · have hmem : bad ∈ before ++ bad :: after := List.mem_append_right before List.mem_cons_self
      have hnone := not_hasPayload_of_error hbad (honce bad hmem)
      have hread := hread path 0
      rw [Nat.zero_add] at hread
      refine ⟨fun others => iff_of_false (by simp [hread]) (map_ofValue_ne_of_error hbad hmem),
        iff_of_false (by simp [hread]) fun hall => hnone (hall bad hmem), fun _ => ?_⟩
      refine ⟨before.length, bad, fault, by simp, hnone, fun j hj earlier hearlier => ?_, hread, rfl⟩
      rw [List.getElem?_append_left hj] at hearlier
      have hearlier := List.mem_of_getElem? hearlier
      exact (Record.exists_ofValue_iff (honce earlier (List.mem_append_left _ hearlier))).1 (hbefore earlier hearlier)
  · intro text json hname hread hjson hlist
    rw [readRecords, hname, if_neg Bool.false_ne_true, jsonRows_of_text hread, hjson]
    cases json with
    | array items => exact absurd rfl (hlist items)
    | _ => rfl

/-- A row whose payload is false. -/
def falseRow : Json := .object [("qr_payload", .null), ("qr", .bool false)]

/-- Such a row, and one that gives null for its only payload key. -/
def stockRows : List Json := [falseRow, .object [("qr", .null)]]

/-- The rows as a list, the first of them as a list, and the first without one. -/
def stockLists : Files := ⟨[
  (["stock.json"], .file (Json.write (.array stockRows)).toUTF8),
  (["first.json"], .file (Json.write (.array [falseRow])).toUTF8),
  (["bare.json"], .file (Json.write falseRow).toUTF8)]⟩

theorem readRecords_allOrNone_second :
    HoldsRows stockLists ⟨"", ["stock.json"]⟩ (Json.itemValues stockRows) ∧
    (∃ row, (Json.itemValues stockRows)[1]? = some row ∧ ¬ Record.HasPayload row) ∧
    readRecords stockLists ⟨"", ["stock.json"]⟩ =
      .error (.record ⟨"", ["stock.json"]⟩ 1 (.noPayload ["qr"])) ∧
    readRecords stockLists ⟨"", ["first.json"]⟩ = .ok [⟨"False", "", ""⟩] ∧
    List.Forall₂ Record.IsRecordOf (Json.itemValues [falseRow]) [⟨"False", "", ""⟩] ∧
    readRecords stockLists ⟨"", ["bare.json"]⟩ = .error (.notList ⟨"", ["bare.json"]⟩) := by
  have hfalse : Json.IsReadBack falseRow :=
    Json.isReadBack_object (by simp [Json.isReadBack_null, Json.isReadBack_bool])
  have hrows : ∀ v ∈ stockRows, Json.IsReadBack v :=
    List.forall_mem_cons.2 ⟨hfalse, List.forall_mem_singleton.2
      (Json.isReadBack_object (by simp [Json.isReadBack_null]))⟩
  have hholds : HoldsRows stockLists ⟨"", ["stock.json"]⟩ (Json.itemValues stockRows) :=
    .list (by decide +kernel) (by decide +kernel) (Json.read_write_unified (Json.isReadBack_array hrows))
  have hfirst : HoldsRows stockLists ⟨"", ["first.json"]⟩ (Json.itemValues [falseRow]) :=
    .list (by decide +kernel) (by decide +kernel)
      (Json.read_write_unified (Json.isReadBack_array (List.forall_mem_singleton.2 hfalse)))
  have hbad : readRecords stockLists ⟨"", ["stock.json"]⟩ =
      .error (.record ⟨"", ["stock.json"]⟩ 1 (.noPayload ["qr"])) := by decide +kernel
  have hgood : readRecords stockLists ⟨"", ["first.json"]⟩ = .ok [⟨"False", "", ""⟩] := by decide +kernel
  obtain ⟨-, hcount, hnamed⟩ := (readRecords_allOrNone stockLists ⟨"", ["stock.json"]⟩).1 _ hholds
  have hnone : ∃ row ∈ Json.itemValues stockRows, ¬ Record.HasPayload row := by
    by_contra hall
    push Not at hall
    obtain ⟨records, hread, -⟩ := hcount.2 hall
    rw [hbad] at hread
    cases hread
  obtain ⟨i, row, fault, hrow, hpayload, -, hread, -⟩ := hnamed hnone
  rw [hbad, Except.error.injEq, SourceError.record.injEq] at hread
  obtain ⟨-, rfl, -⟩ := hread
  refine ⟨hholds, ⟨row, hrow, hpayload⟩, hbad, hgood, ?_, ?_⟩
  · exact ((readRecords_allOrNone stockLists ⟨"", ["first.json"]⟩).1 _ hfirst).1 _ |>.1 hgood
  · exact (readRecords_allOrNone stockLists ⟨"", ["bare.json"]⟩).2 (Json.write falseRow) falseRow (by decide +kernel)
      (by decide +kernel) (Json.read_write_unified hfalse) (by simp [falseRow])

end Sources
end LabelPress
