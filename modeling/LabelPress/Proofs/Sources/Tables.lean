import LabelPress.Proofs.Csv
import LabelPress.Proofs.Json.Document
import LabelPress.Proofs.Sources.Records

/-!
# Tables and lists of objects

A quoted table and a JSON list with an object of texts for each of its rows hold the same rows
(`holdsRows_tableText`, `holdsRows_objectsOf`). So both are read as the same records, or neither is for the same row
and the same fault (`quotedTable_agrees`).
-/

namespace LabelPress

namespace Json

/-- The objects that rows of cells are, with a text under each column. -/
def objectsOf (columns : List String) (rows : List (List String)) : Json :=
  .array (rows.map fun cells => .object (columns.zip (cells.map .text)))

theorem toValue_rowObject (columns cells : List String) : toValue (.object (columns.zip (cells.map .text))) =
    .map (Mapping.ofEntries ((columns.map Value.text).zip (cells.map Value.text))) := by
  rw [toValue, memberValues_eq_map, List.zip_map, List.zip_map_right, List.map_map]
  rfl

theorem isReadBack_objectsOf (columns : List String) (rows : List (List String)) :
    IsReadBack (objectsOf columns rows) := by
  refine isReadBack_array fun v hv => ?_
  obtain ⟨cells, -, rfl⟩ := List.mem_map.1 hv
  refine isReadBack_object fun member hmember => ?_
  obtain ⟨cell, -, hcell⟩ := List.mem_map.1 (List.of_mem_zip hmember).2
  exact hcell ▸ isReadBack_text cell

end Json

namespace Sources
variable {files : Files} {path : Path} {columns : List String} {table : List (List String × LineEnd)} {e : LineEnd}

/-- The mappings that rows of cells are. -/
def rowsOf (columns : List String) (rows : List (List String)) : List Value :=
  rows.map fun cells => .map (Mapping.ofEntries ((columns.map Value.text).zip (cells.map Value.text)))

theorem holdsRows_tableText (hname : isTable path = true) (hcolumns : columns ≠ [])
    (hwidth : ∀ row ∈ table, row.1.length = columns.length)
    (hlimit : ∀ row ∈ (columns, e) :: table, ∀ cell ∈ row.1, cell.length ≤ Csv.cellLimit)
    (hread : files.read path = .ok (Csv.tableText ((columns, e) :: table)).toUTF8) :
    HoldsRows files path (rowsOf columns (table.map Prod.fst)) := by
  have hholds := HoldsRows.table hname hread (Csv.records?_tableText hcolumns hwidth hlimit)
  rw [List.map_map] at hholds
  rw [rowsOf, List.map_map]
  exact hholds

theorem holdsRows_objectsOf {rows : List (List String)} {text : String} (hname : isTable path = false)
    (hread : files.read path = .ok text.toUTF8)
    (htext : Json.read (withUnifiedNewlines text) = .ok (Json.objectsOf columns rows)) :
    HoldsRows files path (rowsOf columns rows) := by
  have hholds := HoldsRows.list hname hread htext
  rw [Json.itemValues_eq_map, List.map_map] at hholds
  have hrows : rowsOf columns rows = rows.map (Json.toValue ∘ fun cells => .object (columns.zip (cells.map .text))) :=
    List.map_congr_left fun cells _ => (Json.toValue_rowObject columns cells).symm
  rw [hrows]
  exact hholds

/-- Files with the same rows are read alike, whatever their names. -/
theorem readRecords_agree {files' : Files} {path' : Path} {rows : List Value} (h : HoldsRows files path rows)
    (h' : HoldsRows files' path' rows) :
    (∃ records, readRecords files path = .ok records ∧ readRecords files' path' = .ok records) ∨
    ∃ i fault, readRecords files path = .error (.record path i fault) ∧
      readRecords files' path' = .error (.record path' i fault) := by
  rw [readRecords_of_holdsRows h, readRecords_of_holdsRows h']
  rcases recordsOf_cases codePointEscape rows with ⟨records, -, hread⟩ | ⟨before, -, -, fault, -, -, -, hread⟩
  · exact .inl ⟨records, hread path 0, hread path' 0⟩
  · exact .inr ⟨0 + before.length, fault, hread path 0, hread path' 0⟩

/-- A bad row is reported with the name of its file in front of words of its own. -/
theorem message_record (path : Path) (i : Nat) (fault : RecordFault) : (SourceError.record path i fault).message =
    path.text ++ (": record " ++ numeral i ++ ": " ++ fault.message) := by
  change path.text ++ ": record " ++ numeral i ++ ": " ++ fault.message = _
  simp only [String.append_assoc]

/-- **A quoted table and a list of objects agree.** The list may be written in any way that reads as it, of which
there always is one. -/
theorem quotedTable_agrees {tablePath listPath : Path} (hcolumns : columns ≠ [])
    (hwidth : ∀ row ∈ table, row.1.length = columns.length)
    (hlimit : ∀ row ∈ (columns, e) :: table, ∀ cell ∈ row.1, cell.length ≤ Csv.cellLimit)
    (htable : isTable tablePath = true) (hlist : isTable listPath = false)
    (hread : files.read tablePath = .ok (Csv.tableText ((columns, e) :: table)).toUTF8) :
    (∃ text, Json.read (withUnifiedNewlines text) = .ok (Json.objectsOf columns (table.map Prod.fst))) ∧
    ∀ files' text, Json.read (withUnifiedNewlines text) = .ok (Json.objectsOf columns (table.map Prod.fst)) →
      files'.read listPath = .ok text.toUTF8 →
      (∃ records, readRecords files tablePath = .ok records ∧ readRecords files' listPath = .ok records) ∨
      ∃ i fault words, readRecords files tablePath = .error (.record tablePath i fault) ∧
        readRecords files' listPath = .error (.record listPath i fault) ∧
        (SourceError.record tablePath i fault).message = tablePath.text ++ words ∧
        (SourceError.record listPath i fault).message = listPath.text ++ words := by
  constructor
  · exact ⟨_, Json.read_write_unified (Json.isReadBack_objectsOf columns (table.map Prod.fst))⟩
  · intro files' text htext hread'
    have hholds := holdsRows_tableText htable hcolumns hwidth hlimit hread
    have hholds' := holdsRows_objectsOf hlist hread' htext
    rcases readRecords_agree hholds hholds' with hrecords | ⟨i, fault, hbad, hbad'⟩
    · exact .inl hrecords
    · exact .inr ⟨i, fault, _, hbad, hbad', message_record tablePath i fault, message_record listPath i fault⟩

/-- A name with a line break and a payload with a quote and a comma, and a row of blank cells. -/
def stockTable : List (List String × LineEnd) := [(["a\r\nb", "x\"y,"], .both), (["", ""], .carriageReturn)]

/-- The same as a list of objects. -/
def stockObjects : Json := Json.objectsOf ["name", "qr"] (stockTable.map Prod.fst)

/-- The two files of the stock. -/
def stockFiles : Files := ⟨[
  (["stock.CSV"], .file (Csv.tableText ((["name", "qr"], .feed) :: stockTable)).toUTF8),
  (["stock.json"], .file (Json.write stockObjects).toUTF8)]⟩

theorem quotedTable_agrees_stock :
    readRecords stockFiles ⟨"", ["stock.CSV"]⟩ = .ok [⟨"x\"y,", "a\r\nb", ""⟩, ⟨"", "", ""⟩] ∧
    readRecords stockFiles ⟨"", ["stock.json"]⟩ = .ok [⟨"x\"y,", "a\r\nb", ""⟩, ⟨"", "", ""⟩] := by
  have hobjects : Json.read (withUnifiedNewlines (Json.write stockObjects)) = .ok stockObjects :=
    Json.read_write_unified (Json.isReadBack_objectsOf ["name", "qr"] (stockTable.map Prod.fst))
  have htable : readRecords stockFiles ⟨"", ["stock.CSV"]⟩ = .ok [⟨"x\"y,", "a\r\nb", ""⟩, ⟨"", "", ""⟩] := by
    decide +kernel
  obtain ⟨-, hagree⟩ := @quotedTable_agrees stockFiles ["name", "qr"] stockTable .feed ⟨"", ["stock.CSV"]⟩
    ⟨"", ["stock.json"]⟩ (by decide) (by decide) (by decide) (by decide +kernel) (by decide +kernel) (by decide +kernel)
  refine ⟨htable, ?_⟩
  rcases hagree stockFiles _ hobjects (by decide +kernel) with ⟨records, hread, hread'⟩ | ⟨i, fault, words, hread, -⟩
  · rw [hread', ← hread, htable]
  · rw [htable] at hread
    cases hread

end Sources
end LabelPress
