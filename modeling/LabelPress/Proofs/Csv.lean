import LabelPress.Csv
import LabelPress.Proofs.Text.Lines

/-!
# Quoted tables

A table is written with every cell between quotes, the quotes in it doubled. Whatever the cells hold and however its
rows end, it is read back cell by cell (`Csv.rows_tableChars`), so that its rows are the mappings from its columns to
their cells (`Csv.records?_tableText`).
-/

namespace LabelPress.Csv
variable {rest : List Char} {cells header : List String}

/-! ## Writing -/

/-- One character between quotes: a quote is doubled. -/
def quotedChar (c : Char) : List Char :=
  if c = '"' then ['"', '"'] else [c]

/-- A cell between quotes. -/
def quoteCell (cell : String) : List Char :=
  '"' :: cell.toList.flatMap quotedChar ++ ['"']

/-- The cells of a row between quotes, with commas between them. -/
def quoteCells (cells : List String) : List Char :=
  [','].intercalate (cells.map quoteCell)

/-- The rows of a table, each with its line end. -/
def tableChars (table : List (List String × LineEnd)) : List Char :=
  table.flatMap fun row => quoteCells row.1 ++ row.2.chars

/-- The text of a table. -/
def tableText (table : List (List String × LineEnd)) : String :=
  String.ofList (tableChars table)

/-! ## Reading cells -/

/-- Whether a rest ends the cell in front of it. -/
def EndsCell (rest : List Char) : Prop :=
  ∀ c, rest.head? = some c → endsCell c = true

theorem spanBare_of_endsCell (h : EndsCell rest) : spanBare rest = ([], rest) := by
  cases rest with
  | nil => rfl
  | cons c rest => simp [spanBare, h c rfl]

theorem spanQuoted_doubled (cs : List Char) (h : EndsCell rest) :
    spanQuoted (cs.flatMap quotedChar ++ '"' :: rest) = (cs, rest) := by
  induction cs with
  | nil =>
    rw [List.flatMap_nil, List.nil_append]
    cases rest with
    | nil => rfl
    | cons c rest =>
      have hc : c ≠ '"' := by
        rintro rfl
        exact absurd (h '"' rfl) (by decide)
      rw [spanQuoted]
      simp [hc]
  | cons c cs ih =>
    by_cases hc : c = '"'
    · subst hc
      simp [quotedChar, spanQuoted, ih]
    · rw [List.flatMap_cons, quotedChar, if_neg hc, List.append_assoc, List.singleton_append, spanQuoted, ih]
      · simp [hc]
      · simp [hc]

theorem spanCell_quoteCell (cell : String) (h : EndsCell rest) :
    spanCell (quoteCell cell ++ rest) = (cell.toList, rest) := by
  have hopen : quoteCell cell ++ rest = '"' :: (cell.toList.flatMap quotedChar ++ '"' :: rest) := by
    simp [quoteCell]
  rw [hopen, spanCell, spanQuoted_doubled _ h]
  simp only [spanBare_of_endsCell h, List.append_nil]

/-! ## Reading rows -/

theorem dropLineEnd_chars (e : LineEnd) (h : rest.head? ≠ some '\n') : dropLineEnd (e.chars ++ rest) = rest := by
  cases e with
  | feed => rfl
  | both => rfl
  | carriageReturn =>
    cases rest with
    | nil => rfl
    | cons c rest =>
      have hc : c ≠ '\n' := fun hc => h (congrArg some hc)
      change dropLineEnd ('\r' :: c :: rest) = _
      rw [dropLineEnd]
      simp [hc]

theorem readCells_comma {cs cell : List Char} (h : spanCell cs = (cell, ',' :: rest)) :
    readCells cs = (cell :: (readCells rest).1, (readCells rest).2) := by
  rw [readCells, h]
  rfl

theorem readCells_last {cs cell : List Char} (h : spanCell cs = (cell, rest)) (hcomma : rest.head? ≠ some ',') :
    readCells cs = ([cell], dropLineEnd rest) := by
  rw [readCells, h]
  exact if_neg hcomma

theorem readCells_quoteCells (hcells : cells ≠ []) (e : LineEnd) (h : rest.head? ≠ some '\n') :
    readCells (quoteCells cells ++ (e.chars ++ rest)) = (cells.map String.toList, rest) := by
  induction cells with
  | nil => exact absurd rfl hcells
  | cons cell cells ih =>
    cases cells with
    | nil =>
      have hend : EndsCell (e.chars ++ rest) := by
        cases e <;> simp [EndsCell, LineEnd.chars, endsCell, isLineEnd]
      have hcomma : (e.chars ++ rest).head? ≠ some ',' := by
        cases e <;> simp [LineEnd.chars]
      rw [quoteCells, List.map_singleton, List.intercalate_singleton,
        readCells_last (spanCell_quoteCell cell hend) hcomma, dropLineEnd_chars e h, List.map_singleton]
    | cons other cells =>
      have hmore := ih (List.cons_ne_nil other cells)
      have hend : EndsCell (',' :: (quoteCells (other :: cells) ++ (e.chars ++ rest))) := by
        simp [EndsCell, endsCell]
      have hjoined : quoteCells (cell :: other :: cells) ++ (e.chars ++ rest) =
          quoteCell cell ++ ',' :: (quoteCells (other :: cells) ++ (e.chars ++ rest)) := by
        rw [quoteCells, quoteCells, List.map_cons, List.map_cons, List.intercalate_cons_cons, List.append_assoc,
          List.append_assoc, List.singleton_append]
      rw [hjoined, readCells_comma (spanCell_quoteCell cell hend), hmore]
      rfl

theorem exists_quoteCells_eq (hcells : cells ≠ []) : ∃ cs, quoteCells cells = '"' :: cs := by
  obtain ⟨cell, cells, rfl⟩ := List.exists_cons_of_ne_nil hcells
  cases cells with
  | nil => exact ⟨_, by rw [quoteCells, List.map_singleton, List.intercalate_singleton, quoteCell, List.cons_append]⟩
  | cons other cells =>
    exact ⟨_, by rw [quoteCells, List.map_cons, List.map_cons, List.intercalate_cons_cons, quoteCell, List.cons_append,
      List.cons_append, List.cons_append]⟩

/-- **A quoted table is read back row by row.** -/
theorem rows_tableChars {table : List (List String × LineEnd)} (h : ∀ row ∈ table, row.1 ≠ []) :
    rows (tableChars table) = table.map Prod.fst := by
  induction table with
  | nil => rw [tableChars, List.flatMap_nil, rows, List.map_nil]
  | cons row table ih =>
    obtain ⟨hrow, htable⟩ := List.forall_mem_cons.1 h
    -- What follows the end of a row is a quote or nothing, so a carriage return ends the row by itself.
    have hnext : (tableChars table).head? ≠ some '\n' := by
      cases table with
      | nil => simp [tableChars]
      | cons next table =>
        obtain ⟨cs, hcs⟩ := exists_quoteCells_eq (htable next List.mem_cons_self)
        simp [tableChars, hcs]
    obtain ⟨cs, hcs⟩ := exists_quoteCells_eq hrow
    have hread := readCells_quoteCells hrow row.2 hnext
    have hfirst : tableChars (row :: table) = quoteCells row.1 ++ (row.2.chars ++ tableChars table) := by
      rw [tableChars, List.flatMap_cons, List.append_assoc, tableChars]
    have hstart : readRow (quoteCells row.1 ++ (row.2.chars ++ tableChars table)) =
        readCells (quoteCells row.1 ++ (row.2.chars ++ tableChars table)) := by
      rw [hcs]
      rfl
    rw [hread] at hstart
    rw [hfirst]
    rw [hcs, List.cons_append] at hstart ⊢
    rw [rows, hstart, ih htable, List.map_map, List.map_cons]
    congr 1
    exact (List.map_congr_left fun cell _ => String.ofList_toList).trans (List.map_id _)

/-- The mapping of a full row has an entry for each column. -/
theorem rowMapping_of_length (h : cells.length = header.length) :
    rowMapping header cells = Mapping.ofEntries ((header.map Value.text).zip (cells.map Value.text)) := by
  rw [rowMapping, h, Nat.sub_self, List.drop_eq_nil_of_le (Nat.le_of_eq h)]
  simp

/-- **A quoted table with full rows holds a mapping for each of them.** -/
theorem records?_tableText {table : List (List String × LineEnd)} {e : LineEnd} (hheader : header ≠ [])
    (hwidth : ∀ row ∈ table, row.1.length = header.length)
    (hlimit : ∀ row ∈ (header, e) :: table, ∀ cell ∈ row.1, cell.length ≤ cellLimit) :
    records? (tableText ((header, e) :: table)) =
      some (table.map fun row => Mapping.ofEntries ((header.map Value.text).zip (row.1.map Value.text))) := by
  have hrows : ∀ row ∈ (header, e) :: table, row.1 ≠ [] := by
    refine List.forall_mem_cons.2 ⟨hheader, fun row hrow hnil => hheader ?_⟩
    rw [← List.length_eq_zero_iff, ← hwidth row hrow, hnil, List.length_nil]
  have hshort : ((((header, e) :: table).map Prod.fst).any fun row => row.any fun cell => cellLimit < cell.length) =
      false := by
    simp only [List.any_map, List.any_eq_false, Function.comp_apply, List.any_eq_true, decide_eq_true_eq, not_exists,
      not_and, Nat.not_lt]
    exact hlimit
  have hfull : (table.map Prod.fst).filter (fun row => !row.isEmpty) = table.map Prod.fst := by
    refine List.filter_eq_self.2 fun cells hcells => ?_
    obtain ⟨row, hrow, rfl⟩ := List.mem_map.1 hcells
    simpa using hrows row (List.mem_cons_of_mem _ hrow)
  rw [records?, tableText, String.toList_ofList, rows_tableChars hrows, hshort, if_neg Bool.false_ne_true,
    List.map_cons]
  dsimp only
  rw [hfull, List.map_map]
  refine congrArg some (List.map_congr_left fun row hrow => ?_)
  exact rowMapping_of_length (hwidth row hrow)

end LabelPress.Csv
