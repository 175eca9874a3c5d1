import LabelPress.Value.Basic

/-!
# Comma separated tables

Rows end at a line feed, a carriage return or both; cells are separated by commas. A cell that starts with
a quote runs to the next quote that is not doubled, line ends and commas included, and what follows up to the
next comma or line end belongs to it as it stands. A quote that is never closed takes the rest of the text.

The first row is the header, and every later row that is not empty becomes a mapping from its columns.
-/

namespace LabelPress.Csv

/-- Whether a character ends a line. -/
def isLineEnd (c : Char) : Bool :=
  c = '\n' || c = '\r'

/-- Whether a character ends a cell outside quotes. -/
def endsCell (c : Char) : Bool :=
  c = ',' || isLineEnd c

/-- Splits off what a cell holds outside quotes. -/
def spanBare (cs : List Char) : List Char × List Char :=
  (cs.takeWhile (!endsCell ·), cs.dropWhile (!endsCell ·))

/-- Splits off what a cell holds up to its closing quote; a doubled quote is a quote. -/
def spanQuoted : List Char → List Char × List Char
  | [] => ([], [])
  | '"' :: '"' :: rest =>
    let (content, left) := spanQuoted rest
    ('"' :: content, left)
  | '"' :: rest => ([], rest)
  | c :: rest =>
    let (content, left) := spanQuoted rest
    (c :: content, left)

/-- Splits off a cell. -/
def spanCell : List Char → List Char × List Char
  | '"' :: rest =>
    let (content, left) := spanQuoted rest
    let (more, left) := spanBare left
    (content ++ more, left)
  | cs => spanBare cs

theorem length_spanBare_le (cs : List Char) : (spanBare cs).2.length ≤ cs.length :=
  (List.dropWhile_suffix _).length_le

theorem length_spanQuoted_le (cs : List Char) : (spanQuoted cs).2.length ≤ cs.length := by
  fun_induction spanQuoted cs <;> simp_all <;> omega

theorem length_spanCell_le (cs : List Char) : (spanCell cs).2.length ≤ cs.length := by
  unfold spanCell
  split
  · next rest =>
    have := length_spanQuoted_le rest
    have := length_spanBare_le (spanQuoted rest).2
    simp only [List.length_cons]
    omega
  · exact length_spanBare_le cs

/-- Drops one line end. -/
def dropLineEnd : List Char → List Char
  | '\r' :: '\n' :: rest => rest
  | _ :: rest => rest
  | [] => []

theorem length_dropLineEnd_le (cs : List Char) : (dropLineEnd cs).length ≤ cs.length - 1 := by
  fun_cases dropLineEnd cs <;> simp

/-- Reads the cells of a row from a cell on, and its line end. -/
def readCells (cs : List Char) : List (List Char) × List Char :=
  if (spanCell cs).2.head? = some ',' then
    let more := readCells (spanCell cs).2.tail
    ((spanCell cs).1 :: more.1, more.2)
  else ([(spanCell cs).1], dropLineEnd (spanCell cs).2)
termination_by cs.length
decreasing_by
  next hcomma =>
    have hle := length_spanCell_le cs
    match hleft : (spanCell cs).2, hcomma with
    | _ :: rest, _ =>
      rw [hleft, List.length_cons] at hle
      simp only [List.tail_cons]
      omega

/-- Reads a row: a line with nothing in it has no cells. -/
def readRow (cs : List Char) : List (List Char) × List Char :=
  match cs with
  | c :: _ => if isLineEnd c then ([], dropLineEnd cs) else readCells cs
  | [] => ([], [])

theorem length_readCells_le (cs : List Char) : (readCells cs).2.length ≤ cs.length - 1 := by
  fun_induction readCells cs with
  | case1 cs hcomma more ih =>
    have hle := length_spanCell_le cs
    rw [List.length_tail] at ih
    simp only [more]
    omega
  | case2 cs hend =>
    have hle := length_spanCell_le cs
    have hdrop := length_dropLineEnd_le (spanCell cs).2
    simp only
    omega

theorem length_readRow_lt (c : Char) (cs : List Char) :
    (readRow (c :: cs)).2.length < (c :: cs).length := by
  unfold readRow
  simp only
  split
  · have := length_dropLineEnd_le (c :: cs)
    simp only [List.length_cons] at this ⊢
    omega
  · have := length_readCells_le (c :: cs)
    simp only [List.length_cons] at this ⊢
    omega

/-- The rows of a text. -/
def rows (cs : List Char) : List (List String) :=
  match cs with
  | [] => []
  | c :: rest => (readRow (c :: rest)).1.map String.ofList :: rows (readRow (c :: rest)).2
termination_by cs.length
decreasing_by exact length_readRow_lt c rest

/-- A row as a mapping from columns to cells. A column without a cell is null; cells without a column are a
list under the key null. -/
def rowMapping (header row : List String) : Mapping :=
  let cells := row.map Value.text ++ List.replicate (header.length - row.length) Value.null
  let extra := row.drop header.length
  Mapping.ofEntries ((header.map Value.text).zip cells ++
    if extra.isEmpty then [] else [(.null, .list (extra.map .text))])

/-- How many characters a cell may hold. -/
def cellLimit : Nat := 131072

/-- The rows of a text as mappings from the columns that its first row names; rows without cells are left
out. None if a cell is too long. -/
def records? (text : String) : Option (List Mapping) :=
  let all := rows text.toList
  if all.any fun row => row.any fun cell => cellLimit < cell.length then none
  else
    match all with
    | [] => some []
    | header :: rest => some ((rest.filter (!·.isEmpty)).map (rowMapping header))

end LabelPress.Csv
