import LabelPress.Layout

/-!
# Position table underflow

A table with fewer entries than a page has items prints the labels of the remaining slots at its first
entry. That is allowed and worth a report. An empty table prints nothing and is not reported.
-/

namespace LabelPress

/-- A table that is too short for the items per page. -/
structure Underflow where
  table : Table
  entries : Nat
  itemsPerPage : Int
  deriving DecidableEq, Repr

namespace Underflow

/-- The wording of a report. -/
def message (u : Underflow) : String :=
  u.table.name ++ " has " ++ numeral u.entries ++ " entr" ++ (if u.entries = 1 then "y" else "ies") ++
    " for " ++ signedNumeral u.itemsPerPage ++ " items per page; slots " ++ numeral u.entries ++ ".." ++
    signedNumeral (u.itemsPerPage - 1) ++ " reuse slot 0"

/-- The report on one table, if it is too short without being empty. -/
def ofTable? (l : Layout) (t : Table) : Option Underflow :=
  let entries := (l.table t).length
  let perPage : Int := l .itemsPerPage
  if 0 < entries ∧ (entries : Int) < perPage then some ⟨t, entries, perPage⟩ else none

end Underflow

namespace Layout

/-- The tables that a page of records reads. -/
def recordTables (l : Layout) : List Table :=
  [.qr, .nameText] ++ (if l .includeIdText then [.idText] else [])

/-- The tables that a page of bare values reads. -/
def valueTables : List Table := [.qr, .text]

/-- The reports on some tables, in their order. -/
def underflows (l : Layout) (tables : List Table) : List Underflow :=
  tables.filterMap (Underflow.ofTable? l)

end Layout
end LabelPress
