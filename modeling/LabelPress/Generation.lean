import LabelPress.Options.Resolution
import LabelPress.Page
import LabelPress.Rendering

/-!
# Generating documents

From labels, a size and options to a document: the size names a stock, the options override its layout, the
layout is checked for short tables, the labels are planned onto pages and every page is rendered. Equal
arguments give equal documents.
-/

namespace LabelPress

/-- Why no document comes out. -/
inductive GenerationError where
  | options (e : OptionsError)
  | pages (f : PageFault)
  | rendering (f : RenderFault)
  deriving DecidableEq, Repr

namespace Generation

/-- The stock that a size names; the small one, with a warning, if it names none. -/
def resolveSize {ε : Type} (size : Value) : Logged ε Stock :=
  match Stock.ofValue? size with
  | some stock => pure stock
  | none => do
    Logged.report [.unknownSize size]
    return .small

/-- The stock for a size as a caller gives it. A stock is taken as it is. -/
def stockFor {ε : Type} : Size → Logged ε Stock
  | .stock stock => pure stock
  | .value v => resolveSize v

/-- The reports on short tables. A shortage that the stock itself has, in table and items per page, is
built in. -/
def underflowEvents (stock : Stock) (l : Layout) (tables : List Table) : List Event :=
  (l.underflows tables).map fun u =>
    .underflow u
      (l .itemsPerPage = stock.layout .itemsPerPage && l.table u.table = stock.layout.table u.table)

/-- The document of some pages. -/
def document {α : Type} (l : Layout) (render : List α → Except RenderFault Block)
    (pages : List (List α)) : Except RenderFault Document := do
  let header ← l.header
  let pages ← pages.mapM render
  return ⟨header, pages⟩

/-- The layout of a stock with the options of a caller, after a check of the tables that are used. -/
def checkedLayout (stock : Stock) (options : Options) (tables : Layout → List Table) :
    Logged GenerationError Layout := do
  let l ← (options.resolve stock).mapError .options
  Logged.report (underflowEvents stock l (tables l))
  return l

/-- The document for records on a stock. -/
def assemble (records : List Record) (stock : Stock) (options : Options) :
    Logged GenerationError Document := do
  let l ← checkedLayout stock options Layout.recordTables
  let pages ← Logged.ofExcept ((Page.plan records (l .itemsPerPage)).mapError .pages)
  Logged.report [.rendering records.length pages.length stock]
  Logged.ofExcept ((document l l.recordPage pages).mapError .rendering)

/-- The document for bare values on a stock. -/
def assembleValues (values : List String) (stock : Stock) (options : Options) :
    Logged GenerationError Document := do
  let l ← checkedLayout stock options fun _ => Layout.valueTables
  let pages ← Logged.ofExcept ((Page.plan values (l .itemsPerPage)).mapError .pages)
  Logged.ofExcept ((document l l.valuePage pages).mapError .rendering)

/-- The document for records on the stock for a size. -/
def recordsFor (size : Size) (records : List Record) (options : Options) :
    Logged GenerationError Document := do
  let stock ← stockFor size
  assemble records stock options

/-- The document for bare values on the stock for a size. -/
def valuesFor (values : List String) (size : Size) (options : Options) :
    Logged GenerationError Document := do
  let stock ← stockFor size
  assembleValues values stock options

/-- The document for records on the stock that a value names. -/
def ofRecords (size : Value) (records : List Record) (options : Options) :
    Logged GenerationError Document :=
  recordsFor (.value size) records options

/-- The document for bare values on the stock that a value names. -/
def ofValues (values : List String) (size : Value) (options : Options) :
    Logged GenerationError Document :=
  valuesFor values (.value size) options

end Generation
end LabelPress
