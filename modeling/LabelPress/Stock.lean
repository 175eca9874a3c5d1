import LabelPress.Layout
import LabelPress.Text.Blank
import LabelPress.Text.Letter
import LabelPress.Value.Basic

/-!
# Label stocks

Three stocks are supported. Small labels of 25 by 25 mm lie four across a liner of 108 mm; the medium and
large ones are 100 mm wide and printed two to a page. Every stock has a layout to start from.
-/

namespace LabelPress

/-- A label stock. -/
inductive Stock where
  | small
  | medium
  | large
  deriving DecidableEq, Repr

namespace Stock

/-- All stocks. -/
def all : List Stock := [.small, .medium, .large]

/-- The name of a stock. -/
def name : Stock → String
  | .small => "small"
  | .medium => "medium"
  | .large => "large"

/-- The dimensions of a label in millimetres. -/
def dimensions : Stock → String
  | .small => "25x25"
  | .medium => "100x50"
  | .large => "100x150"

/-- The stock with exactly this name. -/
def ofName? (s : String) : Option Stock :=
  all.find? fun stock => stock.name = s

/-- The stock that a tag names, by name or by dimensions; blanks around it and the case of its letters
do not matter. -/
def ofTag? (tag : String) : Option Stock :=
  let key := lowerCase (trimBlank tag)
  all.find? fun stock => key = stock.name || key = stock.dimensions

/-- The stock that a value names. Only texts are tags. -/
def ofValue? : Value → Option Stock
  | .text tag => ofTag? tag
  | _ => none

/-- The places of the QR symbols on a small page. -/
def smallQr : List Position := [⟨819, 175⟩, ⟨595, 175⟩, ⟨372, 175⟩, ⟨148, 175⟩]

/-- The places of the texts on a small page. Labels are printed upside down, so the text above a symbol
has the smaller ordinate. -/
def smallText : List Position := smallQr.map fun p => ⟨p.x + 12, p.y - 137⟩

/-- The width that the medium and the large stock share, 100.5 mm. -/
def wideWidth : Number := .real (.finite false 7072058789855232 (-46))

/-- The layout of a stock. -/
def layout : Stock → Layout
  | .small => fun
    | .width => .whole 108
    | .height => .whole 25
    | .gap => .whole 3
    | .speed => .whole 5
    | .density => (7 : Int)
    | .ribbonOn => true
    | .tearOn => true
    | .codepage => .number 1252
    | .itemsPerPage => (4 : Int)
    | .qrPositions => smallQr
    | .textPositions => smallText
    | .idTextPositions => smallText
    | .nameTextPositions => smallText
    | .qrModel => "L"
    | .qrSize => (4 : Int)
    | .qrRotation => (180 : Int)
    | .qrMask => "M2"
    | .qrErrorLevel => "S7"
    | .textFont => "ROMAN.TTF"
    | .textRotation => (180 : Int)
    | .textXMul => .whole 1
    | .textYMul => .whole 8
    | .nameTextFont => "0"
    | .nameTextRotation => (180 : Int)
    | .nameTextXMul => .whole 10
    | .nameTextYMul => .whole 10
    | .includeIdText => false
  | .medium => fun
    | .width => wideWidth
    | .height => .whole 50
    | .gap => .whole 3
    | .speed => .whole 5
    | .density => (7 : Int)
    | .ribbonOn => true
    | .tearOn => true
    | .codepage => .number 1252
    | .itemsPerPage => (2 : Int)
    | .qrPositions => [⟨656, 257⟩]
    | .textPositions => [⟨696, 80⟩]
    | .idTextPositions => []
    | .nameTextPositions => [⟨696, 80⟩]
    | .qrModel => "L"
    | .qrSize => (8 : Int)
    | .qrRotation => (180 : Int)
    | .qrMask => "M2"
    | .qrErrorLevel => "S7"
    | .textFont => "0"
    | .textRotation => (180 : Int)
    | .textXMul => .whole 22
    | .textYMul => .whole 11
    | .nameTextFont => "0"
    | .nameTextRotation => (180 : Int)
    | .nameTextXMul => .whole 22
    | .nameTextYMul => .whole 11
    | .includeIdText => false
  | .large => fun
    | .width => wideWidth
    | .height => .whole 150
    | .gap => .whole 3
    | .speed => .whole 5
    | .density => (7 : Int)
    | .ribbonOn => true
    | .tearOn => true
    | .codepage => .number 1252
    | .itemsPerPage => (2 : Int)
    | .qrPositions => [⟨698, 645⟩]
    | .textPositions => [⟨696, 363⟩]
    | .idTextPositions => []
    | .nameTextPositions => [⟨696, 363⟩]
    | .qrModel => "L"
    | .qrSize => (10 : Int)
    | .qrRotation => (180 : Int)
    | .qrMask => "M2"
    | .qrErrorLevel => "S7"
    | .textFont => "0"
    | .textRotation => (180 : Int)
    | .textXMul => .whole 22
    | .textYMul => .whole 33
    | .nameTextFont => "0"
    | .nameTextRotation => (180 : Int)
    | .nameTextXMul => .whole 22
    | .nameTextYMul => .whole 33
    | .includeIdText => false

end Stock

/-- A size as a caller gives it: a stock itself, or a value that may name one. -/
inductive Size where
  | stock (s : Stock)
  | value (v : Value)

end LabelPress
