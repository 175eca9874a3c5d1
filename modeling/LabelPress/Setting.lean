import LabelPress.Number
import LabelPress.Position

/-!
# Layout settings

A layout is made of twenty-seven settings. Each has a name, the keys under which a caller may set it, and a
type of its own, so that whatever holds of every setting can be said once for all of them.
-/

namespace LabelPress

/-- The character set of a page, by number or by name. -/
inductive Codepage where
  | number (n : Int)
  | name (s : String)
  deriving DecidableEq, Repr

/-- The codepage as its command shows it. -/
def Codepage.text : Codepage → String
  | .number n => signedNumeral n
  | .name s => s

/-- One setting of a layout. -/
inductive Setting where
  | width | height | gap | speed | density
  | ribbonOn | tearOn
  | codepage
  | itemsPerPage
  | qrPositions | textPositions | idTextPositions | nameTextPositions
  | qrModel | qrSize | qrRotation | qrMask | qrErrorLevel
  | textFont | textRotation | textXMul | textYMul
  | nameTextFont | nameTextRotation | nameTextXMul | nameTextYMul
  | includeIdText
  deriving DecidableEq, Repr

namespace Setting

/-- What a setting is set to. Lengths are in millimetres, positions in dots. -/
@[reducible] def Choice : Setting → Type
  | .width | .height | .gap | .speed => Number
  | .density | .itemsPerPage | .qrSize => Int
  | .ribbonOn | .tearOn | .includeIdText => Bool
  | .codepage => Codepage
  | .qrPositions | .textPositions | .idTextPositions | .nameTextPositions => List Position
  | .qrModel | .qrMask | .qrErrorLevel | .textFont | .nameTextFont => String
  | .qrRotation | .textRotation | .nameTextRotation => Int
  | .textXMul | .textYMul | .nameTextXMul | .nameTextYMul => Number

/-- All settings. -/
def all : List Setting := [
  .width, .height, .gap, .speed, .density, .ribbonOn, .tearOn, .codepage, .itemsPerPage,
  .qrPositions, .textPositions, .idTextPositions, .nameTextPositions,
  .qrModel, .qrSize, .qrRotation, .qrMask, .qrErrorLevel,
  .textFont, .textRotation, .textXMul, .textYMul,
  .nameTextFont, .nameTextRotation, .nameTextXMul, .nameTextYMul, .includeIdText]

theorem mem_all (s : Setting) : s ∈ all := by
  cases s <;> decide

/-- The name of a setting. -/
def name : Setting → String
  | .width => "width_mm"
  | .height => "height_mm"
  | .gap => "gap_mm"
  | .speed => "speed"
  | .density => "density"
  | .ribbonOn => "ribbon_on"
  | .tearOn => "tear_on"
  | .codepage => "codepage"
  | .itemsPerPage => "items_per_page"
  | .qrPositions => "qr_positions"
  | .textPositions => "text_positions"
  | .idTextPositions => "id_text_positions"
  | .nameTextPositions => "name_text_positions"
  | .qrModel => "qr_model"
  | .qrSize => "qr_size"
  | .qrRotation => "qr_rotation"
  | .qrMask => "qr_mask"
  | .qrErrorLevel => "qr_error_level"
  | .textFont => "text_font"
  | .textRotation => "text_rotation"
  | .textXMul => "text_x_mul"
  | .textYMul => "text_y_mul"
  | .nameTextFont => "name_text_font"
  | .nameTextRotation => "name_text_rotation"
  | .nameTextXMul => "name_text_x_mul"
  | .nameTextYMul => "name_text_y_mul"
  | .includeIdText => "include_id_text"

/-- The keys a caller may use, the one that counts first in front: as a rule the name in one word with
capitals before the name itself. -/
def keys : Setting → List String
  | .width => ["widthMm", "width_mm"]
  | .height => ["heightMm", "height_mm"]
  | .gap => ["gapMm", "gap_mm"]
  | .speed => ["speed"]
  | .density => ["density"]
  | .ribbonOn => ["ribbonOn", "ribbon_on"]
  | .tearOn => ["tearOn", "tear_on"]
  | .codepage => ["codepage"]
  | .itemsPerPage => ["items_per_page", "itemsPerPage", "itemsPerRow"]
  | .qrPositions => ["qrPositions", "qr_positions"]
  | .textPositions => ["textPositions", "text_positions"]
  | .idTextPositions => ["idTextPositions", "id_text_positions"]
  | .nameTextPositions => ["nameTextPositions", "name_text_positions"]
  | .qrModel => ["qrModel", "qr_model"]
  | .qrSize => ["qrSize", "qr_size"]
  | .qrRotation => ["qrRotation", "qr_rotation"]
  | .qrMask => ["qrMask", "qr_mask"]
  | .qrErrorLevel => ["qrErrorLevel", "qr_error_level"]
  | .textFont => ["textFont", "text_font"]
  | .textRotation => ["textRotation", "text_rotation"]
  | .textXMul => ["textXMul", "text_x_mul"]
  | .textYMul => ["textYMul", "text_y_mul"]
  | .nameTextFont => ["nameTextFont", "name_text_font"]
  | .nameTextRotation => ["nameTextRotation", "name_text_rotation"]
  | .nameTextXMul => ["nameTextXMul", "name_text_x_mul"]
  | .nameTextYMul => ["nameTextYMul", "name_text_y_mul"]
  | .includeIdText => ["includeIdText", "include_id_text"]

/-- The setting with a name. -/
def ofName? (s : String) : Option Setting :=
  all.find? fun setting => setting.name = s

/-- The setting that a key sets. -/
def ofKey? (key : String) : Option Setting :=
  all.find? fun setting => setting.keys.contains key

end Setting
end LabelPress
