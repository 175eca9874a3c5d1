import LabelPress.Layout
import LabelPress.Text.Literal

/-!
# Printer commands

The commands of a document, in the TSPL language with XPML page markup. A command is data; `Command.line`
is the one line it is written as. Numbers stand bare, texts between double quotes.
-/

namespace LabelPress

/-- How a QR symbol is drawn. -/
structure QrStyle where
  model : String
  size : Int
  rotation : Int
  mask : String
  errorLevel : String
  deriving DecidableEq, Repr

/-- How a text is drawn. -/
structure TextStyle where
  font : String
  rotation : Int
  xMul : Number
  yMul : Number
  deriving DecidableEq, Repr

/-- One command of a document. -/
inductive Command where
  /-- Opens the header and sets the size of the media. -/
  | media (pitch : String) (width height : Number)
  | gap (g : Number)
  | speed (s : Number)
  | density (d : Int)
  | ribbon (on : Bool)
  | direction
  | reference
  | offset
  | peelOff
  | cutterOff
  | partialCutterOff
  /-- Opens a page and sets whether it is torn off. -/
  | tear (pitch : String) (on : Bool)
  | clear
  | qrCode (place : Position) (style : QrStyle) (data : String)
  | codepage (c : Codepage)
  | text (place : Position) (style : TextStyle) (content : String)
  | print
  /-- Closes the header or a page. -/
  | close
  deriving DecidableEq, Repr

/-- `ON` or `OFF`. -/
def switchText (on : Bool) : String :=
  if on then "ON" else "OFF"

/-- The markup that opens a block for so many pages of a pitch. -/
def openTag (quantity : Nat) (pitch : String) : String :=
  "<xpml><page quantity='" ++ numeral quantity ++ "' pitch='" ++ pitch ++ " mm'></xpml>"

/-- The markup that closes a block. -/
def closeTag : String := "<xpml></page></xpml>"

/-- The markup that ends a document. -/
def endTag : String := "<xpml><end/></xpml>"

namespace Command

/-- The arguments of a QR command. -/
def qrArguments (place : Position) (style : QrStyle) (data : String) : List String :=
  [signedNumeral place.x, signedNumeral place.y, style.model, signedNumeral style.size, "A",
    signedNumeral style.rotation, style.mask, style.errorLevel, literal data]

/-- The arguments of a text command. -/
def textArguments (place : Position) (style : TextStyle) (content : String) : List String :=
  [signedNumeral place.x, signedNumeral place.y, "\"" ++ style.font ++ "\"",
    signedNumeral style.rotation, style.xMul.text, style.yMul.text, literal content]

/-- The line of a command. -/
def line : Command → String
  | .media pitch width height =>
    openTag 0 pitch ++ "SIZE " ++ width.text ++ " mm, " ++ height.text ++ " mm"
  | .gap g => "GAP " ++ g.text ++ " mm, 0 mm"
  | .speed s => "SPEED " ++ s.text
  | .density d => "DENSITY " ++ signedNumeral d
  | .ribbon on => "SET RIBBON " ++ switchText on
  | .direction => "DIRECTION 0,0"
  | .reference => "REFERENCE 0,0"
  | .offset => "OFFSET 0 mm"
  | .peelOff => "SET PEEL OFF"
  | .cutterOff => "SET CUTTER OFF"
  | .partialCutterOff => "SET PARTIAL_CUTTER OFF"
  | .tear pitch on => openTag 1 pitch ++ "SET TEAR " ++ switchText on
  | .clear => "CLS"
  | .qrCode place style data => "QRCODE " ++ String.intercalate "," (qrArguments place style data)
  | .codepage c => "CODEPAGE " ++ c.text
  | .text place style content =>
    "TEXT " ++ String.intercalate "," (textArguments place style content)
  | .print => "PRINT 1,1"
  | .close => closeTag

end Command

/-- The commands of a header or a page. -/
abbrev Block := List Command

/-- The text of a block: one blank line between two commands and none after the last. -/
def Block.text (b : Block) : String :=
  String.intercalate "\n\n" (b.map Command.line)

/-- A whole document. -/
structure Document where
  header : Block
  pages : List Block
  deriving DecidableEq, Repr

/-- The text of a document: its blocks with nothing between them, and the end. -/
def Document.text (d : Document) : String :=
  d.header.text ++ String.join (d.pages.map Block.text) ++ endTag

end LabelPress
