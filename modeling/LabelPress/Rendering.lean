import LabelPress.Command
import LabelPress.Pitch
import LabelPress.Record

/-!
# Rendering

A layout turns a page of records into commands. Every label gets a QR symbol, then its id and its name as
far as the layout prints them; each stands where its table puts the slot. The codepage applies to a page
and is chosen once, after the first symbol.
-/

namespace LabelPress

/-- Why a block cannot be rendered. -/
inductive RenderFault where
  /-- The height of the layout has no pitch. -/
  | noPitch
  /-- There is a label to print and no place for its symbol. -/
  | noQrPosition
  deriving DecidableEq, Repr

/-- The wording of a fault; a height without a pitch has none. -/
def RenderFault.message : RenderFault → String
  | .noPitch => ""
  | .noQrPosition => "Layout has no qr_positions; cannot place QR codes"

namespace Layout

/-- The pitch of the pages. -/
def pitch (l : Layout) : Except RenderFault String :=
  match Pitch.text? (l .height) with
  | some p => .ok p
  | none => .error .noPitch

/-- How symbols are drawn. -/
def qrStyle (l : Layout) : QrStyle where
  model := l .qrModel
  size := l .qrSize
  rotation := l .qrRotation
  mask := l .qrMask
  errorLevel := l .qrErrorLevel

/-- How ids and bare values are drawn. -/
def textStyle (l : Layout) : TextStyle where
  font := l .textFont
  rotation := l .textRotation
  xMul := l .textXMul
  yMul := l .textYMul

/-- How names are drawn. -/
def nameStyle (l : Layout) : TextStyle where
  font := l .nameTextFont
  rotation := l .nameTextRotation
  xMul := l .nameTextXMul
  yMul := l .nameTextYMul

/-- The block that sets up media and mechanism. -/
def header (l : Layout) : Except RenderFault Block := do
  let pitch ← l.pitch
  return [
    .media pitch (l .width) (l .height), .gap (l .gap), .speed (l .speed), .density (l .density),
    .ribbon (l .ribbonOn), .direction, .reference, .offset, .peelOff, .cutterOff, .partialCutterOff,
    .close]

/-- The symbol of a slot, with the codepage after the first. -/
def symbol (l : Layout) (slot : Nat) (data : String) : Except RenderFault Block :=
  match l.positionOf? .qr slot with
  | none => .error .noQrPosition
  | some place =>
    .ok (.qrCode place l.qrStyle data :: if slot = 0 then [.codepage (l .codepage)] else [])

/-- A text at the place a table gives the slot, if it gives one. -/
def caption (l : Layout) (t : Table) (style : TextStyle) (slot : Nat) (content : String) : Block :=
  match l.positionOf? t slot with
  | none => []
  | some place => [.text place style content]

/-- The commands of a record at a slot. -/
def recordCommands (l : Layout) (slot : Nat) (r : Record) : Except RenderFault Block := do
  let symbol ← l.symbol slot r.payload
  let id := if l .includeIdText then l.caption .idText l.textStyle slot r.id else []
  return symbol ++ id ++ l.caption .nameText l.nameStyle slot r.name

/-- The commands of a bare value at a slot: a symbol and the value as its caption. -/
def valueCommands (l : Layout) (slot : Nat) (v : String) : Except RenderFault Block := do
  let symbol ← l.symbol slot v
  return symbol ++ l.caption .text l.textStyle slot v

/-- The commands of items at the slots from `slot` on. -/
def slotCommands {α : Type} (commands : Nat → α → Except RenderFault Block) :
    (slot : Nat) → List α → Except RenderFault Block
  | _, [] => .ok []
  | slot, item :: items => do
    let first ← commands slot item
    let rest ← slotCommands commands (slot + 1) items
    return first ++ rest

/-- A page of items. -/
def page {α : Type} (l : Layout) (commands : Nat → α → Except RenderFault Block) (items : List α) :
    Except RenderFault Block := do
  let pitch ← l.pitch
  let body ← slotCommands commands 0 items
  return [.tear pitch (l .tearOn), .clear] ++ body ++ [.print, .close]

/-- A page of records. -/
def recordPage (l : Layout) (records : List Record) : Except RenderFault Block :=
  l.page l.recordCommands records

/-- A page of bare values. -/
def valuePage (l : Layout) (values : List String) : Except RenderFault Block :=
  l.page l.valueCommands values

end Layout
end LabelPress
