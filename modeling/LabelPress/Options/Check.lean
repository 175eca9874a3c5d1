import LabelPress.Layout
import LabelPress.Options.Reading

/-!
# Checking one option

The check of a setting takes the value a caller gives and the key it is given under, and answers with what
the setting is set to or with everything that is wrong. Most settings are a single value and have at most
one fault; a position table can have a fault in every coordinate.
-/

namespace LabelPress.Options

/-- A reading whose fault is placed at the key. -/
def atKey {α : Type} (key : String) (r : Except OptionFault α) : Except (List OptionDetail) α :=
  r.mapError fun fault => [⟨[.key key], fault⟩]

/-! ## Codepages -/

/-- Reads a codepage. A text is the name of one; any other value must be its number, and one that is
neither has a fault as each. -/
def codepage (key : String) (v : Value) : Except (List OptionDetail) Codepage :=
  match v with
  | .text s => (atKey key (requireBareToken s)).map .name
  | v =>
    match whole v, text v with
    | .ok n, _ => .ok (.number n)
    | .error _, .ok s => (atKey key (requireBareToken s)).map .name
    | .error asNumber, .error asName =>
      .error [⟨[.key key, .key "int"], asNumber⟩, ⟨[.key key, .key "str"], asName⟩]

/-! ## Position tables -/

/-- Reads a coordinate, which is a whole number and not below zero. -/
def coordinate (place : Place) (axis : String) (v : Option Value) :
    Except (List OptionDetail) Int :=
  let there : Place := place ++ [.key axis]
  match v with
  | none => .error [⟨there, .missing⟩]
  | some v => (wholeWithin (some 0) none .notAtLeast v).mapError fun fault => [⟨there, fault⟩]

/-- Everything that is wrong in either of two answers, or both of what they hold. -/
def both {α β : Type} (a : Except (List OptionDetail) α) (b : Except (List OptionDetail) β) :
    Except (List OptionDetail) (α × β) :=
  match a, b with
  | .ok x, .ok y => .ok (x, y)
  | .error ds, .ok _ => .error ds
  | .ok _, .error ds => .error ds
  | .error ds, .error es => .error (ds ++ es)

/-- The members of a position that are not its coordinates. -/
def strayMembers (place : Place) (members : Mapping) : List OptionDetail :=
  members.filterMap fun entry =>
    match entry.1 with
    | .text "x" | .text "y" => none
    | .text k => some ⟨place ++ [.key k], .unknownKey⟩
    | k => some ⟨place ++ [Place.stepOfKey k], .keyNotText⟩

/-- Reads a position from its members. -/
def positionOfMembers (place : Place) (members : Mapping) : Except (List OptionDetail) Position :=
  let strays : Except (List OptionDetail) Unit :=
    match strayMembers place members with
    | [] => .ok ()
    | ds => .error ds
  let coordinates :=
    both (coordinate place "x" (members.get? "x")) (coordinate place "y" (members.get? "y"))
  (both coordinates strays).map fun ((x, y), _) => ⟨x, y⟩

/-- The members of a position with the given coordinates. -/
def members (x y : Value) : Mapping :=
  [(.text "x", x), (.text "y", y)]

/-- Reads one entry of a table: a pair, a mapping with members `x` and `y`, or a position. -/
def entry (place : Place) : Value → Except (List OptionDetail) Position
  | .position p => positionOfMembers place (members (.int p.x) (.int p.y))
  | .list [x, y] | .tuple [x, y] => positionOfMembers place (members x y)
  | .map m => positionOfMembers place m
  | _ => .error [⟨place, .notPosition⟩]

/-- Reads the entries of a table from number `i` on. -/
def entries (key : String) : (i : Nat) → List Value → Except (List OptionDetail) (List Position)
  | _, [] => .ok []
  | i, v :: vs =>
    (both (entry [.key key, .index i] v) (entries key (i + 1) vs)).map fun (p, ps) => p :: ps

/-- Whether a value is a list or tuple that is no pair. -/
def isBadPair : Value → Bool
  | .list items | .tuple items => items.length ≠ 2
  | _ => false

/-- Reads a position table. A list or tuple in it that is no pair spoils the whole table; a set is read
like a list, but none of the members it can have is a position. -/
def positions (key : String) : Value → Except (List OptionDetail) (List Position)
  | .list items | .tuple items =>
    match items.find? isBadPair with
    | some item => .error [⟨[.key key], .pairLength item.shown⟩]
    | none => entries key 0 items
  | .set items =>
    match items with
    | [] => .ok []
    | items => .error (items.mapIdx fun i _ => ⟨[.key key, .index i], .notPosition⟩)
  | _ => .error [⟨[.key key], .notList⟩]

/-- Reads the table of QR positions, which must not be empty. -/
def qrPositions (key : String) (v : Value) : Except (List OptionDetail) (List Position) :=
  match positions key v with
  | .ok [] => .error [⟨[.key key], .noQrPosition⟩]
  | r => r

/-! ## All settings -/

/-- Checks the value given for a setting under a key. -/
def check : (s : Setting) → (key : String) → Value → Except (List OptionDetail) s.Choice
  | .width, key, v => atKey key (positive v)
  | .height, key, v => atKey key (positive v)
  | .gap, key, v => atKey key (nonnegative v)
  | .speed, key, v => atKey key (positive v)
  | .density, key, v => atKey key (wholeWithin (some 0) (some 15) .notAtLeast v)
  | .ribbonOn, key, v => atKey key (truth v)
  | .tearOn, key, v => atKey key (truth v)
  | .codepage, key, v => codepage key v
  | .itemsPerPage, key, v => atKey key (count v)
  | .qrPositions, key, v => qrPositions key v
  | .textPositions, key, v => positions key v
  | .idTextPositions, key, v => positions key v
  | .nameTextPositions, key, v => positions key v
  | .qrModel, key, v => atKey key (bareToken v)
  | .qrSize, key, v => atKey key (wholeWithin (some 1) (some 10) .notAtLeast v)
  | .qrRotation, key, v => atKey key (rotation v)
  | .qrMask, key, v => atKey key (bareToken v)
  | .qrErrorLevel, key, v => atKey key (bareToken v)
  | .textFont, key, v => atKey key (fontName v)
  | .textRotation, key, v => atKey key (rotation v)
  | .textXMul, key, v => atKey key (positive v)
  | .textYMul, key, v => atKey key (positive v)
  | .nameTextFont, key, v => atKey key (fontName v)
  | .nameTextRotation, key, v => atKey key (rotation v)
  | .nameTextXMul, key, v => atKey key (positive v)
  | .nameTextYMul, key, v => atKey key (positive v)
  | .includeIdText, key, v => atKey key (truth v)

end LabelPress.Options
