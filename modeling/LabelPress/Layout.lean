import LabelPress.Setting
import LabelPress.Text.Quoted

/-!
# Layouts

A layout chooses something for every setting; overrides choose something for some of them. Overriding is
done setting by setting and never looks at a second one.
-/

namespace LabelPress

/-- A complete choice of settings. -/
abbrev Layout := (s : Setting) → s.Choice

/-- A choice for some of the settings. -/
abbrev Overrides := (s : Setting) → Option s.Choice

namespace Overrides

/-- No choice at all. -/
def none : Overrides := fun _ => Option.none

/-- The settings that are chosen. -/
def settings (o : Overrides) : List Setting :=
  Setting.all.filter fun s => (o s).isSome

end Overrides

/-- The four position tables of a layout. -/
inductive Table where
  | qr
  | text
  | idText
  | nameText
  deriving DecidableEq, Repr

namespace Table

/-- The setting that holds a table. -/
def setting : Table → Setting
  | .qr => .qrPositions
  | .text => .textPositions
  | .idText => .idTextPositions
  | .nameText => .nameTextPositions

/-- The name of a table. -/
def name (t : Table) : String := t.setting.name

/-- All tables. -/
def all : List Table := [.qr, .text, .idText, .nameText]

end Table

/-- Why a name does not lead to a position table. -/
inductive TableFault where
  /-- A layout has nothing of this name. -/
  | unknown (name : String)
  /-- The name is that of a setting which is no table. -/
  | notTable (setting : Setting)
  deriving DecidableEq, Repr

/-- The wording of a fault. -/
def TableFault.message : TableFault → String
  | .unknown name => "'LabelLayoutConfig' object has no attribute " ++ quoted name
  | .notTable setting => setting.name ++ " is no position table"

/-- The table with a name. -/
def Table.ofName (name : String) : Except TableFault Table :=
  match Table.all.find? fun t => t.name = name with
  | some t => .ok t
  | none =>
    match Setting.ofName? name with
    | some s => .error (.notTable s)
    | none => .error (.unknown name)

namespace Layout

/-- The layout with every overridden setting replaced. -/
def override (l : Layout) (o : Overrides) : Layout :=
  fun s => (o s).getD (l s)

/-- The entries of a table. -/
def table (l : Layout) : Table → List Position
  | .qr => l .qrPositions
  | .text => l .textPositions
  | .idText => l .idTextPositions
  | .nameText => l .nameTextPositions

/-- The position of a slot by a table. -/
def positionOf? (l : Layout) (t : Table) (slot : Nat) : Option Position :=
  Position.ofSlot? (l.table t) slot

end Layout
end LabelPress
