import LabelPress.Options.Check

/-!
# Validating options

A mapping of options is valid if every key is one of a setting, no setting is given under two keys, and the
check of every setting accepts its value. Settings are checked apart from each other; a rejection holds the
faults of all of them.
-/

namespace LabelPress

/-- Takes a value for each setting once and for all, so that later uses need not compute it again. -/
def Setting.tabulate {α : Setting → Type} (f : (s : Setting) → α s) : (s : Setting) → α s :=
  let width := f .width
  let height := f .height
  let gap := f .gap
  let speed := f .speed
  let density := f .density
  let ribbonOn := f .ribbonOn
  let tearOn := f .tearOn
  let codepage := f .codepage
  let itemsPerPage := f .itemsPerPage
  let qrPositions := f .qrPositions
  let textPositions := f .textPositions
  let idTextPositions := f .idTextPositions
  let nameTextPositions := f .nameTextPositions
  let qrModel := f .qrModel
  let qrSize := f .qrSize
  let qrRotation := f .qrRotation
  let qrMask := f .qrMask
  let qrErrorLevel := f .qrErrorLevel
  let textFont := f .textFont
  let textRotation := f .textRotation
  let textXMul := f .textXMul
  let textYMul := f .textYMul
  let nameTextFont := f .nameTextFont
  let nameTextRotation := f .nameTextRotation
  let nameTextXMul := f .nameTextXMul
  let nameTextYMul := f .nameTextYMul
  let includeIdText := f .includeIdText
  fun
    | .width => width
    | .height => height
    | .gap => gap
    | .speed => speed
    | .density => density
    | .ribbonOn => ribbonOn
    | .tearOn => tearOn
    | .codepage => codepage
    | .itemsPerPage => itemsPerPage
    | .qrPositions => qrPositions
    | .textPositions => textPositions
    | .idTextPositions => idTextPositions
    | .nameTextPositions => nameTextPositions
    | .qrModel => qrModel
    | .qrSize => qrSize
    | .qrRotation => qrRotation
    | .qrMask => qrMask
    | .qrErrorLevel => qrErrorLevel
    | .textFont => textFont
    | .textRotation => textRotation
    | .textXMul => textXMul
    | .textYMul => textYMul
    | .nameTextFont => nameTextFont
    | .nameTextRotation => nameTextRotation
    | .nameTextXMul => nameTextXMul
    | .nameTextYMul => nameTextYMul
    | .includeIdText => includeIdText

@[simp] theorem Setting.tabulate_eq {α : Setting → Type} (f : (s : Setting) → α s) :
    Setting.tabulate f = f := by
  funext s
  cases s <;> rfl

namespace Options

/-- The key under which a mapping gives a setting, and the value: of several keys the first in the order of
the setting counts. -/
def given? (m : Mapping) (s : Setting) : Option (String × Value) :=
  s.keys.findSome? fun key => (m.get? key).map fun v => (key, v)

/-- Checks what a mapping gives for a setting. Null is like nothing given. -/
def checkSetting (m : Mapping) (s : Setting) : Except (List OptionDetail) (Option s.Choice) :=
  match given? m s with
  | none | some (_, .null) => .ok none
  | some (key, v) => (check s key v).map some

/-- The faults of a setting. -/
def faults (m : Mapping) (s : Setting) : List OptionDetail :=
  match checkSetting m s with
  | .ok _ => []
  | .error ds => ds

/-- The choice for a setting, if it is given and has no fault. -/
def choice? (m : Mapping) (s : Setting) : Option s.Choice :=
  match checkSetting m s with
  | .ok c => c
  | .error _ => none

/-- Whether a key is the one under which its setting is taken. -/
def isTaken (m : Mapping) (key : String) : Bool :=
  match Setting.ofKey? key with
  | none => false
  | some s => (given? m s).map Prod.fst == some key

/-- The fault of an entry whose key gives no setting. -/
def strayFault? (m : Mapping) : Value × Value → Option OptionDetail
  | (.text key, _) => if isTaken m key then none else some ⟨[.key key], .unknownKey⟩
  | (key, _) => some ⟨[Place.stepOfKey key], .keyNotText⟩

/-- All faults of a mapping. -/
def allFaults (m : Mapping) : List OptionDetail :=
  Setting.all.flatMap (faults m) ++ m.filterMap (strayFault? m)

/-- Validates a mapping of options. -/
def validate (m : Mapping) : Except (List OptionDetail) Overrides :=
  match allFaults m with
  | [] => .ok (Setting.tabulate (choice? m))
  | ds => .error (OptionDetail.sort ds)

/-- What a choice is as a value. -/
def valueOf : (s : Setting) → s.Choice → Value
  | .width, c | .height, c | .gap, c | .speed, c
  | .textXMul, c | .textYMul, c | .nameTextXMul, c | .nameTextYMul, c => number c
  | .density, c | .itemsPerPage, c | .qrSize, c => .int c
  | .qrRotation, c | .textRotation, c | .nameTextRotation, c => .int c
  | .ribbonOn, c | .tearOn, c | .includeIdText, c => .bool c
  | .codepage, c =>
    match c with
    | .number n => .int n
    | .name s => .text s
  | .qrPositions, c | .textPositions, c | .idTextPositions, c | .nameTextPositions, c =>
    .list (c.map fun p => .map (members (.int p.x) (.int p.y)))
  | .qrModel, c | .qrMask, c | .qrErrorLevel, c | .textFont, c | .nameTextFont, c => .text c
where
  /-- A number as a value. -/
  number : Number → Value
    | .whole n => .int n
    | .real x => .float x

/-- The mapping that gives exactly the chosen settings, each under its name. -/
def mappingOf (o : Overrides) : Mapping :=
  Setting.all.filterMap fun s => (o s).map fun c => (.text s.name, valueOf s c)

end Options
end LabelPress
