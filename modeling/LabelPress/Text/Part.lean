import LabelPress.Text.Quoted

/-!
# Parts of texts

Files in JSON and YAML can name half of a surrogate pair by an escape. Two halves may make a character, but one alone
is none: a text that holds it is read and shown like any other, and has no bytes in a file. Such a text is a list of
parts.
-/

namespace LabelPress

/-- A part of a text: a character, or half of a pair without the other half. -/
inductive TextPart where
  | char (c : Char)
  | half (unit : Nat)
  deriving DecidableEq, Repr

/-- Whether a number is that of half of a pair. -/
def isHalf (n : Nat) : Bool :=
  0xD800 ≤ n && n < 0xE000

namespace TextPart

/-- The part with a number. -/
def ofNumber (n : Nat) : TextPart :=
  if isHalf n then .half n else .char (Char.ofNat n)

/-- The number of a part. -/
def number : TextPart → Nat
  | .char c => c.toNat
  | .half unit => unit

/-- The parts of a text. -/
def ofText (s : String) : List TextPart :=
  s.toList.map .char

instance : Coe String (List TextPart) :=
  ⟨ofText⟩

/-- The character of a part that is one. -/
def char? : TextPart → Option Char
  | .char c => some c
  | .half _ => none

/-- The text with these parts, if all of them are characters. -/
def whole? (parts : List TextPart) : Option String :=
  (parts.mapM char?).map String.ofList

/-- A part as text, given what stands for halves. -/
def text (half : Nat → String) : TextPart → String
  | .char c => String.singleton c
  | .half unit => half unit

/-- Parts as text, given what stands for halves. -/
def fill (half : Nat → String) (parts : List TextPart) : String :=
  String.join (parts.map (text half))

/-- A text with these parts in quotes; halves are escaped. -/
def quoted (parts : List TextPart) : String :=
  let quote := quoteFor (parts.filterMap char?)
  let shown : TextPart → String
    | .char c => quotedChar quote c
    | .half unit => codePointEscape unit
  String.singleton quote ++ String.join (parts.map shown) ++ String.singleton quote

theorem mapM_char?_map (cs : List Char) : (cs.map TextPart.char).mapM char? = some cs := by
  induction cs with
  | nil => rfl
  | cons c cs ih =>
    rw [List.map_cons, List.mapM_cons, ih]
    rfl

@[simp]
theorem whole?_ofText (s : String) : whole? (ofText s) = some s := by
  rw [whole?, ofText, mapM_char?_map, Option.map_some, String.ofList_toList]

end TextPart
end LabelPress
