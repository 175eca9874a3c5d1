import LabelPress.Yaml.Fault

/-!
# Texts as they are handed over

A reader of YAML gets its text in portions, and gets a portion only if all of it can be decoded and every character of
it is one that a text may hold. What it reads is hence the text in front of the first portion that it does not get.
-/

namespace LabelPress.Yaml

/-- The text that a reader gets, and the fault that it meets behind it if that is not all. -/
structure Source where
  text : List Char
  fault : Option Fault := none

/-- How many characters make a portion. -/
def portionSize : Nat := 4096

/-- How many characters stand in front of the portion of a character. The first two portions come together. -/
def portionStart (index : Nat) : Nat :=
  if index < 2 * portionSize then 0 else index / portionSize * portionSize

/-- Characters that a text may hold. -/
def isAllowed (c : Char) : Bool :=
  let n := c.toNat
  n = 0x09 || n = 0x0A || n = 0x0D || (0x20 ≤ n && n ≤ 0x7E) || n = 0x85 || (0xA0 ≤ n && n ≤ 0xD7FF) ||
    (0xE000 ≤ n && n ≤ 0xFFFD) || 0x10000 ≤ n

namespace Source

/-- The text in front of the portion of a character, and a fault behind it. -/
def cutAt (text : List Char) (index : Nat) (fault : Fault) : Source :=
  ⟨text.take (portionStart index), some fault⟩

/-- A text without the portions from the first on that holds a character that is not allowed. -/
def allowed (source : Source) : Source :=
  match source.text.findIdx? fun c => !isAllowed c with
  | none => source
  | some index => cutAt source.text index (.format .unprintable)

/-- What a reader gets of a text that comes in blocks. -/
def ofStream (stream : Utf8.Stream) : Source :=
  let text := unifyNewlines stream.text
  match stream.fault with
  | none => allowed ⟨text, none⟩
  | some fault => allowed (cutAt text text.length (.undecodable fault))

end Source

/-- How a reader that wants whole portions chooses the size of the next block: by what is missing of the portion, in
bytes as they came to characters in the last block. -/
def portionBlocks : Utf8.BlockRule :=
  fun bytes chars total =>
    let missing := portionSize - total % portionSize
    max Utf8.blockSize (if chars < bytes ∧ chars ≠ 0 then bytes * missing / chars else missing)

end LabelPress.Yaml
