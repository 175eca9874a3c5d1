import LabelPress.Text.CaseTable

/-!
# Letter case

Lower case is that of Unicode, with the small sigma that ends a word. Upper case goes as far as it can yield an ASCII
letter: the words that are compared in it are ASCII words, and a character whose upper case is no ASCII letter may be
left alone, since it would not match either way.
-/

namespace LabelPress

/-- Lower case of a character wherever it stands. Only three kinds of characters have an ASCII letter in it: the ASCII
letters, the Kelvin sign, and the dotted capital I, which becomes two characters. -/
def lowerChar (c : Char) : List Char :=
  if c.toNat < 0x80 then [c.toLower]
  else if c.toNat = 0x212A then ['k']
  else if c.toNat = 0x0130 then ['i', Char.ofNat 0x0307]
  else
    match lowerRuns.find? fun run => run.contains c.toNat with
    | some run => [Char.ofNat (c.toNat + run.offset).toNat]
    | none => [c]

/-- Whether the next of some characters is a letter with case, but for those that are passed over. -/
def meetsLetter (cs : List Char) : Bool :=
  (cs.dropWhile isCaseIgnorable).head?.any isCased

/-- The small form of a capital sigma between other characters, those before it in reverse: at the end of a word it
has a form of its own. -/
def smallSigma (before after : List Char) : Char :=
  if meetsLetter before && !meetsLetter after then 'ς' else 'σ'

/-- Lower case of characters behind others, which are given in reverse. -/
def lowerFrom (before : List Char) : List Char → List Char
  | [] => []
  | c :: after =>
    (if c = 'Σ' then [smallSigma before after] else lowerChar c) ++ lowerFrom (c :: before) after

/-- The text with its letters in lower case. -/
def lowerCase (s : String) : String :=
  String.ofList (lowerFrom [] s.toList)

/-- Upper case of the letters whose upper case is one ASCII letter: the ASCII small letters, the
dotless i and the long s. -/
def upperChar (c : Char) : Char :=
  if c.toNat = 0x0131 then 'I'
  else if c.toNat = 0x017F then 'S'
  else c.toUpper

/-- The text with its letters in upper case. -/
def upperCase (s : String) : String :=
  String.ofList (s.toList.map upperChar)

end LabelPress
