/-!
# Line ends

Text files end their lines with a line feed, a carriage return, or both in this order. Readers that
do not care turn all three into a line feed.
-/

namespace LabelPress

/-- Turns every line end into a single line feed. -/
def unifyNewlines : List Char → List Char
  | '\r' :: '\n' :: rest => '\n' :: unifyNewlines rest
  | '\r' :: rest => '\n' :: unifyNewlines rest
  | c :: rest => c :: unifyNewlines rest
  | [] => []

/-- The pieces of a text between its separators; a text without one is a single piece. -/
def pieces (separator : Char) : List Char → List (List Char)
  | [] => [[]]
  | c :: rest =>
    if c = separator then [] :: pieces separator rest
    else
      match pieces separator rest with
      | [] => [[c]]
      | piece :: more => (c :: piece) :: more

/-- The lines of a text whose line ends are line feeds. -/
def splitLines (cs : List Char) : List (List Char) :=
  pieces '\n' cs

end LabelPress
