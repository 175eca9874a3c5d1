import LabelPress.Yaml.BlockText
import LabelPress.Yaml.QuotedText
import LabelPress.Yaml.Source
import LabelPress.Yaml.Token

/-!
# From a text to its tokens

Tokens are taken one by one from the front of the text. Collections in block style open where a line is
indented deeper than the block around it, and close where one is indented less. Whether a scalar or a bracket
is the key of a mapping shows only at the colon behind it, so a mark is left where a key may start; the colon
confirms it, and at the end a confirmed mark becomes the token of a key and any other is dropped.
-/

namespace LabelPress.Yaml
open Scan

/-- A mark where a key may start. The colon must come on the same line and within 1024 characters; a key is
required if only one can stand here. -/
structure PendingKey where
  mark : Nat
  required : Bool
  index : Nat
  line : Nat
  column : Nat

/-- A token, or a mark that may become one. -/
inductive Lexeme where
  | token (t : Token)
  | mark (number : Nat)

/-- How far a text has been read. The lexemes stand in reverse. -/
structure LexState where
  cursor : Cursor
  lexemes : List Lexeme := []
  flowLevel : Nat := 0
  indent : Int := -1
  outerIndents : List Int := []
  keyAllowed : Bool := true
  /-- The pending key of each flow level that has one. -/
  pending : List (Nat × PendingKey) := []
  marks : Nat := 0
  /-- The confirmed marks, and whether a block mapping starts with the key. -/
  confirmed : List (Nat × Bool) := []

namespace LexState

/-- Whether the place is inside brackets. -/
def inFlow (s : LexState) : Bool := s.flowLevel ≠ 0

/-- The state with one more token. -/
def push (s : LexState) (t : Token) : LexState :=
  { s with lexemes := .token t :: s.lexemes }

/-- Reads on from where the text has been read to. -/
def scan {α : Type} (s : LexState) (action : Scan α) : Except Fault (α × LexState) := do
  let (result, cursor) ← action.run s.cursor
  return (result, { s with cursor })

/-- The state after a token of so many characters. -/
def pushSkip (s : LexState) (count : Nat) (t : Token) : Except Fault LexState := do
  let (_, s) ← s.scan (Scan.advance count)
  return s.push t

/-! ## Keys -/

/-- The pending key of the flow level. -/
def pendingKey? (s : LexState) : Option PendingKey :=
  (s.pending.find? fun entry => entry.1 = s.flowLevel).map Prod.snd

/-- Drops the pending keys that their colon can no longer reach. -/
def dropStale (s : LexState) : Except Fault LexState :=
  let isStale (key : PendingKey) : Bool :=
    key.line ≠ s.cursor.line || 1024 < s.cursor.index - key.index
  if s.pending.any fun entry => isStale entry.2 && entry.2.required then
    .error (.format .keyWithoutColon)
  else .ok { s with pending := s.pending.filter fun entry => !isStale entry.2 }

/-- Drops the pending key of the flow level. -/
def dropKey (s : LexState) : Except Fault LexState :=
  if (s.pendingKey?.map (·.required)).getD false then .error (.format .keyWithoutColon)
  else .ok { s with pending := s.pending.filter fun entry => entry.1 ≠ s.flowLevel }

/-- Leaves a mark if a key may start here. -/
def markKey (s : LexState) : Except Fault LexState :=
  if !s.keyAllowed then .ok s
  else do
    let s ← s.dropKey
    let here := s.cursor
    let key : PendingKey :=
      { mark := s.marks
        required := !s.inFlow && s.indent = here.column
        index := here.index
        line := here.line
        column := here.column }
    return { s with
      lexemes := .mark s.marks :: s.lexemes
      marks := s.marks + 1
      pending := (s.flowLevel, key) :: s.pending }

/-! ## Indentation -/

/-- Closes the blocks that are indented deeper than a column. -/
def closeBlocksWithin (column : Int) : (fuel : Nat) → LexState → LexState
  | 0, s => s
  | fuel + 1, s =>
    if s.indent ≤ column then s
    else
      match s.outerIndents with
      | [] => s
      | outer :: rest =>
        closeBlocksWithin column fuel { s.push .blockEnd with indent := outer, outerIndents := rest }

/-- Closes the blocks that are indented deeper than a column; inside brackets there are none. -/
def closeBlocks (s : LexState) (column : Int) : LexState :=
  if s.inFlow then s else closeBlocksWithin column s.outerIndents.length s

/-- Opens a block at a column if it is deeper than the block around it. -/
def openBlock (s : LexState) (column : Nat) : Bool × LexState :=
  if s.indent < column then
    (true, { s with indent := column, outerIndents := s.indent :: s.outerIndents })
  else (false, s)

/-- Opens a block here with a token, if it is deeper than the block around it. -/
def openBlockWith (s : LexState) (t : Token) : LexState :=
  match s.openBlock s.cursor.column with
  | (true, s) => s.push t
  | (false, s) => s

/-! ## Marks and brackets -/

/-- Takes a line that marks the start or the end of a document. -/
def documentMark (s : LexState) (t : Token) : Except Fault LexState := do
  let s ← (s.closeBlocks (-1)).dropKey
  let s ← s.pushSkip 3 t
  return { s with keyAllowed := false }

/-- Takes an opening bracket, which may start a key. -/
def openFlow (s : LexState) (t : Token) : Except Fault LexState := do
  let s ← (← s.markKey).pushSkip 1 t
  return { s with flowLevel := s.flowLevel + 1, keyAllowed := true }

/-- Takes a closing bracket. -/
def closeFlow (s : LexState) (t : Token) : Except Fault LexState := do
  let s ← (← s.dropKey).pushSkip 1 t
  if s.inFlow then return { s with flowLevel := s.flowLevel - 1, keyAllowed := false }
  else throw (.format .unexpectedToken)

/-- Takes a comma. -/
def flowComma (s : LexState) : Except Fault LexState := do
  let s ← (← s.dropKey).pushSkip 1 .flowEntry
  return { s with keyAllowed := true }

/-- Takes the dash of an entry. -/
def blockDash (s : LexState) : Except Fault LexState := do
  if !s.inFlow && !s.keyAllowed then throw (.format .misplacedEntry)
  let s := if s.inFlow then s else s.openBlockWith .blockSequenceStart
  let s ← (← s.dropKey).pushSkip 1 .blockEntry
  return { s with keyAllowed := true }

/-- Takes a question mark, which announces a key. -/
def keyMark (s : LexState) : Except Fault LexState := do
  if !s.inFlow && !s.keyAllowed then throw (.format .misplacedKey)
  let s := if s.inFlow then s else s.openBlockWith .blockMappingStart
  let s ← (← s.dropKey).pushSkip 1 .key
  return { s with keyAllowed := !s.inFlow }

/-- Takes a colon; it confirms the pending key, if there is one. -/
def valueMark (s : LexState) : Except Fault LexState :=
  match s.pendingKey? with
  | some key =>
    let (opens, opened) := if s.inFlow then (false, s) else s.openBlock key.column
    let confirmed : LexState := { opened with
      confirmed := (key.mark, opens) :: opened.confirmed
      pending := opened.pending.filter fun entry => entry.1 ≠ s.flowLevel
      keyAllowed := false }
    confirmed.pushSkip 1 .value
  | none => do
    if !s.inFlow && !s.keyAllowed then throw (.format .misplacedValue)
    let s := if s.inFlow then s else s.openBlockWith .blockMappingStart
    let s ← (← s.dropKey).pushSkip 1 .value
    return { s with keyAllowed := !s.inFlow }

/-! ## Names and tags -/

/-- The characters of the names of anchors, directives and tag handles. -/
def isNameChar (c : Char) : Bool :=
  c.isAlphanum || c = '-' || c = '_'

/-- The characters of a tag, the percent sign of an escape apart. -/
def isTagChar (c : Char) : Bool :=
  c.isAlphanum || "-;/?:@&=+$,_.!~*'()[]".toList.contains c

/-- Reads the escapes that stand in a row: bytes that spell text as UTF-8. -/
def escapedBytes : (fuel : Nat) → Scan (List UInt8)
  | 0 => return []
  | fuel + 1 => do
    if (← peek 0) = '%' then
      advance 1
      let byte ← peekNumber 2 .badTag
      advance 2
      return UInt8.ofNat byte :: (← escapedBytes fuel)
    else return []

/-- Reads the characters of a tag, escapes resolved. -/
def tagChars : (fuel : Nat) → Scan (List Char)
  | 0 => return []
  | fuel + 1 => do
    let run ← span isTagChar
    if (← peek 0) = '%' then
      match Utf8.decode (← escapedBytes (← bound)).toByteArray with
      | .error _ => refuse .badTag
      | .ok decoded => return run ++ decoded.toList ++ (← tagChars fuel)
    else return run

/-- Reads a tag after its handle; it must not be missing. -/
def tagSuffix : Scan String := do
  let start := (← get).index
  let chars ← tagChars (← bound)
  insist ((← get).index ≠ start) .badTag
  return String.ofList chars

/-- Reads the handle of a tag: an exclamation mark, or a name between two of them. -/
def tagHandle : Scan String := do
  insist ((← peek 0) = '!') .badTag
  if (← peek 1) = ' ' then
    advance 1
    return "!"
  else
    advance 1
    let name ← span isNameChar
    insist ((← peek 0) = '!') .badTag
    advance 1
    return String.ofList ('!' :: name ++ ['!'])

/-- Whether a tag has a handle with a name: an exclamation mark comes before the next gap. -/
def hasHandle : Scan Bool := do
  let word := ((← get).rest.drop 1).takeWhile fun c => !(c = '!' || isGap c)
  return (← peek (word.length + 1)) = '!'

/-- Reads a tag up to what must be a gap. -/
def tagBody : Scan WrittenTag := do
  let c ← peek 1
  if c = '<' then
    advance 2
    let suffix ← tagSuffix
    insist ((← peek 0) = '>') .badTag
    advance 1
    return ⟨none, suffix⟩
  else if isWideGap c then
    advance 1
    return ⟨none, "!"⟩
  else if ← hasHandle then
    return ⟨some (← tagHandle), ← tagSuffix⟩
  else
    advance 1
    return ⟨some "!", ← tagSuffix⟩

/-- Reads a tag. -/
def writtenTag : Scan WrittenTag := do
  let tag ← tagBody
  insist (isGap (← peek 0)) .badTag
  return tag

/-- Takes a tag, which may start a key. -/
def tag (s : LexState) : Except Fault LexState := do
  let (t, s) ← (← s.markKey).scan writtenTag
  return { s.push (.tag t) with keyAllowed := false }

/-- Reads the name of an anchor after its sign. -/
def anchorName : Scan String := do
  advance 1
  let name ← span isNameChar
  let c ← peek 0
  insist (!name.isEmpty && (isWideGap c || "?:,]\x7d%@`".toList.contains c)) .badAnchor
  return String.ofList name

/-- Takes an anchor or a reference to one, which may start a key. -/
def anchor (s : LexState) (t : String → Token) : Except Fault LexState := do
  let (name, s) ← (← s.markKey).scan anchorName
  return { s.push (t name) with keyAllowed := false }

/-! ## Directives -/

/-- Reads a number of a version. -/
def versionNumber : Scan Nat := do
  insist (isDigit (← peek 0)) .badDirective
  let digits := (← get).rest.takeWhile isDigit
  need (digits.length + 1)
  if digitLimit < digits.length then throw (.scalar (.integerTooLong digits.length))
  else
    advance digits.length
    return ofDigits 10 digits

/-- Reads a directive from its name on. -/
def directiveOf (name : List Char) : Scan Directive := do
  if name = "YAML".toList then
    skipWhile (· = ' ')
    let major ← versionNumber
    insist ((← peek 0) = '.') .badDirective
    advance 1
    let _ ← versionNumber
    return .version major
  else if name = "TAG".toList then
    skipWhile (· = ' ')
    let handle ← tagHandle
    insist ((← peek 0) = ' ') .badDirective
    skipWhile (· = ' ')
    return .tag handle (← tagSuffix)
  else
    skipWhile fun c => !isBreak c
    return .other

/-- Reads a directive and the rest of its line, which may hold a comment. -/
def wholeDirective : Scan Directive := do
  advance 1
  let name ← span isNameChar
  insist (!name.isEmpty && isGap (← peek 0)) .badDirective
  let d ← directiveOf name
  insist (isGap (← peek 0)) .badDirective
  skipComment
  insist (isBreakOrEnd (← peek 0)) .badDirective
  let _ ← takeBreak
  return d

/-- Takes a directive. -/
def directive (s : LexState) : Except Fault LexState := do
  let (d, s) ← (← (s.closeBlocks (-1)).dropKey).scan wholeDirective
  return { s.push (.directive d) with keyAllowed := false }

/-! ## Scalars -/

/-- Takes a quoted scalar, which may start a key. -/
def quotedScalar (s : LexState) (double : Bool) : Except Fault LexState := do
  let (text, s) ← (← s.markKey).scan (quotedText double)
  return { s.push (.scalar text false) with keyAllowed := false }

/-- Takes a plain scalar, which may start a key. -/
def plainScalar (s : LexState) : Except Fault LexState := do
  let ((text, passed), s) ← (← s.markKey).scan (plainText s.inFlow (s.indent + 1))
  return { s.push (.scalar (text.map .char) true) with keyAllowed := passed }

/-- Takes a block scalar. -/
def blockScalar (s : LexState) (folded : Bool) : Except Fault LexState := do
  let (text, s) ← (← s.dropKey).scan (blockText folded s.indent)
  return { s.push (.scalar (text.map .char) false) with keyAllowed := true }

/-! ## All tokens -/

/-- Skips spaces, comments and line ends, and tells whether there were line ends. -/
def skipBlank : (fuel : Nat) → Scan Bool
  | 0 => return false
  | fuel + 1 => do
    skipComment
    match ← takeBreak with
    | [] => return false
    | _ =>
      let _ ← skipBlank fuel
      return true

/-- Skips a byte order mark at the start of the text. -/
def skipByteOrderMark : Scan Unit := do
  if (← get).index = 0 then
    if (← peek 0) = '\uFEFF' then advance 1

/-- Skips what stands in front of the next token. -/
def skipToToken : Scan Bool := do
  skipByteOrderMark
  skipBlank (← bound)

/-- Whether a gap follows the next character. -/
def gapFollows (s : LexState) : Except Fault Bool := do
  let (c, _) ← s.scan (peek 1)
  return isWideGap c

/-- Whether a line that marks the start or the end of a document stands here. -/
def startsMark (s : LexState) (mark : Char) : Except Fault Bool := do
  if s.cursor.column ≠ 0 then return false
  let (found, _) ← s.scan (atDocumentMark mark)
  return found

/-- No token starts here, whatever follows the next character. -/
def stray (s : LexState) : Except Fault LexState := do
  let _ ← s.gapFollows
  throw (.format .strayCharacter)

/-- Takes the token that starts with the next character. -/
def takeToken (s : LexState) (c : Char) : Except Fault LexState := do
  match c with
  | '%' => if s.cursor.column = 0 then s.directive else s.stray
  | '-' =>
    if ← s.startsMark '-' then s.documentMark .documentStart
    else if ← s.gapFollows then s.blockDash
    else s.plainScalar
  | '.' => if ← s.startsMark '.' then s.documentMark .documentEnd else s.plainScalar
  | '[' => s.openFlow .flowSequenceStart
  | '\x7b' => s.openFlow .flowMappingStart
  | ']' => s.closeFlow .flowSequenceEnd
  | '\x7d' => s.closeFlow .flowMappingEnd
  | ',' => s.flowComma
  | '?' => if s.inFlow then s.keyMark else if ← s.gapFollows then s.keyMark else s.plainScalar
  | ':' => if s.inFlow then s.valueMark else if ← s.gapFollows then s.valueMark else s.plainScalar
  | '*' => s.anchor .reference
  | '&' => s.anchor .anchor
  | '!' => s.tag
  | '|' => if s.inFlow then s.stray else s.blockScalar false
  | '>' => if s.inFlow then s.stray else s.blockScalar true
  | '\'' => s.quotedScalar false
  | '"' => s.quotedScalar true
  | c => if isWideGap c || "#@`".toList.contains c then s.stray else s.plainScalar

/-- Takes what comes next, and tells whether that is the end of the text. Whether a key that is still pending can be
one shows with what has been taken. -/
def takeNext (s : LexState) : Except Fault (Bool × LexState) := do
  let (passed, s) ← s.scan skipToToken
  let s ← ({ s with keyAllowed := s.keyAllowed || (passed && !s.inFlow) } : LexState).dropStale
  let s := s.closeBlocks s.cursor.column
  let (c, s) ← s.scan (peek 0)
  if c = endMark then
    return (true, { ← (s.closeBlocks (-1)).dropKey with pending := [] })
  else
    let s ← s.takeToken c
    return (false, ← s.dropStale)

/-- Takes tokens up to the end of the text, or up to a fault. -/
def takeAll : (fuel : Nat) → LexState → LexState × Option Fault
  | 0, s => (s, some (.format .strayCharacter))
  | fuel + 1, s =>
    match s.takeNext with
    | .error fault => (s, some fault)
    | .ok (true, s) => (s, none)
    | .ok (false, s) => takeAll fuel s

/-- The tokens that a lexeme becomes. -/
def tokensOf (confirmed : List (Nat × Bool)) : Lexeme → List Token
  | .token t => [t]
  | .mark number =>
    match confirmed.find? fun entry => entry.1 = number with
    | some (_, true) => [.blockMappingStart, .key]
    | some (_, false) => [.key]
    | none => []

/-- Whether a lexeme is the mark of a key that is still pending. -/
def isPending (s : LexState) : Lexeme → Bool
  | .token _ => false
  | .mark number => s.pending.any fun entry => entry.2.mark = number

/-- The tokens that a reader can have: those in front of the first pending key. -/
def available (s : LexState) : List Token :=
  (s.lexemes.reverse.takeWhile fun l => !s.isPending l).flatMap (tokensOf s.confirmed)

end LexState

/-- The tokens of a text, and the fault that a reader meets behind them. -/
structure TokenStream where
  tokens : List Token
  fault : Option Fault := none

/-- The tokens of a text. -/
def TokenStream.ofSource (source : Source) : TokenStream :=
  let start : Cursor := { rest := source.text, fault := source.fault }
  let (s, fault) := LexState.takeAll (source.text.length + 1) { cursor := start }
  ⟨s.available, fault⟩

end LabelPress.Yaml

