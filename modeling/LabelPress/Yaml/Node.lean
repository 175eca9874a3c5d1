import LabelPress.Yaml.Lexer
import LabelPress.Yaml.Tag

/-!
# From tokens to nodes

A document is one node: a scalar, a sequence or a mapping, each with its type. Anchors name nodes as they
are met, and a reference stands for the node of its anchor. The reader goes one level down for each collection and
has room for so many levels only. It takes the tokens as it needs them, so a fault behind them is met by a reader
that comes that far.
-/

namespace LabelPress.Yaml

/-- A node of a document. -/
inductive Node where
  | scalar (tag : Tag) (text : List TextPart)
  | sequence (tag : Tag) (items : List Node)
  | mapping (tag : Tag) (entries : List (Node × Node))
  /-- A reference to the collection so many levels up, which is thus a part of itself. -/
  | loop (tag : Tag) (isMapping : Bool) (up : Nat)

namespace Node

/-- The type of a node. -/
def tag : Node → Tag
  | .scalar t _ | .sequence t _ | .mapping t _ | .loop t _ _ => t

/-- What stands where a node is left out. -/
def missing : Node := .scalar .null []

/-- What an anchor names: a node, or a collection that is still being read and how many others are around it. -/
inductive Anchored where
  | complete (node : Node)
  | unfinished (tag : Tag) (isMapping : Bool) (level : Nat)

/-- What is left of the tokens, how many levels there may be, and what the document has defined so far. -/
structure ReadState where
  tokens : List Token
  /-- The fault behind the tokens. -/
  fault : Option Fault := none
  room : Nat
  handles : List (String × String) := []
  anchors : List (String × Anchored) := []

/-- An action that takes tokens. -/
abbrev Reading := StateT ReadState (Except Fault)

/-- Fails because of the format. -/
def refuse {α : Type} (fault : FormatFault) : Reading α :=
  throw (.format fault)

/-- The next token, if there is one. -/
def peek? : Reading (Option Token) := do
  let s ← get
  match s.tokens, s.fault with
  | t :: _, _ => return some t
  | [], some fault => throw fault
  | [], none => return none

/-- Drops the next token. -/
def drop : Reading Unit :=
  modify fun s => { s with tokens := s.tokens.tail }

/-- Drops the next token if it is a certain one, and tells whether it was. -/
def take (t : Token) : Reading Bool := do
  if (← peek?) = some t then
    drop
    return true
  else return false

/-- Whether the next token is one of a few. -/
def nextIsIn (ts : List Token) : Reading Bool := do
  match ← peek? with
  | some t => return ts.contains t
  | none => return false

/-- Drops the next token, which must be a certain one. -/
def expect (t : Token) : Reading Unit := do
  if !(← take t) then refuse .unexpectedToken

/-! ## Anchors and tags -/

/-- The node of an anchor, for a reference inside so many collections. -/
def resolve (level : Nat) (name : String) : Reading Node := do
  match (← get).anchors.find? fun entry => entry.1 = name with
  | some (_, .complete node) => return node
  | some (_, .unfinished tag isMapping outer) => return .loop tag isMapping (level - outer)
  | none => refuse .unknownAlias

/-- An anchor must be a new one. -/
def checkNew (anchor : Option String) : Reading Unit := do
  if let some name := anchor then
    if (← get).anchors.any fun entry => entry.1 = name then refuse .repeatedAnchor

/-- Says what an anchor names from now on. -/
def setAnchor (anchor : Option String) (anchored : Anchored) : Reading Unit :=
  match anchor with
  | none => return
  | some name => modify fun s => { s with anchors := (name, anchored) :: s.anchors }

/-- The full name of a tag. -/
def tagName (t : WrittenTag) : Reading String := do
  match t.handle with
  | none => return t.suffix
  | some handle =>
    match (← get).handles.find? fun entry => entry.1 = handle with
    | some (_, target) => return target ++ t.suffix
    | none => refuse .unknownHandle

/-- Takes an anchor, if there is one. -/
def takeAnchor : Reading (Option String) := do
  match ← peek? with
  | some (.anchor name) =>
    drop
    return some name
  | _ => return none

/-- Takes a tag, if there is one. -/
def takeTag : Reading (Option WrittenTag) := do
  match ← peek? with
  | some (.tag t) =>
    drop
    return some t
  | _ => return none

/-- Takes the anchor and the tag in front of a node, in either order. -/
def properties : Reading (Option String × Option String) := do
  let anchor ← takeAnchor
  let tag ← takeTag
  let anchor ← if anchor.isNone then takeAnchor else pure anchor
  match tag with
  | none => return (anchor, none)
  | some t => return (anchor, some (← tagName t))

/-- The type of a collection with a tag or none. -/
def collectionTag (given : Option String) (usual : Tag) : Tag :=
  match given with
  | none | some "!" => usual
  | some name => Tag.ofName name

/-- The type of a scalar with a tag or none. No type is spelled with half of a pair. -/
def scalarTag (given : Option String) (text : List TextPart) (plain : Bool) : Tag :=
  let spelled : Tag := ((TextPart.whole? text).map Tag.ofSpelling).getD .text
  match given with
  | none => if plain then spelled else .text
  | some "!" => spelled
  | some name => Tag.ofName name

/-! ## Nodes -/

/-- Where a node stands, which limits what it may be. -/
inductive Context where
  /-- Inside brackets. -/
  | flow
  /-- In a block sequence, or as a whole document. -/
  | block
  /-- As a key or value of a block mapping, where a sequence needs no indentation. -/
  | member
  deriving DecidableEq

/-- A scalar with its anchor. -/
def scalarNode (anchor given : Option String) (text : List TextPart) (plain : Bool) : Reading Node := do
  let node := Node.scalar (scalarTag given text plain) text
  setAnchor anchor (.complete node)
  return node

/-- A node of an anchor and a tag only, without either of which there must be more. -/
def emptyNode (anchor given : Option String) : Reading Node :=
  if anchor.isSome || given.isSome then scalarNode anchor given [] true else refuse .unexpectedToken

/-- Reads a collection inside `level` others. -/
def readCollection (level : Nat) (anchor : Option String) (tag : Tag) (isMapping : Bool)
    (content : Reading Node) : Reading Node := do
  if (← get).room ≤ level then throw .tooDeep
  setAnchor anchor (.unfinished tag isMapping level)
  let node ← content
  setAnchor anchor (.complete node)
  return node

mutual

/-- Reads a node inside `level` collections. `fuel` bounds the steps; a small multiple of the number of tokens is
enough. -/
def readNode : (fuel : Nat) → Context → (level : Nat) → Reading Node
  | 0, _, _ => refuse .unexpectedToken
  | fuel + 1, context, level => do
    match ← peek? with
    | some (.reference name) =>
      drop
      resolve level name
    | _ =>
      let (anchor, given) ← properties
      let _ ← peek?
      checkNew anchor
      readContent fuel context level anchor given

/-- Reads a node after its anchor and tag; with one of them the rest may be missing. -/
def readContent : (fuel : Nat) → Context → (level : Nat) → (anchor given : Option String) → Reading Node
  | 0, _, _, _, _ => refuse .unexpectedToken
  | fuel + 1, context, level, anchor, given => do
    let sequenceTag := collectionTag given .sequence
    let mappingTag := collectionTag given .mapping
    match ← peek? with
    | some .blockEntry =>
      if context = .member then
        readCollection level anchor sequenceTag false do
          return .sequence sequenceTag (← readDashes fuel (level + 1))
      else emptyNode anchor given
    | some (.scalar text plain) =>
      drop
      scalarNode anchor given text plain
    | some .flowSequenceStart =>
      drop
      readCollection level anchor sequenceTag false do
        return .sequence sequenceTag (← readFlowItems fuel (level + 1) true)
    | some .flowMappingStart =>
      drop
      readCollection level anchor mappingTag true do
        return .mapping mappingTag (← readFlowEntries fuel (level + 1) true)
    | some .blockSequenceStart =>
      if context ≠ .flow then
        drop
        readCollection level anchor sequenceTag false do
          return .sequence sequenceTag (← readBlockItems fuel (level + 1))
      else emptyNode anchor given
    | some .blockMappingStart =>
      if context ≠ .flow then
        drop
        readCollection level anchor mappingTag true do
          return .mapping mappingTag (← readBlockEntries fuel (level + 1))
      else emptyNode anchor given
    | _ => emptyNode anchor given

/-- Reads a node unless one of some tokens comes next, before which it may be left out. -/
def readUnless : (fuel : Nat) → Context → (level : Nat) → List Token → Reading Node
  | 0, _, _, _ => refuse .unexpectedToken
  | fuel + 1, context, level, ends => do
    if ← nextIsIn ends then return missing else readNode fuel context level

/-- Reads the entries of a block sequence, up to its end. -/
def readBlockItems : (fuel level : Nat) → Reading (List Node)
  | 0, _ => refuse .unexpectedToken
  | fuel + 1, level => do
    if ← take .blockEntry then
      let item ← readUnless fuel .block level [.blockEntry, .blockEnd]
      return item :: (← readBlockItems fuel level)
    else
      expect .blockEnd
      return []

/-- Reads the entries of a block sequence that is indented no deeper than the mapping around it. -/
def readDashes : (fuel level : Nat) → Reading (List Node)
  | 0, _ => refuse .unexpectedToken
  | fuel + 1, level => do
    if ← take .blockEntry then
      let item ← readUnless fuel .block level [.blockEntry, .key, .value, .blockEnd]
      return item :: (← readDashes fuel level)
    else return []

/-- Reads the entries of a block mapping, up to its end. -/
def readBlockEntries : (fuel level : Nat) → Reading (List (Node × Node))
  | 0, _ => refuse .unexpectedToken
  | fuel + 1, level => do
    let ends := [.key, .value, .blockEnd]
    if ← take .key then
      let key ← readUnless fuel .member level ends
      let value ← if ← take .value then readUnless fuel .member level ends else pure missing
      return (key, value) :: (← readBlockEntries fuel level)
    else
      expect .blockEnd
      return []

/-- Reads the items of a sequence in brackets, up to the closing one. An item with a key is a mapping of one
entry. -/
def readFlowItems : (fuel level : Nat) → (first : Bool) → Reading (List Node)
  | 0, _, _ => refuse .unexpectedToken
  | fuel + 1, level, first => do
    if ← take .flowSequenceEnd then return []
    if !first then expect .flowEntry
    if ← take .flowSequenceEnd then return []
    let item ←
      if ← take .key then
        readCollection level none .mapping true do
          let key ← readUnless fuel .flow (level + 1) [.value, .flowEntry, .flowSequenceEnd]
          let value ←
            if ← take .value then readUnless fuel .flow (level + 1) [.flowEntry, .flowSequenceEnd]
            else pure missing
          return .mapping .mapping [(key, value)]
      else readNode fuel .flow level
    return item :: (← readFlowItems fuel level false)

/-- Reads the entries of a mapping in brackets, up to the closing one. -/
def readFlowEntries : (fuel level : Nat) → (first : Bool) → Reading (List (Node × Node))
  | 0, _, _ => refuse .unexpectedToken
  | fuel + 1, level, first => do
    if ← take .flowMappingEnd then return []
    if !first then expect .flowEntry
    if ← take .flowMappingEnd then return []
    let entry ←
      if ← take .key then do
        let key ← readUnless fuel .flow level [.value, .flowEntry, .flowMappingEnd]
        let value ← if ← take .value then readUnless fuel .flow level [.flowEntry, .flowMappingEnd]
          else pure missing
        pure (key, value)
      else pure (← readNode fuel .flow level, missing)
    return entry :: (← readFlowEntries fuel level false)

end

/-! ## Documents -/

/-- The handles that every document knows. -/
def knownHandles : List (String × String) := [("!", "!"), ("!!", Tag.standard)]

/-- Reads the directives of a document: at most one version, which must be 1, and at most one target for
each handle. -/
def readDirectives : (fuel : Nat) → (versioned : Bool) → (handles : List (String × String)) →
    Reading (List (String × String))
  | 0, _, handles => return handles
  | fuel + 1, versioned, handles => do
    match ← peek? with
    | some (.directive d) =>
      drop
      match d with
      | .version major =>
        if versioned || major ≠ 1 then refuse .badDirective else readDirectives fuel true handles
      | .tag handle target =>
        if handles.any fun entry => entry.1 = handle then refuse .badDirective
        else readDirectives fuel versioned (handles ++ [(handle, target)])
      | .other => readDirectives fuel versioned handles
    | _ => return handles

/-- Drops the marks of the end of a document. -/
def dropEnds : (fuel : Nat) → Reading Unit
  | 0 => return
  | fuel + 1 => do
    if ← take .documentEnd then dropEnds fuel

/-- Whether directives or the mark of the start of a document come next. -/
def startsExplicitly : Reading Bool := do
  match ← peek? with
  | some (.directive _) | some .documentStart => return true
  | _ => return false

/-- Reads the one document of a text, if there is one. Another one is refused once its head has been read. -/
def readDocument : Reading (Option Node) := do
  let count := (← get).tokens.length
  if (← peek?).isNone then return none
  let explicit ← startsExplicitly
  let handles ← readDirectives count false []
  modify fun s => { s with handles := handles ++ knownHandles }
  if explicit then expect .documentStart
  let omitted := (← peek?).isNone || (← peek?) = some .documentEnd || (← startsExplicitly)
  let node ← if explicit && omitted then pure missing else readNode (3 * count + 3) .block 0
  dropEnds count
  if (← peek?).isNone then return some node
  let _ ← readDirectives count false []
  expect .documentStart
  refuse .secondDocument

/-- The node of the document that a text holds, if it holds one, for a reader that has room for so many levels. -/
def ofSource? (room : Nat) (source : Source) : Except Fault (Option Node) :=
  let stream := TokenStream.ofSource source
  readDocument.run' { tokens := stream.tokens, fault := stream.fault, room }

end Node
end LabelPress.Yaml
