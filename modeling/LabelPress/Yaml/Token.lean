import LabelPress.Text.Part

/-!
# Tokens of YAML

Brackets and separators of collections, scalars, and what may stand before a node. Collections in block
style have no brackets of their own; tokens for them come from the indentation.
-/

namespace LabelPress.Yaml

/-- A tag as written: a suffix after a handle that is to be looked up, or a whole name. -/
structure WrittenTag where
  handle : Option String
  suffix : String
  deriving DecidableEq, Repr

/-- A directive at the head of a document. -/
inductive Directive where
  | version (major : Nat)
  | tag (handle target : String)
  | other
  deriving DecidableEq, Repr

/-- A token. -/
inductive Token where
  | directive (d : Directive)
  | documentStart
  | documentEnd
  | blockSequenceStart
  | blockMappingStart
  | blockEnd
  | flowSequenceStart
  | flowSequenceEnd
  | flowMappingStart
  | flowMappingEnd
  | blockEntry
  | flowEntry
  | key
  | value
  | reference (name : String)
  | anchor (name : String)
  | tag (t : WrittenTag)
  /-- A scalar; `plain` if it has neither quotes nor a block header. -/
  | scalar (text : List TextPart) (plain : Bool)
  deriving DecidableEq, Repr

end LabelPress.Yaml
