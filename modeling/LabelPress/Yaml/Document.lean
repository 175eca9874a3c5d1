import LabelPress.Yaml.Node
import LabelPress.Yaml.Scalar

/-!
# The value of a document

Collections are built from the outside in: all scalars of a collection are read before any collection inside
it is looked into. So of several faults the one that lies least deep counts, and among those the first.
-/

namespace LabelPress.Yaml

/-- What a builder comes by: a scalar that is to be read as one of its type, or something that is no value whatever
the texts are. -/
inductive Visit where
  | scalar (tag : Tag) (text : List TextPart)
  | misuse (fault : FormatFault)
  /-- A mapping with a default key, where a moment is wanted. -/
  | momentOfMapping
  /-- A scalar is wanted of a mapping whose default key leads back to it. -/
  | endless
  deriving DecidableEq, Repr

/-- The value that a builder gets at a visit. -/
def Visit.value : Visit → Except Fault Value
  | .scalar tag text => Scalar.value tag text
  | .misuse fault => .error (.format fault)
  | .momentOfMapping => .error (.scalar .momentOfMapping)
  | .endless => .error .tooDeep

/-- What is built of a node, with the visits on the way and how deep each of them lies. -/
structure Built (α : Type) where
  visits : List (Nat × Visit)
  result : α

namespace Built

/-- The fault of a visit, with its depth. -/
def faultOf? (visit : Nat × Visit) : Option (Nat × Fault) :=
  match visit.2.value with
  | .ok _ => none
  | .error fault => some (visit.1, fault)

/-- Of some faults, the first of those that lie least deep. -/
def firstOf? : List (Nat × Fault) → Option (Nat × Fault)
  | [] => none
  | fault :: faults =>
    match firstOf? faults with
    | none => some fault
    | some other => if other.1 < fault.1 then some other else some fault

/-- The result, unless there is a fault on the way. -/
def outcome {α : Type} (b : Built α) : Except Fault α :=
  match firstOf? (b.visits.filterMap faultOf?) with
  | none => .ok b.result
  | some (_, fault) => .error fault

/-- What is built at one visit. -/
def ofVisit (depth : Nat) (visit : Visit) : Built Value :=
  ⟨[(depth, visit)], (visit.value.toOption).getD .null⟩

/-- Nothing. -/
def nothing {α : Type} : Built (List α) :=
  ⟨[], []⟩

/-- Two lists, one after the other. -/
def append {α : Type} (a b : Built (List α)) : Built (List α) :=
  ⟨a.visits ++ b.visits, a.result ++ b.result⟩

end Built

namespace Node

/-- Where a scalar is wanted, a mapping stands for what is under its default key. This is what comes of it, given
how many mappings have been gone into. -/
def wanted (tag : Tag) (links : Nat) : Node → Visit
  | .scalar _ text => if links ≠ 0 ∧ tag = .timestamp then .momentOfMapping else .scalar tag text
  | .sequence .. => .misuse .wrongShape
  | .mapping _ entries => wantedOfEntries tag (links + 1) entries
  | .loop _ _ up => if up ≤ links then .endless else .misuse .wrongShape
where
  /-- What comes of the entries of a mapping. -/
  wantedOfEntries (tag : Tag) (links : Nat) : List (Node × Node) → Visit
    | [] => .misuse .wrongShape
    | (key, v) :: entries =>
      if key.tag = .default then wanted tag links v else wantedOfEntries tag links entries

/-- Whether a type is one of collections. -/
def isCollectionTag (t : Tag) : Bool :=
  t = .sequence || t = .mapping || t = .set || t = .orderedMapping || t = .pairs

/-- The visit of a node whose type is none of collections. -/
def scalarVisit (tag : Tag) (node : Node) : Visit :=
  if tag = .other || tag = .merge || tag = .default then .misuse .unknownTag else wanted tag 0 node

/-- The visit of the key of a mapping. No collection can be one, and the default key is a text there. -/
def keyVisit (key : Node) : Visit :=
  if isCollectionTag key.tag then .misuse .badKey
  else scalarVisit (if key.tag = .default then .text else key.tag) key

/-- The collection of a type that wants mappings of one entry each. -/
def collectPairs (items : List (Built (List (Value × Value)))) (depth : Nat) : Built Value :=
  ⟨items.flatMap fun item =>
      if item.result.length = 1 then item.visits else [(depth, .misuse .wrongShape)],
    .list (items.flatMap fun item => item.result.map fun (k, v) => .tuple [k, v])⟩

/-- What is built of the entries of a mapping: those merged in and its own. What cannot be merged in is found before
any entry is read. -/
structure Entries where
  flaws : List (Nat × Visit)
  merged : Built (List (Value × Value))
  own : Built (List (Value × Value))

namespace Entries

/-- No entries. -/
def empty : Entries :=
  ⟨[], .nothing, .nothing⟩

/-- All entries of a mapping; those merged in come first. -/
def all (e : Entries) : Built (List (Value × Value)) :=
  e.merged.append e.own

/-- All entries of a mapping with what is found before them. -/
def join (e : Entries) : Built (List (Value × Value)) :=
  ⟨e.flaws ++ e.all.visits, e.all.result⟩

end Entries

/-- The collection that is part of itself stands there empty. -/
def emptyOf (tag : Tag) : Value :=
  match tag with
  | .mapping => .map []
  | .set => .set []
  | _ => .list []

mutual

/-- Builds the value of a node at a depth. -/
def build (depth : Nat) : Node → Built Value
  | .scalar tag text =>
    if isCollectionTag tag then .ofVisit (depth + 1) (.misuse .wrongShape)
    else .ofVisit depth (scalarVisit tag (.scalar tag text))
  | .sequence tag items =>
    match tag with
    | .sequence =>
      let built := buildItems (depth + 1) items
      ⟨built.visits, .list built.result⟩
    | .orderedMapping | .pairs => collectPairs (buildPairs (depth + 1) items) (depth + 1)
    | .mapping | .set => .ofVisit (depth + 1) (.misuse .wrongShape)
    | tag => .ofVisit depth (scalarVisit tag (.sequence tag items))
  | .mapping tag entries =>
    match tag with
    | .mapping =>
      let built := (buildEntries (depth + 1) entries).join
      ⟨built.visits, .map (Mapping.ofEntries built.result)⟩
    | .set =>
      let built := (buildEntries (depth + 1) entries).join
      ⟨built.visits, .set ((Mapping.ofEntries built.result).map Prod.fst)⟩
    | .sequence | .orderedMapping | .pairs => .ofVisit (depth + 1) (.misuse .wrongShape)
    | tag => .ofVisit depth (scalarVisit tag (.mapping tag entries))
  | .loop tag isMapping up =>
    if isCollectionTag tag then ⟨[], emptyOf tag⟩
    else .ofVisit depth (scalarVisit tag (.loop tag isMapping up))

/-- Builds the values of the items of a sequence. -/
def buildItems (depth : Nat) : List Node → Built (List Value)
  | [] => .nothing
  | node :: nodes =>
    let first := build depth node
    let rest := buildItems depth nodes
    ⟨first.visits ++ rest.visits, first.result :: rest.result⟩

/-- Builds the entries of the mappings in a sequence, none for anything else. -/
def buildPairs (depth : Nat) : List Node → List (Built (List (Value × Value)))
  | [] => []
  | .mapping _ entries :: nodes => buildPlainEntries depth entries :: buildPairs depth nodes
  | _ :: nodes => .nothing :: buildPairs depth nodes

/-- Builds entries whose keys may be anything. -/
def buildPlainEntries (depth : Nat) : List (Node × Node) → Built (List (Value × Value))
  | [] => .nothing
  | (key, v) :: entries =>
    let key := build depth key
    let v := build depth v
    let rest := buildPlainEntries depth entries
    ⟨key.visits ++ v.visits ++ rest.visits, (key.result, v.result) :: rest.result⟩

/-- Builds the entries of a mapping. -/
def buildEntries (depth : Nat) : List (Node × Node) → Entries
  | [] => .empty
  | (key, v) :: entries =>
    let rest := buildEntries depth entries
    if key.tag = .merge then
      let first : Entries := match v with
        | .mapping _ more => buildEntries depth more
        | .sequence _ items => buildMerged depth items
        | .loop .. => .empty
        | .scalar .. => { Entries.empty with flaws := [(depth, .misuse .badMerge)] }
      { rest with flaws := first.flaws ++ rest.flaws, merged := first.all.append rest.merged }
    else
      let key := Built.ofVisit depth (keyVisit key)
      let v := build depth v
      { rest with own := (⟨key.visits ++ v.visits, [(key.result, v.result)]⟩ : Built _).append rest.own }

/-- Builds the entries of several mappings that are merged in; the first of them counts most, so it comes
last. -/
def buildMerged (depth : Nat) : List Node → Entries
  | [] => .empty
  | .mapping _ more :: nodes =>
    let first := buildEntries depth more
    let rest := buildMerged depth nodes
    ⟨first.flaws ++ rest.flaws, rest.merged.append first.all, .nothing⟩
  | .loop _ true _ :: nodes => buildMerged depth nodes
  | _ :: nodes =>
    let rest := buildMerged depth nodes
    { rest with flaws := (depth, .misuse .badMerge) :: rest.flaws }

end

end Node

/-- Reads a text that holds one document, or none, which is null, with room for so many levels. -/
def read (room : Nat) (source : Source) : Except Fault Value := do
  match ← Node.ofSource? room source with
  | none => return .null
  | some node => (Node.build 0 node).outcome

end LabelPress.Yaml
