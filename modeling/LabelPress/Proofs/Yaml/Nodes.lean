import LabelPress.Proofs.Yaml.Tokens
import LabelPress.Yaml.Node

/-!
# What reading nodes fails for

A reader takes tokens from the front and fails for the format, for the fault behind the tokens, or because there is no
room for a level; for the last it must have met more tokens that open levels than it has room for. If it comes to a
document, it has met no fault behind the tokens (`Node.readDocument_meetsEnd`). So the node of a text fails for what is
to be found in the text, or because it is nested too deep (`Node.ofSource?_endsIn`).
-/

namespace LabelPress.Yaml

/-- Whether a level of a document may start with a token. -/
def Token.opens : Token → Bool
  | .blockSequenceStart | .blockMappingStart | .flowSequenceStart | .flowMappingStart | .blockEntry | .key => true
  | _ => false

namespace Node

/-- How many levels tokens may open at the most. -/
def levelsOf (tokens : List Token) : Nat :=
  tokens.countP Token.opens

/-- A state that a reader comes to from another one: it has taken tokens, and all that bounds it is as before. -/
structure ReadState.Follows (before after : ReadState) : Prop where
  tokens : after.tokens <:+ before.tokens
  fault : after.fault = before.fault
  room : after.room = before.room

/-- The faults that a reader inside some levels may come to. -/
inductive ReadState.Blames (level : Nat) (s : ReadState) : Fault → Prop
  | format (fault : FormatFault) : Blames level s (.format fault)
  | behind {fault : Fault} (h : s.fault = some fault) : Blames level s fault
  | tooDeep (h : s.room < level + levelsOf s.tokens) : Blames level s .tooDeep

/-- From any state an action inside some levels takes tokens, or fails as a reader there may. -/
def Reading.Stays {α : Type} (level : Nat) (action : Reading α) : Prop :=
  ∀ s, EndsIn (fun r => s.Follows r.2) (s.Blames level) (action.run s)

variable {α β : Type} {level : Nat} {s s' : ReadState}

namespace ReadState

theorem Follows.refl (s : ReadState) : s.Follows s :=
  ⟨List.suffix_rfl, rfl, rfl⟩

theorem Follows.trans {s'' : ReadState} (h : s.Follows s') (h' : s'.Follows s'') : s.Follows s'' :=
  ⟨h'.tokens.trans h.tokens, h'.fault.trans h.fault, h'.room.trans h.room⟩

/-- What is to blame for a fault further on is to blame for it from the start. -/
theorem Follows.blames {fault : Fault} (h : s.Follows s') (hfault : s'.Blames level fault) : s.Blames level fault := by
  cases hfault with
  | format fault => exact .format fault
  | behind hbehind => exact .behind (h.fault ▸ hbehind)
  | tooDeep hdeep =>
    have hle : levelsOf s'.tokens ≤ levelsOf s.tokens := h.tokens.sublist.countP_le
    rw [h.room] at hdeep
    exact .tooDeep (by omega)

/-- Behind a token that opens a level, a reader may be one level further down. -/
theorem Follows.blames_opening {fault : Fault} {t : Token} {rest : List Token} (htokens : s.tokens = t :: rest)
    (ht : t.opens = true) (h : ({ s with tokens := rest } : ReadState).Follows s')
    (hfault : s'.Blames (level + 1) fault) : s.Blames level fault := by
  cases h.blames hfault with
  | format fault => exact .format fault
  | behind hbehind => exact .behind hbehind
  | tooDeep hdeep =>
    refine .tooDeep ?_
    rw [htokens, levelsOf, List.countP_cons_of_pos ht]
    change s.room < level + 1 + levelsOf rest at hdeep
    change s.room < level + (levelsOf rest + 1)
    omega

/-- After steps that lead on, an action goes on from the state that they lead to. -/
theorem Follows.endsIn {r : Except Fault (α × ReadState)} (h : s.Follows s')
    (hr : EndsIn (fun r => s'.Follows r.2) (s'.Blames level) r) :
    EndsIn (fun r => s.Follows r.2) (s.Blames level) r :=
  hr.mono (fun _ => h.trans) fun _ => h.blames

end ReadState

open ReadState

theorem pure_stays (x : α) : Reading.Stays level (pure x) :=
  fun s => Follows.refl s

theorem get_stays : Reading.Stays level get :=
  fun s => Follows.refl s

theorem refuse_stays (fault : FormatFault) : Reading.Stays level (refuse fault : Reading α) :=
  fun _ => Blames.format fault

/-- Further down there is less room. -/
theorem Reading.Stays.deeper {action : Reading α} (h : Reading.Stays level action) :
    Reading.Stays (level + 1) action := by
  refine fun s => (h s).mono (fun _ => id) fun fault hfault => ?_
  cases hfault with
  | format fault => exact .format fault
  | behind hbehind => exact .behind hbehind
  | tooDeep hdeep => exact .tooDeep (by omega)

theorem Reading.Stays.bind {action : Reading α} {next : α → Reading β} (h : Reading.Stays level action)
    (hnext : ∀ x, Reading.Stays level (next x)) : Reading.Stays level (action >>= next) :=
  fun s => (h s).bind fun r hr => hr.endsIn (hnext r.1 r.2)

/-! ## Looking at the next token -/

/-- A look at the next token fails for nothing but the fault behind the tokens, and sees their end only if there is
none. -/
theorem peek?_cases (s : ReadState) :
    peek?.run s = .ok (s.tokens.head?, s) ∧ (s.tokens = [] → s.fault = none) ∨
      ∃ fault, s.fault = some fault ∧ peek?.run s = .error fault := by
  obtain ⟨tokens, fault⟩ := s
  cases tokens with
  | cons t rest => exact .inl ⟨rfl, fun h => nomatch h⟩
  | nil =>
    cases fault with
    | none => exact .inl ⟨rfl, fun _ => rfl⟩
    | some fault => exact .inr ⟨fault, rfl, rfl⟩

/-- After a look at the next token an action goes on from the same state. -/
theorem endsIn_peek?_bind {p : β × ReadState → Prop} {next : Option Token → Reading β} {s : ReadState}
    (hnext : (s.tokens = [] → s.fault = none) → EndsIn p (s.Blames level) ((next s.tokens.head?).run s)) :
    EndsIn p (s.Blames level) ((peek? >>= next).run s) := by
  rw [StateT.run_bind]
  rcases peek?_cases s with ⟨hrun, hfault⟩ | ⟨fault, hfault, hrun⟩
  · rw [hrun]
    exact hnext hfault
  · rw [hrun]
    exact Blames.behind hfault

theorem peek?_stays : Reading.Stays level peek? := by
  intro s
  rcases peek?_cases s with ⟨hrun, -⟩ | ⟨fault, hfault, hrun⟩
  · rw [hrun]
    exact Follows.refl s
  · rw [hrun]
    exact Blames.behind hfault

theorem drop_stays : Reading.Stays level drop :=
  fun s => ⟨List.tail_suffix s.tokens, rfl, rfl⟩

theorem take_stays (t : Token) : Reading.Stays level (take t) := by
  refine peek?_stays.bind fun found => ?_
  split
  · exact drop_stays.bind fun _ => pure_stays _
  · exact pure_stays _

theorem nextIsIn_stays (ts : List Token) : Reading.Stays level (nextIsIn ts) := by
  refine peek?_stays.bind fun found => ?_
  split <;> exact pure_stays _

theorem expect_stays (t : Token) : Reading.Stays level (expect t) := by
  refine (take_stays t).bind fun taken => ?_
  split
  · exact refuse_stays _
  · exact pure_stays _

/-- An action one level further down, behind a token that opens the level. -/
theorem endsIn_drop_bind {next : Unit → Reading α} {t : Token} (hhead : s.tokens.head? = some t)
    (ht : t.opens = true) (hnext : Reading.Stays (level + 1) (next ())) :
    EndsIn (fun r => s.Follows r.2) (s.Blames level) ((drop >>= next).run s) := by
  obtain ⟨rest, htokens⟩ := List.head?_eq_some_iff.1 hhead
  have hdrop : s.Follows { s with tokens := rest } := ⟨by rw [htokens]; exact List.suffix_cons t rest, rfl, rfl⟩
  rw [StateT.run_bind]
  change EndsIn _ _ ((next ()).run { s with tokens := s.tokens.tail })
  rw [htokens, List.tail_cons]
  exact (hnext _).mono (fun _ => hdrop.trans) fun _ => (Follows.refl _).blames_opening htokens ht

/-- An action one level further down, if a token that opens the level is taken. -/
theorem take_bind_stays {yes no : Reading α} {t : Token} (ht : t.opens = true)
    (hyes : Reading.Stays (level + 1) yes) (hno : Reading.Stays level no) :
    Reading.Stays level (do if ← take t then yes else no) := by
  intro s
  unfold take
  rw [bind_assoc]
  refine endsIn_peek?_bind fun _ => ?_
  by_cases hhead : s.tokens.head? = some t
  · rw [if_pos hhead, bind_assoc]
    exact endsIn_drop_bind hhead ht hyes
  · rw [if_neg hhead]
    exact hno s

/-! ## Anchors and tags -/

theorem resolve_stays (name : String) (inside : Nat) : Reading.Stays level (resolve inside name) := by
  refine get_stays.bind fun s => ?_
  split
  · exact pure_stays _
  · exact pure_stays _
  · exact refuse_stays _

theorem checkNew_stays (anchor : Option String) : Reading.Stays level (checkNew anchor) := by
  unfold checkNew
  split
  · refine get_stays.bind fun s => ?_
    split
    · exact refuse_stays _
    · exact pure_stays _
  · exact pure_stays _

theorem setAnchor_stays (anchor : Option String) (anchored : Anchored) :
    Reading.Stays level (setAnchor anchor anchored) := by
  cases anchor with
  | none => exact pure_stays _
  | some name => exact fun s => ⟨List.suffix_rfl, rfl, rfl⟩

theorem tagName_stays (t : WrittenTag) : Reading.Stays level (tagName t) := by
  unfold tagName
  split
  · exact pure_stays _
  · refine get_stays.bind fun s => ?_
    split
    · exact pure_stays _
    · exact refuse_stays _

theorem takeAnchor_stays : Reading.Stays level takeAnchor := by
  refine peek?_stays.bind fun found => ?_
  split
  · exact drop_stays.bind fun _ => pure_stays _
  · exact pure_stays _

theorem takeTag_stays : Reading.Stays level takeTag := by
  refine peek?_stays.bind fun found => ?_
  split
  · exact drop_stays.bind fun _ => pure_stays _
  · exact pure_stays _

theorem properties_stays : Reading.Stays level properties := by
  refine takeAnchor_stays.bind fun anchor => takeTag_stays.bind fun tag => ?_
  cases tag with
  | none =>
    cases anchor with
    | none => exact takeAnchor_stays.bind fun _ => pure_stays _
    | some name => exact (pure_stays _).bind fun _ => pure_stays _
  | some t =>
    cases anchor with
    | none => exact takeAnchor_stays.bind fun _ => (tagName_stays t).bind fun _ => pure_stays _
    | some name => exact (pure_stays _).bind fun _ => (tagName_stays t).bind fun _ => pure_stays _

theorem scalarNode_stays (anchor given : Option String) (text : List TextPart) (plain : Bool) :
    Reading.Stays level (scalarNode anchor given text plain) :=
  (setAnchor_stays _ _).bind fun _ => pure_stays _

theorem emptyNode_stays (anchor given : Option String) : Reading.Stays level (emptyNode anchor given) := by
  unfold emptyNode
  split
  · exact scalarNode_stays _ _ _ _
  · exact refuse_stays _

/-! ## Nodes -/

/-- A collection fails for want of room only if the state that it is read from lets it. -/
theorem readCollection_endsIn {inside : Nat} {content : Reading Node} (hcontent : Reading.Stays level content)
    (hroom : s.room ≤ inside → s.Blames level .tooDeep) (anchor : Option String) (tag : Tag) (isMapping : Bool) :
    EndsIn (fun r => s.Follows r.2) (s.Blames level)
      ((readCollection inside anchor tag isMapping content).run s) := by
  unfold readCollection
  rw [StateT.run_bind, StateT.run_get]
  change EndsIn _ _ (StateT.run (if s.room ≤ inside then _ else _ : Reading Node) s)
  split
  · next h => exact hroom h
  · exact ((setAnchor_stays _ _).bind fun _ => hcontent.bind fun _ => (setAnchor_stays _ _).bind fun _ =>
      pure_stays _) s

/-- A collection behind the token that opens it. -/
theorem readCollection_stays {content : Reading Node} (hcontent : Reading.Stays (level + 1) content)
    (anchor : Option String) (tag : Tag) (isMapping : Bool) :
    Reading.Stays (level + 1) (readCollection level anchor tag isMapping content) :=
  fun _ => readCollection_endsIn hcontent (fun h => .tooDeep (by omega)) anchor tag isMapping

/-- What holds of all readers of nodes with so much fuel. -/
structure ReadersStay (fuel : Nat) : Prop where
  node : ∀ context level, Reading.Stays level (readNode fuel context level)
  content : ∀ context level anchor given, Reading.Stays level (readContent fuel context level anchor given)
  nodeUnless : ∀ context level ends, Reading.Stays level (readUnless fuel context level ends)
  blockItems : ∀ level, Reading.Stays level (readBlockItems fuel level)
  /-- The level of dashes has no token of its own in front of the first one. -/
  dashes : ∀ level, Reading.Stays level (readDashes fuel (level + 1))
  blockEntries : ∀ level, Reading.Stays level (readBlockEntries fuel level)
  flowItems : ∀ level first, Reading.Stays level (readFlowItems fuel level first)
  flowEntries : ∀ level first, Reading.Stays level (readFlowEntries fuel level first)

section step
variable {fuel : Nat} (ih : ReadersStay fuel)

theorem ReadersStay.zero : ReadersStay 0 := by
  constructor
  · exact fun _ _ => by rw [readNode]; exact refuse_stays _
  · exact fun _ _ _ _ => by rw [readContent]; exact refuse_stays _
  · exact fun _ _ _ => by rw [readUnless]; exact refuse_stays _
  · exact fun _ => by rw [readBlockItems]; exact refuse_stays _
  · exact fun _ => by rw [readDashes]; exact refuse_stays _
  · exact fun _ => by rw [readBlockEntries]; exact refuse_stays _
  · exact fun _ _ => by rw [readFlowItems]; exact refuse_stays _
  · exact fun _ _ => by rw [readFlowEntries]; exact refuse_stays _

include ih

theorem readNode_stays (context : Context) (level : Nat) :
    Reading.Stays level (readNode (fuel + 1) context level) := by
  unfold readNode
  refine peek?_stays.bind fun found => ?_
  split
  · exact drop_stays.bind fun _ => resolve_stays _ _
  · exact properties_stays.bind fun _ => peek?_stays.bind fun _ => (checkNew_stays _).bind fun _ =>
      ih.content context level _ _

theorem readContent_stays (context : Context) (level : Nat) (anchor given : Option String) :
    Reading.Stays level (readContent (fuel + 1) context level anchor given) := by
  intro s
  unfold readContent
  refine endsIn_peek?_bind fun _ => ?_
  split
  · next hhead =>
    split
    · refine readCollection_endsIn ((ih.dashes level).bind fun _ => pure_stays _) (fun h => ?_) _ _ _
      obtain ⟨rest, htokens⟩ := List.head?_eq_some_iff.1 hhead
      refine .tooDeep ?_
      rw [htokens, levelsOf, List.countP_cons_of_pos rfl]
      omega
    · exact emptyNode_stays _ _ s
  · exact (drop_stays.bind fun _ => scalarNode_stays _ _ _ _) s
  · next hhead =>
    exact endsIn_drop_bind hhead rfl (readCollection_stays ((ih.flowItems _ _).bind fun _ => pure_stays _) _ _ _)
  · next hhead =>
    exact endsIn_drop_bind hhead rfl (readCollection_stays ((ih.flowEntries _ _).bind fun _ => pure_stays _) _ _ _)
  · next hhead =>
    split
    · exact endsIn_drop_bind hhead rfl (readCollection_stays ((ih.blockItems _).bind fun _ => pure_stays _) _ _ _)
    · exact emptyNode_stays _ _ s
  · next hhead =>
    split
    · exact endsIn_drop_bind hhead rfl (readCollection_stays ((ih.blockEntries _).bind fun _ => pure_stays _) _ _ _)
    · exact emptyNode_stays _ _ s
  · exact emptyNode_stays _ _ s

theorem readUnless_stays (context : Context) (level : Nat) (ends : List Token) :
    Reading.Stays level (readUnless (fuel + 1) context level ends) := by
  unfold readUnless
  refine (nextIsIn_stays ends).bind fun found => ?_
  split
  · exact pure_stays _
  · exact ih.node context level

theorem readBlockItems_stays (level : Nat) : Reading.Stays level (readBlockItems (fuel + 1) level) := by
  unfold readBlockItems
  refine (take_stays _).bind fun taken => ?_
  split
  · exact (ih.nodeUnless _ _ _).bind fun _ => (ih.blockItems _).bind fun _ => pure_stays _
  · exact (expect_stays _).bind fun _ => pure_stays _

/-- Every dash may open the level, so the first one does. -/
theorem readDashes_stays (level : Nat) : Reading.Stays level (readDashes (fuel + 1) (level + 1)) := by
  unfold readDashes
  exact take_bind_stays rfl ((ih.nodeUnless _ _ _).bind fun _ => (ih.dashes level).deeper.bind fun _ => pure_stays _)
    (pure_stays _)

/-- What follows a key goes on whether the key has a value or not. -/
theorem keyValue_stays (context : Context) (level : Nat) (keyEnds valueEnds : List Token)
    {next : Node → Node → Reading α} (hnext : ∀ key value, Reading.Stays level (next key value)) :
    Reading.Stays level (do
      let key ← readUnless fuel context level keyEnds
      let value ← if ← take .value then readUnless fuel context level valueEnds else pure missing
      next key value) := by
  refine (ih.nodeUnless _ _ _).bind fun key => (take_stays _).bind fun taken => ?_
  split
  · exact (ih.nodeUnless _ _ _).bind fun value => hnext key value
  · exact (pure_stays _).bind fun value => hnext key value

theorem readBlockEntries_stays (level : Nat) : Reading.Stays level (readBlockEntries (fuel + 1) level) := by
  unfold readBlockEntries
  refine (take_stays _).bind fun taken => ?_
  split
  · exact keyValue_stays ih _ _ _ _ fun _ _ => (ih.blockEntries level).bind fun _ => pure_stays _
  · exact (expect_stays _).bind fun _ => pure_stays _

omit ih in
/-- Between two items there is a comma, and in front of the first one none. -/
theorem afterComma_stays {level : Nat} (first : Bool) {next : Reading α}
    (hnext : Reading.Stays level next) : Reading.Stays level (do
      if !first then expect .flowEntry
      next) := by
  cases first with
  | true => exact hnext
  | false => exact (expect_stays _).bind fun _ => hnext

theorem readFlowItems_stays (level : Nat) (first : Bool) :
    Reading.Stays level (readFlowItems (fuel + 1) level first) := by
  unfold readFlowItems
  refine (take_stays _).bind fun taken => ?_
  split
  · exact pure_stays _
  · refine afterComma_stays first ?_
    refine (take_stays _).bind fun taken => ?_
    split
    · exact pure_stays _
    · refine take_bind_stays rfl ?_ ?_
      · exact (readCollection_stays (keyValue_stays ih _ _ _ _ fun _ _ => pure_stays _) _ _ _).bind fun _ =>
          (ih.flowItems level false).deeper.bind fun _ => pure_stays _
      · exact (ih.node _ level).bind fun _ => (ih.flowItems level false).bind fun _ => pure_stays _

theorem readFlowEntries_stays (level : Nat) (first : Bool) :
    Reading.Stays level (readFlowEntries (fuel + 1) level first) := by
  unfold readFlowEntries
  refine (take_stays _).bind fun taken => ?_
  split
  · exact pure_stays _
  · refine afterComma_stays first ?_
    refine (take_stays _).bind fun taken => ?_
    split
    · exact pure_stays _
    · refine (take_stays _).bind fun taken => ?_
      split
      · exact keyValue_stays ih _ _ _ _ fun _ _ => (pure_stays _).bind fun _ =>
          (ih.flowEntries level false).bind fun _ => pure_stays _
      · exact (ih.node _ level).bind fun _ => (pure_stays _).bind fun _ =>
          (ih.flowEntries level false).bind fun _ => pure_stays _

theorem ReadersStay.succ : ReadersStay (fuel + 1) where
  node := readNode_stays ih
  content := readContent_stays ih
  nodeUnless := readUnless_stays ih
  blockItems := readBlockItems_stays ih
  dashes := readDashes_stays ih
  blockEntries := readBlockEntries_stays ih
  flowItems := readFlowItems_stays ih
  flowEntries := readFlowEntries_stays ih

end step

end Node
end LabelPress.Yaml
