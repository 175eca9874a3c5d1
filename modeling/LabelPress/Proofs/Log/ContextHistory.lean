import LabelPress.Proofs.Log.Context
import LabelPress.Proofs.Text.Cut

/-!
# The context over a history

A field of the context has the value that it was given last, and it stands where it was put when it last came to be
there. Both are told from the steps of the history: the value from the last step that touched the field
(`State.IsLastSet`), and the order from the steps that introduced the fields that are there (`State.IsIntroduced`).
A line for people shows the fields as they then are, between the level and the message (`State.context_follows`).
-/

namespace LabelPress.Log

namespace State

open Context (keys last?)

variable {st before mid : State} {s t : Step} {steps : List Step} {key : String} {v : Value} {i j : Nat}

/-! ## The history of a field -/

/-- A step of a history, by its number, with the state before it. -/
def Happens (st : State) (steps : List Step) (i : Nat) (before : State) (s : Step) : Prop :=
  steps[i]? = some s ∧ before = st.run (steps.take i)

/-- The last step of a history that touched a field set it, to this value. -/
def IsLastSet (st : State) (steps : List Step) (key : String) (v : Value) : Prop :=
  ∃ i before s, st.Happens steps i before s ∧ last? (before.sets s) key = some v ∧
    ∀ j mid t, i < j → st.Happens steps j mid t → ¬mid.Touches t key

/-- A field that was not there was brought in by a step, told by its number and the place at which it names the field,
and has been there ever since. -/
structure IsIntroduced (st : State) (steps : List Step) (key : String) (place : Nat × Nat) : Prop where
  named : ∃ before s, st.Happens steps place.1 before s ∧ key ∉ before.session.context.keys ∧
    key ∈ keys (before.sets s) ∧ place.2 = (keys (before.sets s)).idxOf key
  stays : ∀ j mid t, place.1 < j → st.Happens steps j mid t → key ∈ mid.session.context.keys
  stayed : key ∈ (st.run steps).session.context.keys

theorem Happens.lt_length (h : st.Happens steps i before s) : i < steps.length :=
  (List.getElem?_eq_some_iff.1 h.1).1

theorem Happens.unique {other : State} (h : st.Happens steps i before s) (hother : st.Happens steps i other t) :
    before = other ∧ s = t :=
  ⟨h.2.trans hother.2.symm, Option.some.inj (h.1.symm.trans hother.1)⟩

theorem happens_concat : st.Happens (steps ++ [s]) i before t ↔
    st.Happens steps i before t ∨ i = steps.length ∧ before = st.run steps ∧ t = s := by
  unfold Happens
  rcases Nat.lt_trichotomy i steps.length with hlt | rfl | hgt
  · rw [List.getElem?_append_left hlt, List.take_append_of_le_length (Nat.le_of_lt hlt),
      or_iff_left fun h => Nat.ne_of_lt hlt h.1]
  · rw [List.getElem?_concat_length, List.take_left, List.getElem?_eq_none (Nat.le_refl _)]
    simp [eq_comm, and_comm]
  · have hlength : (steps ++ [s]).length ≤ i := by rwa [List.length_append]
    rw [List.getElem?_eq_none hlength, List.getElem?_eq_none (Nat.le_of_lt hgt)]
    simp [Nat.ne_of_gt hgt]

theorem Happens.concat (h : st.Happens steps i before t) (s : Step) : st.Happens (steps ++ [s]) i before t :=
  happens_concat.2 (.inl h)

theorem happens_last (st : State) (steps : List Step) (s : Step) :
    st.Happens (steps ++ [s]) steps.length (st.run steps) s :=
  happens_concat.2 (.inr ⟨rfl, rfl, rfl⟩)

/-- One more step sets the field, or what set it last is what did so before. -/
theorem isLastSet_concat : st.IsLastSet (steps ++ [s]) key v ↔
    last? ((st.run steps).sets s) key = some v ∨ ¬(st.run steps).Touches s key ∧ st.IsLastSet steps key v := by
  constructor
  · rintro ⟨i, before, t, hat, hset, hlast⟩
    rcases happens_concat.1 hat with hearlier | ⟨rfl, rfl, rfl⟩
    · refine .inr ⟨hlast _ _ _ hearlier.lt_length (st.happens_last steps s), ?_⟩
      exact ⟨i, before, t, hearlier, hset, fun j mid u hlt hafter => hlast j mid u hlt (hafter.concat s)⟩
    · exact .inl hset
  · rintro (hset | ⟨huntouched, i, before, t, hat, hset, hlast⟩)
    · refine ⟨steps.length, _, s, st.happens_last steps s, hset, fun j mid u hlt hafter => ?_⟩
      rcases happens_concat.1 hafter with hearlier | ⟨rfl, -, -⟩
      · exact absurd hearlier.lt_length (Nat.lt_asymm hlt)
      · exact absurd hlt (Nat.lt_irrefl _)
    · refine ⟨i, before, t, hat.concat s, hset, fun j mid u hlt hafter => ?_⟩
      rcases happens_concat.1 hafter with hearlier | ⟨-, rfl, rfl⟩
      · exact hlast j mid u hlt hearlier
      · exact huntouched

/-- **A field has the value that it was set to last**, if it has not been taken away since. -/
theorem get?_run_iff (hempty : st.session.context = []) (steps : List Step) (key : String) (v : Value) :
    (st.run steps).session.context.get? key = some v ↔ st.IsLastSet steps key v := by
  induction steps using List.reverseRecOn with
  | nil =>
    have hnone : ¬st.IsLastSet [] key v := fun ⟨i, _, _, hat, _⟩ => Nat.not_lt_zero i hat.lt_length
    refine iff_of_false (fun h => ?_) hnone
    change Context.get? st.session.context key = some v at h
    rw [hempty] at h
    cases h
  | append_singleton steps s ih =>
    rw [run_concat, get?_step, isLastSet_concat, ← ih, Touches, Context.mem_keys_iff_last?]
    cases last? ((st.run steps).sets s) key with
    | some w => simp
    | none => cases s.removes key <;> simp

theorem nodup_keys_run (hempty : st.session.context = []) (steps : List Step) :
    (st.run steps).session.context.keys.Nodup := by
  induction steps using List.reverseRecOn with
  | nil =>
    have hnone : (st.run []).session.context.keys = [] := congrArg keys hempty
    rw [hnone]
    exact .nil
  | append_singleton steps s ih =>
    rw [run_concat]
    exact nodup_keys_step ih s

/-! ## The order of the fields -/

/-- The order of the steps, and within a step that in which it names fields. -/
def Precedes (a b : Nat × Nat) : Prop :=
  a.1 < b.1 ∨ a.1 = b.1 ∧ a.2 < b.2

namespace IsIntroduced

variable {a b : Nat × Nat}

theorem not_lt (ha : st.IsIntroduced steps key a) (hb : st.IsIntroduced steps key b) : ¬a.1 < b.1 := by
  intro hlt
  obtain ⟨before, s, hat, habsent, -⟩ := hb.named
  exact habsent (ha.stays _ _ _ hlt hat)

theorem unique (ha : st.IsIntroduced steps key a) (hb : st.IsIntroduced steps key b) : a = b := by
  have hstep : a.1 = b.1 := Nat.le_antisymm (Nat.not_lt.1 (hb.not_lt ha)) (Nat.not_lt.1 (ha.not_lt hb))
  obtain ⟨before, s, hat, -, -, hplace⟩ := ha.named
  obtain ⟨other, t, hother, -, -, hplace'⟩ := hb.named
  obtain ⟨rfl, rfl⟩ := hat.unique (hstep ▸ hother)
  exact Prod.ext hstep (hplace.trans hplace'.symm)

theorem lt_length (h : st.IsIntroduced steps key a) : a.1 < steps.length := by
  obtain ⟨_, _, hat, -⟩ := h.named
  exact hat.lt_length

/-- A field that is still there after one more step was introduced where it was. -/
theorem concat (h : st.IsIntroduced steps key a) (hstays : key ∈ (st.run (steps ++ [s])).session.context.keys) :
    st.IsIntroduced (steps ++ [s]) key a where
  named := by
    obtain ⟨before, t, hat, hnamed⟩ := h.named
    exact ⟨before, t, hat.concat s, hnamed⟩
  stays j mid t hlt hafter := by
    rcases happens_concat.1 hafter with hearlier | ⟨-, rfl, -⟩
    · exact h.stays j mid t hlt hearlier
    · exact h.stayed
  stayed := hstays

theorem last (hnamed : key ∈ keys ((st.run steps).sets s)) (habsent : key ∉ (st.run steps).session.context.keys)
    (hstays : key ∈ (st.run (steps ++ [s])).session.context.keys) :
    st.IsIntroduced (steps ++ [s]) key (steps.length, (keys ((st.run steps).sets s)).idxOf key) where
  named := ⟨_, s, st.happens_last steps s, habsent, hnamed, rfl⟩
  stays j mid t hlt hafter := by
    have hlength := hafter.lt_length
    rw [List.length_append] at hlength
    exact absurd hlt (Nat.not_lt.2 (Nat.le_of_lt_succ hlength))
  stayed := hstays

end IsIntroduced

/-- **Fields stand in the order in which they were introduced.** -/
theorem pairwise_run (hempty : st.session.context = []) (steps : List Step) :
    (∀ key ∈ (st.run steps).session.context.keys, ∃ place, st.IsIntroduced steps key place) ∧
    (st.run steps).session.context.keys.Pairwise fun key other =>
      ∃ a b, st.IsIntroduced steps key a ∧ st.IsIntroduced steps other b ∧ Precedes a b := by
  induction steps using List.reverseRecOn with
  | nil =>
    have hnone : (st.run []).session.context.keys = [] := congrArg keys hempty
    rw [hnone]
    exact ⟨fun _ hmem => absurd hmem List.not_mem_nil, .nil⟩
  | append_singleton steps s ih =>
    obtain ⟨hplaces, horder⟩ := ih
    obtain ⟨new, hkeys, hnew⟩ := (st.run steps).keys_step s
    rw [← run_concat] at hkeys
    -- What stays was introduced by an earlier step, and what is new by this one.
    have hstays : ∀ {key}, key ∈ (st.run steps).session.context.keys.filter (fun key => !s.removes key) →
        key ∈ (st.run (steps ++ [s])).session.context.keys := fun hmem => hkeys ▸ List.mem_append_left new hmem
    have hcomes : ∀ {key}, key ∈ new → st.IsIntroduced (steps ++ [s]) key
        (steps.length, (keys ((st.run steps).sets s)).idxOf key) := by
      intro key hmem
      obtain ⟨hnamed, habsent⟩ := (hnew.mem_iff key).1 hmem
      exact .last hnamed habsent (hkeys ▸ List.mem_append_right _ hmem)
    refine ⟨fun key hmem => ?_, ?_⟩
    · rw [hkeys, List.mem_append] at hmem
      rcases hmem with hold | hin
      · obtain ⟨place, hplace⟩ := hplaces key (List.mem_of_mem_filter hold)
        exact ⟨place, hplace.concat (hstays hold)⟩
      · exact ⟨_, hcomes hin⟩
    · rw [hkeys]
      refine List.pairwise_append.2 ⟨?_, ?_, fun key hold other hin => ?_⟩
      · refine (horder.filter _).imp_of_mem fun hold hother ⟨a, b, ha, hb, hlt⟩ => ?_
        exact ⟨a, b, ha.concat (hstays hold), hb.concat (hstays hother), hlt⟩
      · exact hnew.ordered.imp_of_mem fun hin hother hlt => ⟨_, _, hcomes hin, hcomes hother, .inr ⟨rfl, hlt⟩⟩
      · obtain ⟨a, ha⟩ := hplaces key (List.mem_of_mem_filter hold)
        exact ⟨a, _, ha.concat (hstays hold), hcomes hin, .inl ha.lt_length⟩

end State

/-! ## The fields in a line for people -/

/-- What stands between the level and the message: the fields, or nothing if there are none. -/
def contextSegment (c : Context) : String :=
  if c = [] then "" else String.intercalate " " (c.map fun field => field.1 ++ "=" ++ field.2.content) ++ " | "

/-- What stands behind the message: an error on a line of its own. -/
def errorSegment (e : Entry) : String :=
  match e.raised with
  | none => ""
  | some r => "\n" ++ r.text

theorem contextColumn_eq_empty_iff {c : Context} : contextColumn c = "" ↔ c = [] := by
  cases c with
  | nil => exact iff_of_true rfl rfl
  | cons field c =>
    refine iff_of_false (fun h => ?_) (List.cons_ne_nil field c)
    obtain ⟨rest, hrest⟩ := exists_toList_intercalate " " (field.1 ++ "=" ++ field.2.content)
      (c.map fun field => field.1 ++ "=" ++ field.2.content)
    have hsign : '=' ∈ (contextColumn (field :: c)).toList := by
      rw [contextColumn, List.map_cons, hrest]
      simp [String.toList_append]
    rw [h] at hsign
    cases hsign

theorem humanLine_eq (style : Style) (c : Context) (e : Entry) (time : Moment) : humanLine style c e time =
    timeColumn time ++ " | " ++ levelColumn style e.level ++ " | " ++ contextSegment c ++ e.message ++
      errorSegment e := by
  have hcolumns : String.intercalate " | " (columns style c e time) =
      timeColumn time ++ " | " ++ levelColumn style e.level ++ " | " ++ contextSegment c ++ e.message := by
    unfold columns contextSegment
    by_cases hc : c = []
    · rw [if_pos (contextColumn_eq_empty_iff.2 hc), if_pos hc, String.append_empty]
      rfl
    · rw [if_neg (mt contextColumn_eq_empty_iff.1 hc), if_neg hc]
      rw [← String.append_assoc]
      rfl
  rw [humanLine, hcolumns]
  rfl

/-! ## Main result -/

namespace State

open Context (keys)

/-- What the context is after some steps. -/
structure ContextFollows (st : State) (steps : List Step) : Prop where
  nodup : (st.run steps).session.context.keys.Nodup
  values : ∀ key v, (key, v) ∈ (st.run steps).session.context ↔ st.IsLastSet steps key v
  introduced : ∀ key ∈ (st.run steps).session.context.keys, ∃! place, st.IsIntroduced steps key place
  ordered : (st.run steps).session.context.keys.Pairwise fun key other =>
    ∀ a b, st.IsIntroduced steps key a → st.IsIntroduced steps other b → Precedes a b
  /-- A setup that fails now leaves the context. -/
  untouched : ∀ options terminal fault, ((st.run steps).setUp options terminal).outcome = .error fault →
    ((st.run steps).step (.setUp options terminal)).session.context = (st.run steps).session.context
  /-- An entry that is written now as a line for people shows the fields. -/
  shown : ∀ (h : Handler) (e : Entry) (line : String), h.style.json = false →
    (h.line? (st.run steps).session.context e = some line ↔
      ∃ time, Timestamp.moment e.created h.style.universal = .ok time ∧
        line = timeColumn time ++ " | " ++ levelColumn h.style e.level ++ " | " ++
          contextSegment (st.run steps).session.context ++ e.message ++ errorSegment e)

/-- **The context is what the history made it**, whatever the steps are and however they end. -/
theorem context_follows (st : State) (hempty : st.session.context = []) (steps : List Step) :
    st.ContextFollows steps := by
  obtain ⟨hplaces, horder⟩ := pairwise_run hempty steps
  have hnodup := nodup_keys_run hempty steps
  refine ⟨hnodup, fun key v => ?_, fun key hmem => ?_, ?_, fun options terminal fault hfault => ?_,
    fun h e line hjson => ?_⟩
  · rw [← get?_run_iff hempty, Context.get?_eq_some_iff hnodup]
  · obtain ⟨place, hplace⟩ := hplaces key hmem
    exact ⟨place, hplace, fun other hother => hother.unique hplace⟩
  · refine horder.imp fun ⟨a, b, ha, hb, hlt⟩ a' b' ha' hb' => ?_
    rwa [ha'.unique ha, hb'.unique hb]
  · change ((st.run steps).session.setUp options terminal (st.run steps).files).session.context = _
    change ((st.run steps).session.setUp options terminal (st.run steps).files).outcome = _ at hfault
    rw [Session.setUp_context, hfault]
  · rw [Handler.line?_eq_some_iff, and_iff_right fun h => absurd (hjson.symm.trans h) Bool.false_ne_true, hjson]
    exact exists_congr fun time => by rw [if_neg Bool.false_ne_true, humanLine_eq]

/-- Fields are changed, taken away and put back, and two setups of three fail. -/
def fieldHistory : List Step := [
  .push [("app", .text "labels"), ("size", .text "small")],
  .setUp { level := "LOUD", context := [("job", .int 7)] } false,
  .push [("app", .text "tags")],
  .pop (some ["app", "copies"]),
  .setUp { file := some "logs/run.log", context := [("job", .int 8)] } false,
  .setUp { file := some "logs", context := [("size", .text "huge")] } false,
  .push [("app", .text "labels"), ("size", .text "large")]]

theorem context_follows_fieldHistory :
    quiet.session.context = [] ∧ quiet.ContextFollows fieldHistory ∧
    contextSegment (quiet.run fieldHistory).session.context = "size=large job=8 app=labels | " :=
  ⟨rfl, context_follows quiet rfl fieldHistory, by decide +kernel⟩

end State
end LabelPress.Log
