import LabelPress.Proofs.Log.Handlers
import Mathlib.Data.List.Nodup
import Mathlib.Data.List.Induction

/-!
# Contexts

A context is an ordered dictionary. What is pushed changes the values of the fields that are there and puts new ones
behind them (`Context.get?_push`, `Context.exists_keys_push`). A step of a history either takes fields away or pushes
some (`State.step_context`); a setup that fails does neither.
-/

namespace LabelPress.Log

/-! ## Fields of a context -/

namespace Context
variable {c : Context} {fields : List (String × Value)} {field : String × Value} {key other : String} {v : Value}

/-- The keys of the fields in order. -/
def keys (c : Context) : List String :=
  c.map Prod.fst

theorem get?_cons (field : String × Value) (c : Context) (key : String) :
    get? (field :: c) key = if field.1 = key then some field.2 else c.get? key := by
  unfold get?
  by_cases h : field.1 = key <;> simp [h]

theorem mem_keys_iff : key ∈ c.keys ↔ ∃ v, c.get? key = some v := by
  induction c with
  | nil => simp [keys, get?]
  | cons field c ih =>
    rw [get?_cons, keys, List.map_cons, List.mem_cons]
    by_cases h : field.1 = key
    · simp [h]
    · rw [if_neg h, ← ih, or_iff_right (Ne.symm h)]
      rfl

theorem get?_eq_some_iff (h : c.keys.Nodup) : c.get? key = some v ↔ (key, v) ∈ c := by
  induction c with
  | nil => simp [get?]
  | cons field c ih =>
    obtain ⟨hfield, hc⟩ := List.nodup_cons.1 h
    rw [get?_cons, List.mem_cons]
    split
    · next hkey =>
      subst hkey
      have hnot : (field.1, v) ∉ c := fun hmem => hfield (List.mem_map.2 ⟨_, hmem, rfl⟩)
      rw [or_iff_left hnot, Option.some.injEq]
      exact ⟨fun hv => Prod.ext rfl hv.symm, fun hv => (congrArg Prod.snd hv).symm⟩
    · next hkey =>
      have hnot : (key, v) ≠ field := fun heq => hkey (congrArg Prod.fst heq).symm
      rw [ih hc, or_iff_right hnot]

theorem mem_of_get? (h : c.get? key = some v) : (key, v) ∈ c := by
  obtain ⟨field, hfield, rfl⟩ := Option.map_eq_some_iff.1 h
  have hkey : field.1 = key := by simpa using List.find?_some hfield
  rw [← hkey]
  exact List.mem_of_find?_eq_some hfield

theorem get?_filter (c : Context) (keep : String → Bool) (key : String) :
    get? (c.filter fun field => keep field.1) key = if keep key then c.get? key else none := by
  induction c with
  | nil => simp [get?]
  | cons field c ih =>
    rw [List.filter_cons, get?_cons]
    by_cases hkey : field.1 = key
    · subst hkey
      cases hkeep : keep field.1
      · rw [if_neg Bool.false_ne_true, ih, hkeep]
        rfl
      · rw [if_pos rfl, get?_cons, if_pos rfl, if_pos rfl, if_pos rfl]
    · rw [if_neg hkey, ← ih]
      cases keep field.1
      · rfl
      · rw [if_pos rfl, get?_cons, if_neg hkey]

theorem keys_filter (c : Context) (keep : String → Bool) :
    keys (c.filter fun field => keep field.1) = c.keys.filter keep :=
  List.filter_map.symm

/-! ### Setting fields -/

theorem keys_set (c : Context) (key : String) (v : Value) :
    keys (Context.set c key v) = if key ∈ c.keys then c.keys else c.keys ++ [key] := by
  induction c with
  | nil => rfl
  | cons field c ih =>
    unfold set
    by_cases h : field.1 = key
    · simp [keys, h]
    · rw [if_neg h]
      have hmem : key ∈ keys (field :: c) ↔ key ∈ keys c := List.mem_cons.trans (or_iff_right (Ne.symm h))
      change field.1 :: keys (Context.set c key v) = _
      rw [ih, if_congr hmem rfl rfl]
      exact apply_ite (field.1 :: ·) ..

theorem nodup_keys_set (h : c.keys.Nodup) (key : String) (v : Value) :
    (keys (Context.set c key v)).Nodup := by
  rw [keys_set]
  split
  · exact h
  · next hnew => exact List.nodup_append.2 ⟨h, List.nodup_singleton key, fun a ha b hb hab =>
      hnew (List.mem_singleton.1 hb ▸ hab ▸ ha)⟩

/-- The value that fields give a key; where they name it twice, the last one. -/
def last? (fields : List (String × Value)) (key : String) : Option Value :=
  get? fields.reverse key

theorem last?_concat (fields : List (String × Value)) (field : String × Value) (key : String) :
    last? (fields ++ [field]) key = if field.1 = key then some field.2 else last? fields key := by
  rw [last?, List.reverse_append, List.reverse_singleton, List.singleton_append, get?_cons, last?]

theorem mem_keys_iff_last? : key ∈ keys fields ↔ ∃ v, last? fields key = some v := by
  rw [last?, ← mem_keys_iff, keys, keys, List.map_reverse, List.mem_reverse]

theorem mem_of_last? (h : last? fields key = some v) : (key, v) ∈ fields :=
  List.mem_reverse.1 (mem_of_get? h)

theorem last?_of_nodup (h : keys fields |>.Nodup) : last? fields key = get? fields key := by
  have hreverse : (keys fields.reverse).Nodup := by
    rw [keys, List.map_reverse, List.nodup_reverse]
    exact h
  ext v
  rw [last?, get?_eq_some_iff hreverse, get?_eq_some_iff h, List.mem_reverse]

theorem mem_set {new : String × Value} (h : new ∈ Context.set c key v) : new ∈ c ∨ new = (key, v) := by
  induction c with
  | nil => exact .inr (List.mem_singleton.1 h)
  | cons field c ih =>
    unfold set at h
    split at h
    · next hkey =>
      rcases List.mem_cons.1 h with rfl | hmem
      · exact .inr (Prod.ext hkey rfl)
      · exact .inl (List.mem_cons_of_mem _ hmem)
    · rcases List.mem_cons.1 h with rfl | hmem
      · exact .inl List.mem_cons_self
      · exact (ih hmem).imp_left (List.mem_cons_of_mem _)

theorem push_concat (c : Context) (fields : List (String × Value)) (field : String × Value) :
    c.push (fields ++ [field]) = (c.push fields).set field.1 field.2 :=
  List.foldl_append

theorem mem_push (h : field ∈ c.push fields) : field ∈ c ∨ field ∈ fields := by
  induction fields using List.reverseRecOn with
  | nil => exact .inl h
  | append_singleton fields last ih =>
    rw [push_concat] at h
    rw [List.mem_append]
    rcases mem_set h with hold | hnew
    · exact (ih hold).imp_right .inl
    · exact .inr (.inr (List.mem_singleton.2 hnew))

theorem nodup_keys_push (h : c.keys.Nodup) (fields : List (String × Value)) : (c.push fields).keys.Nodup := by
  induction fields using List.reverseRecOn with
  | nil => exact h
  | append_singleton fields field ih =>
    rw [push_concat]
    exact nodup_keys_set ih field.1 field.2

/-- **What a push gives a field**: the last value that it names, or what it had. -/
theorem get?_push (c : Context) (fields : List (String × Value)) (key : String) :
    (c.push fields).get? key = (last? fields key).or (c.get? key) := by
  induction fields using List.reverseRecOn with
  | nil => rfl
  | append_singleton fields field ih =>
    rw [push_concat, last?_concat]
    split
    · next hkey => rw [hkey, get?_set_self, Option.some_or]
    · next hkey => rw [get?_set_of_ne _ _ (Ne.symm hkey), ih]

/-- The keys that fields have besides those of a context, in the order in which they are first named. -/
structure AreNew (c : Context) (fields : List (String × Value)) (new : List String) : Prop where
  mem_iff : ∀ key, key ∈ new ↔ key ∈ keys fields ∧ key ∉ c.keys
  ordered : new.Pairwise fun a b => (keys fields).idxOf a < (keys fields).idxOf b

namespace AreNew

variable {new : List String}

theorem keys_concat (fields : List (String × Value)) (field : String × Value) :
    keys (fields ++ [field]) = keys fields ++ [field.1] :=
  List.map_append

/-- The first place at which a key is named stays where more fields are named behind. -/
theorem pairwise_concat (h : c.AreNew fields new) (field : String × Value) :
    new.Pairwise fun a b => (keys (fields ++ [field])).idxOf a < (keys (fields ++ [field])).idxOf b := by
  have hfirst : ∀ {key}, key ∈ new → (keys (fields ++ [field])).idxOf key = (keys fields).idxOf key := by
    intro key hkey
    rw [keys_concat, List.idxOf_append_of_mem ((h.mem_iff key).1 hkey).1]
  refine h.ordered.imp_of_mem fun ha hb hlt => ?_
  rwa [hfirst ha, hfirst hb]

theorem concat_of_mem (h : c.AreNew fields new) (hold : field.1 ∈ c.keys ++ new) :
    c.AreNew (fields ++ [field]) new where
  mem_iff key := by
    rw [h.mem_iff, keys_concat, List.mem_append, List.mem_singleton]
    refine ⟨fun ⟨hnamed, hfree⟩ => ⟨.inl hnamed, hfree⟩, fun ⟨hnamed, hfree⟩ => ⟨?_, hfree⟩⟩
    rcases hnamed with hnamed | rfl
    · exact hnamed
    · exact ((h.mem_iff field.1).1 ((List.mem_append.1 hold).resolve_left hfree)).1
  ordered := h.pairwise_concat field

theorem concat_of_not_mem (h : c.AreNew fields new) (hfree : field.1 ∉ c.keys ++ new) :
    c.AreNew (fields ++ [field]) (new ++ [field.1]) := by
  rw [List.mem_append, not_or] at hfree
  have hunnamed : field.1 ∉ keys fields := fun hnamed => hfree.2 ((h.mem_iff field.1).2 ⟨hnamed, hfree.1⟩)
  refine ⟨fun key => ?_, List.pairwise_append.2 ⟨h.pairwise_concat field, List.pairwise_singleton _ _, ?_⟩⟩
  · rw [List.mem_append, h.mem_iff, keys_concat, List.mem_append, List.mem_singleton]
    refine ⟨?_, fun ⟨hnamed, hkey⟩ => hnamed.imp_left fun hnamed => ⟨hnamed, hkey⟩⟩
    rintro (⟨hnamed, hkey⟩ | rfl)
    · exact ⟨.inl hnamed, hkey⟩
    · exact ⟨.inr rfl, hfree.1⟩
  · intro key hkey last hlast
    have hnamed := ((h.mem_iff key).1 hkey).1
    rw [List.mem_singleton.1 hlast, keys_concat, List.idxOf_append_of_mem hnamed,
      List.idxOf_append_of_notMem hunnamed]
    exact Nat.lt_of_lt_of_le (List.idxOf_lt_length_of_mem hnamed) (Nat.le_add_right _ _)

end AreNew

/-- **Where a push puts fields**: those that are there keep their places, and new ones come behind them. -/
theorem exists_keys_push (c : Context) (fields : List (String × Value)) :
    ∃ new, (c.push fields).keys = c.keys ++ new ∧ c.AreNew fields new := by
  induction fields using List.reverseRecOn with
  | nil => exact ⟨[], (List.append_nil _).symm, by simp [keys], .nil⟩
  | append_singleton fields field ih =>
    obtain ⟨new, hkeys, hnew⟩ := ih
    rw [push_concat, keys_set, hkeys]
    by_cases hold : field.1 ∈ c.keys ++ new
    · exact ⟨new, if_pos hold, hnew.concat_of_mem hold⟩
    · exact ⟨new ++ [field.1], by rw [if_neg hold, List.append_assoc], hnew.concat_of_not_mem hold⟩

end Context

/-! ## What a step does to the context -/

namespace Session

variable (s : Session) (options : Setup) (terminal : Bool) (files : Files)

theorem streaming_context (level : Int) : (s.streaming options terminal level).context = s.context := by
  rw [streaming, cleared, foldl_detach]
  rfl

/-- A setup that fails leaves the context, and one that ends well adds to it. -/
theorem setUp_context : (s.setUp options terminal files).session.context =
    match (s.setUp options terminal files).outcome with
    | .ok _ => s.context.push options.context
    | .error _ => s.context := by
  have hsetsUp := s.setUp_setsUp options terminal files
  generalize s.setUp options terminal files = r at hsetsUp ⊢
  cases hsetsUp with
  | unknownLevel => rfl
  | unusable => exact s.streaming_context options terminal _
  | @done level effects place =>
    obtain ⟨handlers, hcomplete⟩ := (s.streaming options terminal level).complete_eq_install options place
    rw [hcomplete]
    exact congrArg (Context.push · options.context) (s.streaming_context options terminal level)

end Session

/-- Whether a step takes a field away. -/
def Step.removes : Step → String → Bool
  | .pop none, _ => true
  | .pop (some keys), key => keys.contains key
  | .setUp _ _, _ | .log _, _ | .push _, _ => false

namespace State

open Context (keys last?)

/-- The fields that a step sets. -/
def sets (st : State) : Step → List (String × Value)
  | .push fields => fields
  | .setUp options terminal =>
    match (st.setUp options terminal).outcome with
    | .ok _ => options.context
    | .error _ => []
  | .log _ | .pop _ => []

/-- Whether a step sets a field or takes it away. -/
def Touches (st : State) (s : Step) (key : String) : Prop :=
  key ∈ keys (st.sets s) ∨ s.removes key = true

theorem step_context (st : State) (s : Step) : (st.step s).session.context =
    Context.push (st.session.context.filter fun field => !s.removes field.1) (st.sets s) := by
  have hall : (st.session.context.filter fun _ => !false) = st.session.context := List.filter_eq_self.2 fun _ _ => rfl
  cases s with
  | setUp options terminal =>
    change (st.session.setUp options terminal st.files).session.context =
      Context.push (st.session.context.filter fun _ => !false) (st.sets (.setUp options terminal))
    rw [Session.setUp_context, hall, sets, setUp]
    cases (st.session.setUp options terminal st.files).outcome <;> rfl
  | log => exact hall.symm
  | push fields => exact congrArg (Context.push · fields) hall.symm
  | pop gone =>
    cases gone with
    | none => exact (List.filter_eq_nil_iff.2 fun _ _ => Bool.false_ne_true).symm
    | some keys => rfl

/-- No field comes from anywhere else. -/
theorem mem_context_step {st : State} {s : Step} {field : String × Value}
    (h : field ∈ (st.step s).session.context) : field ∈ st.session.context ∨ field ∈ st.sets s := by
  rw [step_context] at h
  exact (Context.mem_push h).imp_left List.mem_of_mem_filter

theorem get?_step (st : State) (s : Step) (key : String) : (st.step s).session.context.get? key =
    (last? (st.sets s) key).or (if s.removes key then none else st.session.context.get? key) := by
  rw [step_context, Context.get?_push, Context.get?_filter st.session.context fun key => !s.removes key]
  cases s.removes key <;> rfl

/-- No step does both. -/
theorem removes_or_sets (st : State) (s : Step) : (∀ key, s.removes key = false) ∨ st.sets s = [] := by
  cases s with
  | setUp | log | push => exact .inl fun _ => rfl
  | pop => exact .inr rfl

/-- The fields that stay keep their order, and those that a step brings in come behind them. -/
theorem keys_step (st : State) (s : Step) : ∃ new, (st.step s).session.context.keys =
    (st.session.context.keys.filter fun key => !s.removes key) ++ new ∧
      st.session.context.AreNew (st.sets s) new := by
  obtain ⟨new, hkeys, hnew⟩ := Context.exists_keys_push
    (st.session.context.filter fun field => !s.removes field.1) (st.sets s)
  rw [← step_context, Context.keys_filter st.session.context fun key => !s.removes key] at hkeys
  refine ⟨new, hkeys, fun key => ?_, hnew.ordered⟩
  rw [hnew.mem_iff, Context.keys_filter st.session.context fun key => !s.removes key, List.mem_filter]
  rcases st.removes_or_sets s with hremoves | hsets
  · simp [hremoves]
  · simp [hsets, keys]

theorem nodup_keys_step {st : State} (h : st.session.context.keys.Nodup) (s : Step) :
    (st.step s).session.context.keys.Nodup := by
  rw [step_context]
  refine Context.nodup_keys_push ?_ _
  rw [Context.keys_filter st.session.context fun key => !s.removes key]
  exact h.filter _

end State
end LabelPress.Log
