import LabelPress.Proofs.Log.ContextHistory
import LabelPress.Proofs.Log.Streams

/-!
# Fields that mask each other

In a line for people the fields of the context stand beside the columns of an entry. In JSON all are members of one
object, so a field of the context with the key of a member that every entry has takes the place of that member, and an
error takes the place of a field `exc`. An entry and its context are both shown if and only if what shares a key has the
same value (`State.line_showsAll_iff`).
-/

namespace LabelPress.Log

variable {c : Context} {e : Entry} {time : Moment}

/-- Whether an object shows what every entry has and the fields of the context, all with their own values. -/
structure ShowsAll (members : List (String × Json)) (c : Context) (e : Entry) (time : Moment) : Prop where
  own : ∀ member ∈ ownMembers e time, member ∈ members
  context : ∀ field ∈ c, (field.1, Json.ofValue field.2) ∈ members

/-- Whether what shares a key has the same value: a field and a member that every entry has, or a field and the
error. -/
structure Agrees (c : Context) (e : Entry) (time : Moment) : Prop where
  own : ∀ member ∈ ownMembers e time, ∀ v, (member.1, v) ∈ c → Json.ofValue v = member.2
  error : ∀ r, e.raised = some r → ∀ v, ("exc", v) ∈ c → Json.ofValue v = .text r.text

theorem mem_members_iff {key : String} {j : Json} : (key, j) ∈ members c e time ↔
    ∃ v, (shownFields c e time).get? key = some v ∧ Json.ofValue v = j := by
  rw [members_eq, Context.toMembers, List.mem_map]
  constructor
  · rintro ⟨field, hfield, hmember⟩
    obtain ⟨rfl, rfl⟩ := Prod.mk.inj hmember
    exact ⟨field.2, (Context.get?_eq_some_iff (nodup_keys_shownFields c e time)).2 hfield, rfl⟩
  · rintro ⟨v, hv, rfl⟩
    exact ⟨(key, v), (Context.get?_eq_some_iff (nodup_keys_shownFields c e time)).1 hv, rfl⟩

theorem last?_errorFields_exc (e : Entry) :
    Context.last? (errorFields e) "exc" = e.raised.map fun r => .text r.text := by
  unfold errorFields
  cases e.raised <;> rfl

theorem last?_errorFields_of_ne (e : Entry) {key : String} (h : key ≠ "exc") :
    Context.last? (errorFields e) key = none := by
  refine Option.eq_none_iff_forall_not_mem.2 fun v hv => ?_
  have hmem := Context.mem_of_last? hv
  unfold errorFields at hmem
  split at hmem
  · cases hmem
  · exact h (congrArg Prod.fst (List.mem_singleton.1 hmem))

theorem ne_exc_of_mem_ownMembers {member : String × Json} (h : member ∈ ownMembers e time) : member.1 ≠ "exc" := by
  have hkeys : member.1 ∈ ["t", "lvl", "name", "pid", "msg"] := List.mem_map_of_mem h
  intro hexc
  rw [hexc] at hkeys
  exact absurd hkeys (by decide)

theorem get?_shownFields_exc (c : Context) (time : Moment) {r : Raised} (hraised : e.raised = some r) :
    (shownFields c e time).get? "exc" = some (.text r.text) := by
  rw [get?_shownFields, last?_errorFields_exc, hraised]
  rfl

section
variable (hnodup : c.keys.Nodup)
include hnodup

/-- A field of the context is shown under its key, unless that is the key of the error. -/
theorem get?_shownFields_of_mem {key : String} {v : Value} (hmem : (key, v) ∈ c)
    (hkey : key ≠ "exc" ∨ e.raised = none) : (shownFields c e time).get? key = some v := by
  have herror : Context.last? (errorFields e) key = none := by
    by_cases hexc : key = "exc"
    · rw [hexc, last?_errorFields_exc, hkey.resolve_left (not_not.2 hexc)]
      rfl
    · exact last?_errorFields_of_ne e hexc
  rw [get?_shownFields, herror, Context.last?_of_nodup hnodup, (Context.get?_eq_some_iff hnodup).2 hmem]
  rfl

/-- A member that every entry has is shown if the context has no field with its key. -/
theorem mem_members_of_mem_ownMembers {member : String × Json} (hmember : member ∈ ownMembers e time)
    (hcontext : c.get? member.1 = none) : member ∈ members c e time := by
  obtain ⟨own, hown, rfl⟩ := List.mem_map.1 (show member ∈ (ownFields e time).toMembers from hmember)
  refine mem_members_iff.2 ⟨own.2, ?_, rfl⟩
  rw [get?_shownFields, last?_errorFields_of_ne e (ne_exc_of_mem_ownMembers hmember),
    Context.last?_of_nodup hnodup, hcontext]
  exact (Context.get?_eq_some_iff (nodup_keys_ownFields e time)).2 hown

/-- **Where nothing is masked**: an entry and its context are both shown if and only if what shares a key agrees. -/
theorem showsAll_members_iff : ShowsAll (members c e time) c e time ↔ Agrees c e time := by
  constructor
  · intro h
    refine ⟨fun member hmember v hv => ?_, fun r hraised v hv => ?_⟩
    · obtain ⟨w, hw, hshown⟩ := mem_members_iff.1 (h.own member hmember)
      rw [get?_shownFields_of_mem hnodup hv (.inl (ne_exc_of_mem_ownMembers hmember))] at hw
      rwa [Option.some.inj hw]
    · obtain ⟨w, hw, hshown⟩ := mem_members_iff.1 (h.context ("exc", v) hv)
      rw [get?_shownFields_exc c time hraised] at hw
      rw [← hshown, ← Option.some.inj hw]
      rfl
  · intro h
    refine ⟨fun member hmember => ?_, fun field hmem => mem_members_iff.2 ?_⟩
    · -- Under the key of the member stands a field of the context, or the member itself.
      cases hcontext : c.get? member.1 with
      | none => exact mem_members_of_mem_ownMembers hnodup hmember hcontext
      | some v =>
        have hmem := (Context.get?_eq_some_iff hnodup).1 hcontext
        have hshown : (shownFields c e time).get? member.1 = some v :=
          get?_shownFields_of_mem hnodup hmem (.inl (ne_exc_of_mem_ownMembers hmember))
        exact mem_members_iff.2 ⟨v, hshown, h.own member hmember v hmem⟩
    · by_cases hkey : field.1 = "exc" ∧ e.raised ≠ none
      · obtain ⟨hexc, hne⟩ := hkey
        obtain ⟨r, hraised⟩ := Option.ne_none_iff_exists'.1 hne
        rw [hexc]
        exact ⟨_, get?_shownFields_exc c time hraised, (h.error r hraised field.2 (hexc ▸ hmem)).symm⟩
      · rw [not_and_or, not_not] at hkey
        exact ⟨field.2, get?_shownFields_of_mem hnodup hmem hkey, rfl⟩

end

namespace State

/-- A line in JSON that is written after some steps. -/
structure ShowsAfter (st : State) (steps : List Step) (h : Handler) (e : Entry) (line : String) (time : Moment) :
    Prop where
  date : Timestamp.moment e.created h.style.universal = .ok time
  text : line = (Json.object (members (st.run steps).session.context e time)).write
  /-- With plain fields, the line is read as the object. -/
  reads : (∀ field ∈ (st.run steps).session.context, field.2.IsPlain) → isWithinLimit e.process = true →
    Json.read line = .ok (.object (members (st.run steps).session.context e time))
  shows_iff : ShowsAll (members (st.run steps).session.context e time) (st.run steps).session.context e time ↔
    Agrees (st.run steps).session.context e time

/-- **When a line in JSON shows an entry and its context**, whatever steps came before: if and only if no field has the
key of a member that every entry has, or `exc` beside an error, with another value. -/
theorem line_showsAll_iff (st : State) (hempty : st.session.context = []) (steps : List Step) (h : Handler)
    (hjson : h.style.json = true) (e : Entry) (line : String)
    (hline : h.line? (st.run steps).session.context e = some line) : ∃ time, st.ShowsAfter steps h e line time := by
  obtain ⟨hshows, time, htime, rfl⟩ := Handler.line?_eq_some_iff.1 hline
  rw [if_pos hjson]
  refine ⟨time, htime, rfl, fun hplain hprocess => ?_, showsAll_members_iff (nodup_keys_run hempty steps)⟩
  exact Json.read_write (isReadBack_members hplain (hshows hjson) hprocess)

/-- With a field under the key `name`, the line does not show the source of the entry. -/
theorem line_showsAll_iff_escapedContext :
    quiet.session.context = [] ∧ jsonHandler.style.json = true ∧
    jsonHandler.line? (quiet.run [.push escapedContext]).session.context escapedEntry = some escapedLine ∧
    ∃ time, quiet.ShowsAfter [.push escapedContext] jsonHandler escapedEntry escapedLine time ∧
      ¬ShowsAll (members escapedContext escapedEntry time) escapedContext escapedEntry time := by
  have hline : jsonHandler.line? (quiet.run [.push escapedContext]).session.context escapedEntry =
      some escapedLine := by
    decide +kernel
  obtain ⟨time, hshows⟩ := line_showsAll_iff quiet rfl [.push escapedContext] jsonHandler rfl escapedEntry _ hline
  refine ⟨rfl, rfl, hline, time, hshows, fun hall => ?_⟩
  have hname := (hshows.shows_iff.1 hall).own ("name", .text "root")
    (by simp [ownMembers, escapedEntry, Entry.sourceName]) (.text "été") (List.mem_cons_of_mem _ List.mem_cons_self)
  exact absurd (Json.text.inj hname) (by decide)

/-- A field can mask what every entry has. -/
theorem line_not_showsAll : ¬∀ (st : State) (steps : List Step) (h : Handler) (e : Entry) (line : String)
    (time : Moment) (ms : List (String × Json)), st.session.context = [] → h.style.json = true →
    h.line? (st.run steps).session.context e = some line → Timestamp.moment e.created h.style.universal = .ok time →
    Json.read line = .ok (.object ms) → ShowsAll ms (st.run steps).session.context e time := by
  intro h
  obtain ⟨time, htime⟩ : ∃ time, (Timestamp.moment firstEntry.created true).toOption = some time :=
    Option.isSome_iff_exists.1 (by decide +kernel)
  replace htime := except_toOption_eq_some.1 htime
  have hplain : ∀ field ∈ ([("msg", .text "field")] : Context), field.2.IsPlain :=
    List.forall_mem_singleton.2 (.text "field")
  have hshows : showsInJson [("msg", .text "field")] firstEntry = true := by decide
  have hread : Json.read (jsonLine [("msg", .text "field")] firstEntry time) =
      .ok (.object (members [("msg", .text "field")] firstEntry time)) :=
    Json.read_write (isReadBack_members hplain hshows (by decide +kernel))
  have hall := h quiet [.push [("msg", .text "field")]] jsonHandler firstEntry _ time _ rfl rfl
    (Handler.line?_eq_some_iff.2 ⟨fun _ => hshows, time, htime, rfl⟩) htime hread
  have hkeys : Context.keys [("msg", .text "field")] |>.Nodup := List.nodup_singleton "msg"
  have hmessage := ((showsAll_members_iff hkeys).1 hall).own ("msg", .text "one")
    (by simp [ownMembers, firstEntry]) (.text "field") (List.mem_singleton.2 rfl)
  exact absurd (Json.text.inj hmessage) (by decide)

end State
end LabelPress.Log
