import LabelPress.Proofs.Json.PlainValues
import LabelPress.Proofs.Log.Context

/-!
# Lines in JSON

A line in JSON is an object on one line of printable ASCII. Its members are those of a dictionary that starts with what
every entry has, is then updated by the context and takes the error last (`shownFields`), and reading the line gives
this dictionary back if the fields of the context are plain (`Handler.isFramed_of_line?`).
-/

namespace LabelPress.Log

/-! ## The dictionary of an entry -/

/-- What every entry has. -/
def ownFields (e : Entry) (time : Moment) : Context := [
  ("t", .text (time.isoText "T")), ("lvl", .text (levelName e.level)), ("name", .text e.sourceName),
  ("pid", .int e.process), ("msg", .text e.message)]

/-- The error that an entry reports. -/
def errorFields (e : Entry) : Context :=
  match e.raised with
  | none => []
  | some r => [("exc", .text r.text)]

/-- The dictionary that is shown of an entry: what every entry has, updated by the context and then by the error. -/
def shownFields (c : Context) (e : Entry) (time : Moment) : Context :=
  ((ownFields e time).push c).push (errorFields e)

variable {c fields : Context} {e : Entry} {time : Moment} {field : String × Value} {key : String} {v : Value}

namespace Context

/-- The members that fields become. -/
def toMembers (fields : Context) : List (String × Json) :=
  fields.map fun field => (field.1, Json.ofValue field.2)

theorem toMembers_set (fields : Context) (key : String) (v : Value) :
    toMembers (Context.set fields key v) = setMember (toMembers fields) key (Json.ofValue v) := by
  induction fields with
  | nil => rfl
  | cons field fields ih =>
    change toMembers (if field.1 = key then (field.1, v) :: fields else field :: Context.set fields key v) =
      if field.1 = key then (field.1, Json.ofValue v) :: toMembers fields
      else (field.1, Json.ofValue field.2) :: setMember (toMembers fields) key (Json.ofValue v)
    split
    · rfl
    · rw [← ih]
      rfl

theorem toMembers_push (fields c : Context) : toMembers (fields.push c) =
    c.foldl (fun members field => setMember members field.1 (Json.ofValue field.2)) fields.toMembers := by
  induction c generalizing fields with
  | nil => rfl
  | cons field c ih =>
    rw [List.foldl_cons, ← toMembers_set, ← ih]
    rfl

end Context

/-- **The members of an entry** are the fields of its dictionary. -/
theorem members_eq (c : Context) (e : Entry) (time : Moment) : members c e time = (shownFields c e time).toMembers := by
  rw [shownFields, Context.toMembers_push, Context.toMembers_push, members, errorFields]
  cases e.raised <;> rfl

theorem nodup_keys_ownFields (e : Entry) (time : Moment) : (ownFields e time).keys.Nodup := by
  change ["t", "lvl", "name", "pid", "msg"].Nodup
  decide

theorem nodup_keys_shownFields (c : Context) (e : Entry) (time : Moment) : (shownFields c e time).keys.Nodup := by
  exact Context.nodup_keys_push (Context.nodup_keys_push (nodup_keys_ownFields e time) c) (errorFields e)

/-- What the dictionary has under a key: the error, or what the context names last, or what every entry has. -/
theorem get?_shownFields (c : Context) (e : Entry) (time : Moment) (key : String) : (shownFields c e time).get? key =
    (Context.last? (errorFields e) key).or ((Context.last? c key).or ((ownFields e time).get? key)) := by
  rw [shownFields, Context.get?_push, Context.get?_push]

/-! ## Fields that can be written -/

theorem showsInJson_iff : showsInJson c e = true ↔
    ∀ field ∈ c, Json.canWrite field.2 = true ∨ field.1 = "exc" ∧ e.raised.isSome = true := by
  rw [showsInJson, List.all_eq_true]
  refine forall₂_congr fun field _ => ?_
  rw [Bool.or_eq_true, Bool.and_eq_true, decide_eq_true_iff]

/-- A field of the dictionary comes from the context, or it is a text or the number of the process. -/
theorem mem_shownFields (h : field ∈ shownFields c e time) :
    field ∈ c ∧ (field.1 = "exc" → e.raised = none) ∨ (∃ s, field.2 = .text s) ∨ field.2 = .int e.process := by
  have hget := (Context.get?_eq_some_iff (nodup_keys_shownFields c e time)).2 h
  rw [get?_shownFields, Option.or_eq_some_iff, Option.or_eq_some_iff] at hget
  rcases hget with herror | ⟨herror, hnamed | ⟨-, hown⟩⟩
  · have hmem := Context.mem_of_last? herror
    unfold errorFields at hmem
    split at hmem
    · cases hmem
    · exact .inr (.inl ⟨_, congrArg Prod.snd (List.mem_singleton.1 hmem)⟩)
  · refine .inl ⟨Context.mem_of_last? hnamed, fun hkey => ?_⟩
    rw [hkey, errorFields] at herror
    split at herror
    · next hnone => exact hnone
    · cases herror
  · have hmem := (Context.get?_eq_some_iff (nodup_keys_ownFields e time)).1 hown
    simp only [ownFields, List.mem_cons, List.not_mem_nil, or_false, Prod.mk.injEq] at hmem
    rcases hmem with ⟨-, hv⟩ | ⟨-, hv⟩ | ⟨-, hv⟩ | ⟨-, hv⟩ | ⟨-, hv⟩
    · exact .inr (.inl ⟨_, hv⟩)
    · exact .inr (.inl ⟨_, hv⟩)
    · exact .inr (.inl ⟨_, hv⟩)
    · exact .inr (.inr hv)
    · exact .inr (.inl ⟨_, hv⟩)

section
variable (hplain : ∀ field ∈ c, field.2.IsPlain)
include hplain

theorem isPlain_of_mem_shownFields (h : field ∈ shownFields c e time) : field.2.IsPlain := by
  rcases mem_shownFields h with ⟨hc, -⟩ | ⟨s, hs⟩ | hprocess
  · exact hplain field hc
  · rw [hs]
    exact .text s
  · rw [hprocess]
    exact .int e.process

theorem isReadBack_members (hshows : showsInJson c e = true) (hprocess : isWithinLimit e.process = true) :
    Json.IsReadBack (.object (members c e time)) := by
  rw [members_eq]
  refine Json.isReadBack_object fun member hmember => ?_
  obtain ⟨field, hfield, rfl⟩ := List.mem_map.1 hmember
  refine (isPlain_of_mem_shownFields hplain hfield).isReadBack ?_
  rcases mem_shownFields hfield with ⟨hc, hexc⟩ | ⟨s, hs⟩ | hnumber
  · refine (showsInJson_iff.1 hshows field hc).resolve_right fun ⟨hkey, hraised⟩ => ?_
    rw [hexc hkey] at hraised
    cases hraised
  · rw [hs]
    rfl
  · rw [hnumber]
    exact hprocess

/-- **The object of an entry is its dictionary.** -/
theorem toValue_members :
    Json.toValue (.object (members c e time)) = .map (Mapping.ofFields (shownFields c e time)) := by
  rw [members_eq]
  exact Json.toValue_object (nodup_keys_shownFields c e time) fun field hfield =>
    (isPlain_of_mem_shownFields hplain hfield).toValue_ofValue

end

/-! ## Lines that are read back -/

/-- A line that shows an entry in a context: printable ASCII, which reads as the dictionary of the entry. -/
structure IsFramed (universal : Bool) (c : Context) (e : Entry) (line : String) : Prop where
  printable : Json.IsPrintable line.toList
  reads : ∃ time, Timestamp.moment e.created universal = .ok time ∧
    (Json.read line).map Json.toValue = .ok (.map (Mapping.ofFields (shownFields c e time)))

theorem Handler.isFramed_of_line? {h : Handler} {line : String} (hjson : h.style.json = true)
    (hplain : ∀ field ∈ c, field.2.IsPlain) (hprocess : isWithinLimit e.process = true)
    (hline : h.line? c e = some line) : IsFramed h.style.universal c e line := by
  obtain ⟨hshows, time, htime, rfl⟩ := Handler.line?_eq_some_iff.1 hline
  rw [if_pos hjson]
  have hread : Json.IsReadBack (.object (members c e time)) := isReadBack_members hplain (hshows hjson) hprocess
  refine ⟨hread.printable, time, htime, ?_⟩
  rw [jsonLine, Json.read_write hread]
  exact congrArg Except.ok (toValue_members hplain)

end LabelPress.Log
