import LabelPress.Proofs.Log.JsonLines

/-!
# Streams of lines

What a handler writes over a history, where no other one writes to its target, is one line after the other: one for
every entry that passes the level and of which it makes a line (`State.run_gains`). As lines in JSON have no line break,
such a stream splits at its line feeds into one object for each of these entries (`State.jsonStream_framed`).
-/

namespace LabelPress.Log

/-- Lines, each with its end. -/
def endedLines (lines : List String) : String :=
  String.join (lines.map fun line => line ++ "\n")

theorem endedLines_append (first second : List String) :
    endedLines (first ++ second) = endedLines first ++ endedLines second := by
  rw [endedLines, List.map_append, String.join_append, endedLines, endedLines]

theorem toList_endedLines (lines : List String) :
    (endedLines lines).toList = (lines.map String.toList).flatMap fun line => line ++ ['\n'] := by
  rw [endedLines, String.toList_join, List.flatMap_map, List.flatMap_map]
  refine List.flatMap_congr fun line _ => ?_
  rw [String.toList_append]
  rfl

/-- A step that is no setup: the fields that it pushes are plain, and the number of the process of an entry that it logs
can be written. -/
def Step.IsPlain : Step → Prop
  | .setUp _ _ => False
  | .log e => isWithinLimit e.process = true
  | .push fields => ∀ field ∈ fields, field.2.IsPlain
  | .pop _ => True

namespace Session

variable {s : Session} {h : Handler}

/-- Whether no other handler writes where this one writes. -/
def WritesAlone (s : Session) (h : Handler) : Prop :=
  s.handlers.filter (fun other => other.target = h.target) = [h]

theorem deliveries_filter_target (s : Session) (e : Entry) (target : Target) :
    (s.deliveries e).filter (fun delivery => delivery.1.target = target) =
      (s.handlers.filter fun h => h.target = target).filterMap fun h => (h.line? s.context e).map (h, ·) := by
  unfold deliveries
  induction s.handlers with
  | nil => rfl
  | cons h handlers ih =>
    rw [List.filterMap_cons, List.filter_cons]
    by_cases htarget : h.target = target <;> cases hline : h.line? s.context e <;> simp [htarget, hline, ih]

theorem WritesAlone.linesFor_eq (halone : s.WritesAlone h) (e : Entry) :
    linesFor h.target (s.deliveries e) = endedLines (h.line? s.context e).toList := by
  rw [linesFor, deliveries_filter_target, halone]
  cases hline : h.line? s.context e <;> simp [hline, endedLines]

end Session

namespace State

variable {st mid later : State} {h : Handler} {target : Target} {steps : List Step}

/-- A target holds what it held before and a text behind it. -/
def Gains (target : Target) (st later : State) (text : String) : Prop :=
  match target with
  | .errorStream => later.errors = st.errors ++ text
  | .file place => ∀ content, st.files.get? place = some (.file content) →
    later.files.get? place = some (.file (content ++ text.toUTF8))

theorem Gains.trans {first second : String} (hfirst : Gains target st mid first)
    (hsecond : Gains target mid later second) : Gains target st later (first ++ second) := by
  cases target with
  | errorStream => exact hsecond.trans (by rw [hfirst, String.append_assoc])
  | file place =>
    intro content hplace
    rw [hsecond _ (hfirst content hplace), ByteArray.append_assoc]
    exact congrArg (fun more => some (Node.file (content ++ more))) String.toByteArray_append.symm

theorem gains_nothing (hfiles : later.files = st.files) (herrors : later.errors = st.errors) :
    Gains target st later "" := by
  cases target with
  | errorStream => exact herrors.trans (String.append_empty).symm
  | file place =>
    intro content hplace
    rw [hfiles, hplace, String.toUTF8, String.toByteArray_empty, ByteArray.append_empty]

/-- The entry that a handler writes in a step, with the context at the time, if it writes one. -/
def emitted (st : State) (h : Handler) : Step → List (Context × Entry)
  | .log e =>
    if st.session.passes e.level && (h.line? st.session.context e).isSome then [(st.session.context, e)] else []
  | .setUp _ _ | .push _ | .pop _ => []

/-- The entries that a handler writes over some steps. -/
def written (st : State) (h : Handler) : List Step → List (Context × Entry)
  | [] => []
  | s :: steps => st.emitted h s ++ (st.step s).written h steps

/-- Whether lines are those of a handler for some entries, one each. -/
def AreLines (h : Handler) (records : List (Context × Entry)) (lines : List String) : Prop :=
  List.Forall₂ (fun record line => h.line? record.1 record.2 = some line) records lines

theorem step_gains (halone : st.session.WritesAlone h) {s : Step} (hs : ¬s.IsSetUp) :
    ∃ lines, AreLines h (st.emitted h s) lines ∧ Gains h.target st (st.step s) (endedLines lines) := by
  cases s with
  | setUp => exact absurd trivial hs
  | push fields => exact ⟨[], .nil, gains_nothing rfl rfl⟩
  | pop keys => exact ⟨[], .nil, gains_nothing rfl rfl⟩
  | log e =>
    by_cases hpasses : st.session.passes e.level = true
    · have hattached : st.session.handlers ≠ [] := by
        intro hnone
        rw [Session.WritesAlone, hnone] at halone
        cases halone
      -- As no other handler writes to the target, what is added to it is the line of this one, if it makes one.
      refine ⟨(h.line? st.session.context e).toList, ?_, ?_⟩
      · rw [emitted, hpasses, Bool.true_and]
        cases hline : h.line? st.session.context e with
        | none => exact .nil
        | some line => exact .cons hline .nil
      · rw [← halone.linesFor_eq e]
        cases htarget : h.target with
        | errorStream => exact log_errors hpasses hattached
        | file place => exact fun content hplace => log_files hpasses hplace
    · have hemit : st.session.emit e = {} := by
        rw [Session.emit, Bool.eq_false_iff.2 hpasses]
        rfl
      refine ⟨[], ?_, gains_nothing ?_ ?_⟩
      · rw [emitted, Bool.eq_false_iff.2 hpasses]
        exact .nil
      · rw [step, hemit]
        rfl
      · rw [step, hemit]
        exact String.append_empty

theorem writesAlone_step (halone : st.session.WritesAlone h) {s : Step} (hs : ¬s.IsSetUp) :
    (st.step s).session.WritesAlone h := by
  obtain ⟨context, hsession⟩ := st.step_session hs
  rw [hsession]
  exact halone

/-- **What a handler writes over a history**: one line after the other. -/
theorem run_gains (halone : st.session.WritesAlone h) (hsteps : ∀ s ∈ steps, ¬s.IsSetUp) :
    ∃ lines, AreLines h (st.written h steps) lines ∧ Gains h.target st (st.run steps) (endedLines lines) := by
  induction steps generalizing st with
  | nil => exact ⟨[], .nil, gains_nothing rfl rfl⟩
  | cons s steps ih =>
    obtain ⟨hs, hsteps⟩ := List.forall_mem_cons.1 hsteps
    obtain ⟨first, hfirst, hgains⟩ := step_gains halone hs
    obtain ⟨rest, hrest, hlater⟩ := ih (writesAlone_step halone hs) hsteps
    refine ⟨first ++ rest, List.rel_append hfirst hrest, ?_⟩
    rw [endedLines_append]
    exact hgains.trans hlater

/-! ## Plain histories -/

/-- What is written over a plain history is plain. -/
theorem plain_of_mem_written {record : Context × Entry} (hcontext : ∀ field ∈ st.session.context, field.2.IsPlain)
    (hsteps : ∀ s ∈ steps, s.IsPlain) (hrecord : record ∈ st.written h steps) :
    (∀ field ∈ record.1, field.2.IsPlain) ∧ isWithinLimit record.2.process = true := by
  induction steps generalizing st with
  | nil => cases hrecord
  | cons s steps ih =>
    obtain ⟨hs, hsteps⟩ := List.forall_mem_cons.1 hsteps
    rcases List.mem_append.1 hrecord with hnow | hlater
    · cases s with
      | setUp => exact hs.elim
      | push | pop => cases hnow
      | log e =>
        rw [emitted] at hnow
        split at hnow
        · rw [List.mem_singleton.1 hnow]
          exact ⟨hcontext, hs⟩
        · cases hnow
    · refine ih (fun field hfield => ?_) hsteps hlater
      rcases mem_context_step hfield with hold | hset
      · exact hcontext field hold
      · cases s with
        | setUp => exact hs.elim
        | push => exact hs field hset
        | log | pop => cases hset

/-- Whether the lines of a text, each of which ends in a line feed, show entries in their contexts, one each. -/
def Frames (universal : Bool) (records : List (Context × Entry)) (text : String) : Prop :=
  ∃ lines, splitLines text.toList = lines ++ [[]] ∧
    List.Forall₂ (fun record line => IsFramed universal record.1 record.2 (String.ofList line)) records lines

theorem frames_endedLines {universal : Bool} {records : List (Context × Entry)} {lines : List String}
    (h : List.Forall₂ (fun record line => IsFramed universal record.1 record.2 line) records lines) :
    Frames universal records (endedLines lines) := by
  have hfeeds : ∀ line ∈ lines, '\n' ∉ line.toList := by
    induction h with
    | nil => exact fun _ hline => absurd hline List.not_mem_nil
    | cons hframed _ ih => exact List.forall_mem_cons.2 ⟨hframed.printable.not_mem (by decide), ih⟩
  refine ⟨lines.map String.toList, ?_, ?_⟩
  · rw [toList_endedLines]
    exact splitLines_flatMap_feed (List.forall_mem_map.2 hfeeds)
  · rw [List.forall₂_map_right_iff]
    exact h.imp fun record line hframed => by rwa [String.ofList_toList]

/-- **A stream of lines in JSON is one object for each entry.** A handler makes a line in JSON of every entry that has a
date, unless a field of the context cannot be written. Each is one line of printable ASCII, which reads as the
dictionary of the entry, so what the handler writes over a history splits into these. -/
theorem jsonStream_framed (h : Handler) (hjson : h.style.json = true) :
    (∀ (c : Context) (e : Entry), (∀ field ∈ c, field.2.IsPlain) → isWithinLimit e.process = true →
      ((h.line? c e).isSome ↔ (∃ time, Timestamp.moment e.created h.style.universal = .ok time) ∧
        ∀ field ∈ c, Json.canWrite field.2 = true ∨ field.1 = "exc" ∧ e.raised.isSome = true) ∧
      ∀ line, h.line? c e = some line → IsFramed h.style.universal c e line) ∧
    ∀ (st : State) (steps : List Step), st.session.WritesAlone h →
      (∀ field ∈ st.session.context, field.2.IsPlain) → (∀ s ∈ steps, s.IsPlain) →
      ∃ text, Gains h.target st (st.run steps) text ∧ Frames h.style.universal (st.written h steps) text := by
  refine ⟨fun c e hplain hprocess => ⟨?_, fun line => h.isFramed_of_line? hjson hplain hprocess⟩, ?_⟩
  · rw [Handler.line?_isSome, ← showsInJson_iff]
    exact ⟨fun htext => ⟨htext.date, htext.fields hjson⟩, fun ⟨hdate, hfields⟩ => ⟨hdate, fun _ => hfields⟩⟩
  · intro st steps halone hcontext hsteps
    obtain ⟨lines, hlines, hgains⟩ := run_gains halone fun s hs hsetUp => by
      cases s with
      | setUp => exact hsteps _ hs
      | log | push | pop => exact hsetUp
    refine ⟨endedLines lines, hgains, frames_endedLines ?_⟩
    refine List.forall₂_iff_zip.2 ⟨hlines.length_eq, fun {record line} hmem => ?_⟩
    obtain ⟨hplain, hprocess⟩ := plain_of_mem_written hcontext hsteps (List.of_mem_zip hmem).1
    exact h.isFramed_of_line? hjson hplain hprocess ((List.forall₂_iff_zip.1 hlines).2 hmem)

/-- An entry whose message and error need escapes. -/
def escapedEntry : Entry where
  source := ""
  level := 40
  message := "two\nlines \"\x7f\" 😀"
  raised := some ⟨"ValueError", "bad\tsize"⟩
  created := Binary64.zero
  process := 4242

/-- A session that logs in JSON to the error stream and to a file. -/
def jsonSession : State :=
  quiet.run [.setUp { file := some "run.log", json := true } false]

/-- The handler of that file. -/
def jsonHandler : Handler :=
  ⟨.file ["run.log"], ⟨true, false, true⟩, 1⟩

/-- Fields of which one takes the place of what every entry has. -/
def escapedContext : Context :=
  [("size", .list [.int 2, .null]), ("name", .text "été")]

/-- The line of the entry with these fields. -/
def escapedLine : String :=
  "\x7b\"t\": \"1970-01-01T00:00:00+00:00\", \"lvl\": \"ERROR\", " ++
    "\"name\": \"\\u00e9t\\u00e9\", \"pid\": 4242, \"msg\": \"two\\nlines \\\"\\u007f\\\" \\ud83d\\ude00\", " ++
    "\"size\": [2, null], \"exc\": \"ValueError: bad\\tsize\"\x7d"

/-- The entry is logged with both fields and then without one of them. -/
def escapedHistory : List Step :=
  [.push escapedContext, .log escapedEntry, .pop (some ["size"]), .log escapedEntry]

theorem jsonStream_framed_escapedHistory :
    jsonHandler.style.json = true ∧ jsonSession.session.WritesAlone jsonHandler ∧
    (jsonSession.written jsonHandler escapedHistory).length = 2 ∧
    (∃ text, Gains jsonHandler.target jsonSession (jsonSession.run escapedHistory) text ∧
      Frames true (jsonSession.written jsonHandler escapedHistory) text) ∧
    IsFramed true escapedContext escapedEntry escapedLine := by
  have halone : jsonSession.session.WritesAlone jsonHandler := by
    unfold Session.WritesAlone
    decide +kernel
  have hfields : ∀ field ∈ escapedContext, field.2.IsPlain := by
    refine List.forall_mem_cons.2 ⟨.list ?_, List.forall_mem_singleton.2 (.text _)⟩
    exact List.forall_mem_cons.2 ⟨.int 2, List.forall_mem_singleton.2 .null⟩
  have hprocess : isWithinLimit escapedEntry.process = true := by decide +kernel
  have hempty : jsonSession.session.context = [] := List.isEmpty_iff.1 (by decide +kernel)
  have hsteps : ∀ s ∈ escapedHistory, s.IsPlain := by
    simp only [escapedHistory, List.forall_mem_cons, Step.IsPlain]
    exact ⟨hfields, hprocess, trivial, hprocess, fun _ hs => absurd hs List.not_mem_nil⟩
  obtain ⟨hrecords, hstream⟩ := jsonStream_framed jsonHandler rfl
  refine ⟨rfl, halone, by decide +kernel, hstream jsonSession escapedHistory halone ?_ hsteps, ?_⟩
  · rw [hempty]
    exact fun _ hfield => absurd hfield List.not_mem_nil
  · exact (hrecords escapedContext escapedEntry hfields hprocess).2 _ (by decide +kernel)

end State
end LabelPress.Log
