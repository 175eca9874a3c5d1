import LabelPress.Proofs.Log.History
import LabelPress.Proofs.Outcome

/-!
# Who writes what of an entry

A handler makes a line of every entry but one that has no text in its style (`Handler.line?_isSome`). An entry that
passes the level adds those lines, each with its end, to the error stream and to the log files, and nothing else
(`State.log_errors`, `State.log_files`); a handler that is attached once writes its line once
(`Session.deliveries_filter`).
-/

namespace LabelPress.Log

/-- Whether an entry has a text in the style of a handler: it has a date and, in JSON, fields that can be written. -/
structure Handler.HasText (h : Handler) (c : Context) (e : Entry) : Prop where
  date : ∃ time, Timestamp.moment e.created h.style.universal = .ok time
  fields : h.style.json = true → showsInJson c e = true

/-- The line of a handler is a JSON object of fields that can be written, or a line for people. -/
theorem Handler.line?_eq_some_iff {h : Handler} {c : Context} {e : Entry} {line : String} :
    h.line? c e = some line ↔ (h.style.json = true → showsInJson c e = true) ∧
      ∃ time, Timestamp.moment e.created h.style.universal = .ok time ∧
        line = if h.style.json then jsonLine c e time else humanLine h.style c e time := by
  unfold Handler.line? Log.line
  split
  · next hrefused =>
    obtain ⟨hjson, hfields⟩ := Bool.and_eq_true_iff.1 hrefused
    refine iff_of_false (nomatch ·) fun ⟨hshows, _⟩ => ?_
    rw [hshows hjson] at hfields
    cases hfields
  · next hwritten =>
    have hshows : h.style.json = true → showsInJson c e = true := by simpa using hwritten
    rw [and_iff_right hshows]
    cases Timestamp.moment e.created h.style.universal with
    | error fault => exact iff_of_false (nomatch ·) fun ⟨_, hnone, _⟩ => nomatch hnone
    | ok time =>
      refine ⟨fun hline => ⟨time, rfl, (Option.some.inj hline).symm⟩, ?_⟩
      rintro ⟨other, hother, rfl⟩
      obtain rfl := Except.ok.inj hother
      rfl

theorem Handler.line?_isSome {h : Handler} {c : Context} {e : Entry} : (h.line? c e).isSome ↔ h.HasText c e := by
  rw [Option.isSome_iff_exists]
  constructor
  · rintro ⟨line, hline⟩
    obtain ⟨hfields, time, htime, -⟩ := Handler.line?_eq_some_iff.1 hline
    exact ⟨⟨time, htime⟩, hfields⟩
  · rintro ⟨⟨time, htime⟩, hfields⟩
    exact ⟨_, Handler.line?_eq_some_iff.2 ⟨hfields, time, htime, rfl⟩⟩

/-! ## Deliveries -/

/-- The lines that go to a target, each with its end. -/
def linesFor (target : Target) (deliveries : List (Handler × String)) : String :=
  String.join ((deliveries.filter fun delivery => delivery.1.target = target).map fun delivery => delivery.2 ++ "\n")

theorem linesFor_nil (target : Target) : linesFor target [] = "" :=
  rfl

theorem linesFor_cons (target : Target) (delivery : Handler × String) (deliveries : List (Handler × String)) :
    linesFor target (delivery :: deliveries) =
      (if delivery.1.target = target then delivery.2 ++ "\n" else "") ++ linesFor target deliveries := by
  unfold linesFor
  by_cases h : delivery.1.target = target <;> simp [h]

namespace Session

variable {s : Session} {e : Entry}

theorem emit_errors (hpasses : s.passes e.level = true) (hattached : s.handlers ≠ []) :
    (s.emit e).errors = linesFor .errorStream (s.deliveries e) := by
  have hlines : ∀ deliveries : List (Handler × String),
      String.join ((deliveries.map fun delivery => writeLine delivery.2 delivery.1.target).map Written.errors) =
        linesFor .errorStream deliveries := by
    intro deliveries
    induction deliveries with
    | nil => rfl
    | cons delivery deliveries ih =>
      rw [List.map_cons, List.map_cons, String.join_cons, ih, linesFor_cons]
      cases delivery.1.target <;> rfl
  unfold emit
  rw [hpasses, if_neg (by decide), if_neg (by simpa using hattached)]
  exact hlines _

theorem emit_effects (hpasses : s.passes e.level = true) :
    (s.emit e).effects = (s.deliveries e).flatMap fun delivery => (writeLine delivery.2 delivery.1.target).effects := by
  unfold emit
  rw [hpasses, if_neg (by decide)]
  by_cases hattached : s.handlers = []
  · have hnothing : s.deliveries e = [] := by rw [deliveries, hattached, List.filterMap_nil]
    rw [if_pos (by rw [hattached]; rfl), hnothing]
    split <;> rfl
  · rw [if_neg (by simpa using hattached)]
    dsimp only
    rw [List.flatMap_map]

end Session

namespace State

variable {st : State} {e : Entry}

/-- **What is added to the error stream**: the lines for it. -/
theorem log_errors (hpasses : st.session.passes e.level = true) (hattached : st.session.handlers ≠ []) :
    (st.step (.log e)).errors = st.errors ++ linesFor .errorStream (st.session.deliveries e) :=
  congrArg (st.errors ++ ·) (Session.emit_errors hpasses hattached)

theorem get?_applyAll_deliveries {files : Files} {place : List String} {content : ByteArray}
    (hplace : files.get? place = some (.file content)) (deliveries : List (Handler × String)) :
    (FileEffect.applyAll files (deliveries.flatMap fun delivery =>
      (Session.writeLine delivery.2 delivery.1.target).effects)).get? place =
        some (.file (content ++ (linesFor (.file place) deliveries).toUTF8)) := by
  induction deliveries generalizing files content with
  | nil =>
    rw [linesFor_nil]
    exact hplace.trans (by rw [String.toUTF8, String.toByteArray_empty, ByteArray.append_empty])
  | cons delivery deliveries ih =>
    rw [List.flatMap_cons, FileEffect.applyAll_append, linesFor_cons]
    by_cases htarget : delivery.1.target = .file place
    · have hwritten := FileEffect.get?_append hplace (delivery.2 ++ "\n").toUTF8
      rw [if_pos htarget, htarget]
      refine (ih hwritten).trans ?_
      rw [ByteArray.append_assoc]
      exact congrArg (fun more => some (Node.file (content ++ more))) String.toByteArray_append.symm
    · have helsewhere : (FileEffect.applyAll files
          (Session.writeLine delivery.2 delivery.1.target).effects).get? place = some (.file content) := by
        rw [FileEffect.get?_applyAll, hplace]
        intro effect heffect hmem
        cases hother : delivery.1.target with
        | errorStream =>
          rw [hother] at heffect
          cases heffect
        | file other =>
          rw [hother] at heffect htarget
          rw [List.mem_singleton.1 heffect] at hmem
          exact htarget (congrArg Target.file (List.mem_singleton.1 hmem).symm)
      rw [if_neg htarget, String.empty_append]
      exact ih helsewhere

/-- **What is added to a log file**: the lines for it. -/
theorem log_files (hpasses : st.session.passes e.level = true) {place : List String} {content : ByteArray}
    (hplace : st.files.get? place = some (.file content)) : (st.step (.log e)).files.get? place =
      some (.file (content ++ (linesFor (.file place) (st.session.deliveries e)).toUTF8)) := by
  change (FileEffect.applyAll st.files (st.session.emit e).effects).get? place = _
  rw [Session.emit_effects hpasses, get?_applyAll_deliveries hplace]

end State
end LabelPress.Log
