import LabelPress.CommandLine.Run
import LabelPress.Proofs.Outcome

/-!
# What a run comes to

A run is the delivery of a job, told to a log that only writes to the error stream (`run_eq`). So what it
delivers and how it ends do not depend on how it logs, as long as its level is known.
-/

namespace LabelPress.CommandLine

/-- The handler that arguments set up. -/
def Arguments.logHandler (a : Arguments) (host : Host) : Log.Handler where
  target := .errorStream
  style := a.logSetup.style host.terminal
  number := 0

/-- The session that arguments set up. -/
def Arguments.session (a : Arguments) (level : Int) (host : Host) : Log.Session where
  level := level
  handlers := [a.logHandler host]
  context := programContext
  installed := [a.logHandler host]
  made := 1

/-- What the session of a run writes: the line of the one handler, to the error stream. -/
theorem emit_session (a : Arguments) (level : Int) (host : Host) (entry : Log.Entry) :
    (a.session level host).emit entry =
      if (a.session level host).passes entry.level then
        match (a.logHandler host).line? programContext entry with
        | some line => { errors := line ++ "\n" }
        | none => {}
      else {} := by
  have hdeliveries : (a.session level host).deliveries entry =
      (((a.logHandler host).line? programContext entry).map (a.logHandler host, ·)).toList := by
    change [a.logHandler host].filterMap (fun h => (h.line? programContext entry).map (h, ·)) = _
    rw [List.filterMap_cons, List.filterMap_nil]
    cases (a.logHandler host).line? programContext entry <;> rfl
  rw [Log.Session.emit, hdeliveries]
  cases (a.session level host).passes entry.level with
  | false => rfl
  | true =>
    cases (a.logHandler host).line? programContext entry with
    | none => rfl
    | some line =>
      have herrors : String.join [line ++ "\n"] = line ++ "\n" := by simp
      exact congrArg (Log.Session.Written.mk · []) herrors

theorem logged_effects (a : Arguments) (level : Int) (host : Host) (events : List Event) :
    (host.logged (a.session level host) events).effects = [] := by
  have hemit : ∀ entry, ((a.session level host).emit entry).effects = [] := by
    intro entry
    rw [emit_session]
    split
    · split <;> rfl
    · rfl
  simp only [Host.logged, List.flatMap_map, hemit, List.flatMap_eq_nil_iff, implies_true]

/-- **A run is the delivery of its job**, unless it ends at the level of its log. -/
theorem Arguments.run_eq (a : Arguments) (host : Host) (files : Files) : a.run host files =
    match Log.levelOfName? a.logLevel with
    | none => { ending := .noLog (.unknownLevel a.logLevel) }
    | some level => {
        output := (Delivery.ofArguments a host.room files).output
        errors := (host.logged (a.session level host) (Delivery.ofArguments a host.room files).allEvents).errors
        effects := (Delivery.ofArguments a host.room files).effects
        ending := (Delivery.ofArguments a host.room files).ending } := by
  have hsetUp : ({} : Log.Session).setUp a.logSetup host.terminal files =
      match Log.levelOfName? a.logLevel with
      | none => ⟨[], {}, .error (.unknownLevel a.logLevel)⟩
      | some level => ⟨[], a.session level host, .ok [a.logHandler host]⟩ := by
    unfold Log.Session.setUp
    change (match Log.levelOfName? a.logLevel with | none => _ | some level => _) = _
    split <;> rfl
  rw [run, hsetUp]
  cases Log.levelOfName? a.logLevel with
  | none => rfl
  | some level =>
    dsimp only
    rw [logged_effects, List.nil_append, List.append_nil]

/-! ## Deliveries -/

namespace Delivery

variable {a : Arguments} {room : Nat} {files : Files}

theorem ofArguments_of_error {e : JobError} (h : (a.sheet room files).outcome = .error e) :
    ofArguments a room files = { events := (a.sheet room files).events, outcome := .error e } := by
  rw [ofArguments, h]

theorem ofArguments_of_ok {s : Sheet} (h : (a.sheet room files).outcome = .ok s) :
    (ofArguments a room files).output = (ofSheet a.output s files).output ∧
      (ofArguments a room files).effects = (ofSheet a.output s files).effects ∧
      (ofArguments a room files).outcome = (ofSheet a.output s files).outcome := by
  rw [ofArguments, h]
  exact ⟨rfl, rfl, rfl⟩

theorem ofSheet_some (path : Path) (s : Sheet) (files : Files) :
    (ofSheet (some path) s files).output = "" ∧
      (ofSheet (some path) s files).effects = (AtomicWrite.writeText path s.document.text "utf-8" files).1 ∧
      (ofSheet (some path) s files).outcome =
        (AtomicWrite.writeText path s.document.text "utf-8" files).2.mapError .output := by
  unfold ofSheet
  dsimp only
  rcases AtomicWrite.writeText path s.document.text "utf-8" files with ⟨effects, outcome⟩
  cases outcome <;> exact ⟨rfl, rfl, rfl⟩

theorem ending_eq_exit_zero {d : Delivery} : d.ending = .exit 0 ↔ d.outcome = .ok () := by
  unfold ending
  cases d.outcome with
  | ok => exact iff_of_true rfl rfl
  | error e =>
    refine iff_of_false (fun h => ?_) fun h => nomatch h
    dsimp only at h
    split at h <;> cases h

end Delivery
end LabelPress.CommandLine
