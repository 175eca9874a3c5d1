import LabelPress.Proofs.Log.Handlers

/-!
# Setups that fail

A setup with an unknown level is refused before anything is changed. One whose log file cannot be used has by then
taken away the handlers of earlier setups and set its level, so that nothing is logged as before unless there were no
such handlers and the level is the same (`State.failedSetUp_logsAs_iff`). The context is left in both cases.
-/

namespace LabelPress.Log

namespace Session

variable {s : Session} {options : Setup} {terminal : Bool}

/-- **A setup that fails** for its level changes nothing. One that fails for its log file leaves the handlers of others
alone, and it lists as installed what it has not attached. -/
theorem Keeps.setUp_eq_error {others : List Handler} {start : Nat} (hk : s.Keeps others start) {files : Files}
    {fault : SetupFault} (h : (s.setUp options terminal files).outcome = .error fault) :
    levelOfName? options.level = none ∧ (s.setUp options terminal files).session = s ∧
      (s.setUp options terminal files).effects = [] ∨
    ∃ level, levelOfName? options.level = some level ∧ (s.setUp options terminal files).session =
      { level := level
        handlers := others
        context := s.context
        installed := options.newHandlers terminal none s.made
        made := s.made + (options.newHandlers terminal none s.made).length } := by
  have hsetsUp := s.setUp_setsUp options terminal files
  generalize s.setUp options terminal files = r at hsetsUp h ⊢
  cases hsetsUp with
  | unknownLevel hlevel => exact .inl ⟨hlevel, rfl, rfl⟩
  | unusable hlevel => exact .inr ⟨_, hlevel, hk.streaming_eq⟩
  | done => cases h

/-- Whether two sessions write alike. What they list as installed does not matter for that. -/
structure Alike (s t : Session) : Prop where
  handlers : s.handlers = t.handlers
  level : s.level = t.level
  context : s.context = t.context

theorem Alike.emit_eq {t : Session} (h : s.Alike t) (e : Entry) : s.emit e = t.emit e := by
  unfold emit deliveries passes
  rw [h.handlers, h.level, h.context]

end Session

namespace State

variable {st other : State}

theorem alike_step (h : st.session.Alike other.session) {s : Step} (hs : ¬s.IsSetUp) :
    (st.step s).session.Alike (other.step s).session := by
  cases s with
  | setUp => exact absurd trivial hs
  | log => exact ⟨h.handlers, h.level, h.context⟩
  | push fields => exact ⟨h.handlers, h.level, congrArg (Context.push · fields) h.context⟩
  | pop keys =>
    cases keys with
    | none => exact ⟨h.handlers, h.level, rfl⟩
    | some keys => exact ⟨h.handlers, h.level, congrArg (Context.pop · keys) h.context⟩

theorem alike_run (h : st.session.Alike other.session) {steps : List Step} (hsteps : ∀ s ∈ steps, ¬s.IsSetUp) :
    (st.run steps).session.Alike (other.run steps).session := by
  induction steps generalizing st other with
  | nil => exact h
  | cons s steps ih =>
    obtain ⟨hs, hsteps⟩ := List.forall_mem_cons.1 hsteps
    exact ih (alike_step h hs) hsteps

/-- A state logs as another one does: it has the same handlers, level and context, and until the next setup all
entries are written alike. -/
structure LogsAs (st other : State) : Prop where
  session : st.session.Alike other.session
  writes : ∀ later, (∀ s ∈ later, ¬s.IsSetUp) → ∀ e, (st.run later).session.emit e = (other.run later).session.emit e

theorem logsAs_iff : st.LogsAs other ↔ st.session.Alike other.session :=
  ⟨LogsAs.session, fun h => ⟨h, fun _ hlater e => (alike_run h hlater).emit_eq e⟩⟩

/-- What a setup leaves that fails after some steps. -/
structure IsLeft (st : State) (steps : List Step) (options : Setup) (terminal : Bool) : Prop where
  context : ((st.run steps).step (.setUp options terminal)).session.context = (st.run steps).session.context
  files : (st.run steps).files.GrowsTo ((st.run steps).step (.setUp options terminal)).files
  /-- An unknown level is refused before anything is changed. -/
  unknown : levelOfName? options.level = none → (st.run steps).step (.setUp options terminal) = st.run steps
  /-- An unusable log file is found after the handlers of earlier setups have been taken away. -/
  known : ∀ level, levelOfName? options.level = some level →
    ((st.run steps).step (.setUp options terminal)).session.handlers = st.session.handlers ∧
    ((st.run steps).step (.setUp options terminal)).session.level = level
  logsAs_iff : ((st.run steps).step (.setUp options terminal)).LogsAs (st.run steps) ↔
    levelOfName? options.level = none ∨
      levelOfName? options.level = some (st.run steps).session.level ∧
        (st.run steps).session.handlers = st.session.handlers

/-- **When a setup that fails changes nothing of the logging**: if its level is unknown, or if there was nothing to
change. -/
theorem failedSetUp_logsAs_iff (st : State) (hfresh : st.session.IsFresh) (steps : List Step) (options : Setup)
    (terminal : Bool) (fault : SetupFault) (hfault : ((st.run steps).setUp options terminal).outcome = .error fault) :
    st.IsLeft steps options terminal := by
  obtain ⟨hk, -⟩ := run_keeps hfresh.keeps steps
  have hgrows := (st.run steps).step_growsTo (.setUp options terminal)
  rcases hk.setUp_eq_error hfault with ⟨hlevel, hsession, heffects⟩ | ⟨level, hlevel, hsession⟩
  · have hstep : (st.run steps).step (.setUp options terminal) = st.run steps := by
      rw [step, setUp, hsession, heffects]
      rfl
    refine ⟨congrArg (·.session.context) hstep, hgrows, fun _ => hstep, fun level hknown => ?_, ?_⟩
    · cases hlevel.symm.trans hknown
    · rw [hstep]
      exact iff_of_true (State.logsAs_iff.2 ⟨rfl, rfl, rfl⟩) (.inl hlevel)
  · have hstep : ((st.run steps).step (.setUp options terminal)).session = _ := hsession
    refine ⟨by rw [hstep], hgrows, fun hunknown => ?_, fun known hknown => ?_, ?_⟩
    · cases hunknown.symm.trans hlevel
    · obtain rfl := Option.some.inj (hlevel.symm.trans hknown)
      rw [hstep]
      exact ⟨rfl, rfl⟩
    · rw [State.logsAs_iff, hstep, hlevel]
      constructor
      · intro h
        exact .inr ⟨congrArg some h.level, h.handlers.symm⟩
      · rintro (hnone | ⟨hsame, hnothing⟩)
        · cases hnone
        · exact ⟨hnothing.symm, Option.some.inj hsame, rfl⟩

/-- After a setup that ended well, one whose log file is a folder takes away the two handlers of the first. -/
theorem failedSetUp_logsAs_iff_folder :
    sharedStream.session.IsFresh ∧
    ((sharedStream.run [.setUp loggedRun true]).setUp { file := some "logs" } true).outcome =
      .error (.file (.refused .isFolder ⟨"", ["logs"]⟩ none)) ∧
    sharedStream.IsLeft [.setUp loggedRun true] { file := some "logs" } true ∧
    (sharedStream.run [.setUp loggedRun true]).session.handlers.length = 3 := by
  have hfresh : sharedStream.session.IsFresh := ⟨rfl, by decide⟩
  have hfault : ((sharedStream.run [.setUp loggedRun true]).setUp { file := some "logs" } true).outcome =
      .error (.file (.refused .isFolder ⟨"", ["logs"]⟩ none)) := by
    decide +kernel
  exact ⟨hfresh, hfault, failedSetUp_logsAs_iff sharedStream hfresh _ _ _ _ hfault, by decide +kernel⟩

/-- A setup that fails need not leave the logging as it was. -/
theorem failedSetUp_not_logsAs : ¬∀ (st : State) (steps : List Step) (options : Setup) (terminal : Bool)
    (fault : SetupFault), st.session.IsFresh → ((st.run steps).setUp options terminal).outcome = .error fault →
      ((st.run steps).step (.setUp options terminal)).LogsAs (st.run steps) := by
  intro h
  have hfault : ((quiet.run [.setUp { file := some "a/b.log" } false]).setUp { file := some "a" } false).outcome =
      .error (.file (.refused .isFolder ⟨"", ["a"]⟩ none)) := by
    decide +kernel
  have hlogs := h quiet [.setUp { file := some "a/b.log" } false] { file := some "a" } false _
    ⟨rfl, fun _ hmem => absurd hmem List.not_mem_nil⟩ hfault
  have hhandlers : ((quiet.run [.setUp { file := some "a/b.log" } false]).step
      (.setUp { file := some "a" } false)).session.handlers ≠
        (quiet.run [.setUp { file := some "a/b.log" } false]).session.handlers := by
    decide +kernel
  exact hhandlers hlogs.session.handlers

end State
end LabelPress.Log
