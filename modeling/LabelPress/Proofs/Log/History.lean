import LabelPress.Log.Session
import LabelPress.Proofs.Files.Effect

/-!
# Histories of logging

A history is a list of steps, each of which sets logging up, logs an entry or changes the context. Setups that
fail are steps like the others: what they have done before they fail stays. Whatever happens, files only gain: no
step takes a byte of a file away (`State.run_growsTo`).
-/

namespace LabelPress

/-! ## Growing files -/

/-- Every file is still there later, with what it had and perhaps more behind. -/
def Files.GrowsTo (files later : Files) : Prop :=
  ∀ place content, files.get? place = some (.file content) →
    ∃ more, later.get? place = some (.file (content ++ more))

namespace Files.GrowsTo

variable {files mid later : Files}

theorem refl (files : Files) : files.GrowsTo files :=
  fun _ content h => ⟨ByteArray.empty, by rwa [ByteArray.append_empty]⟩

theorem trans (hmid : files.GrowsTo mid) (hlater : mid.GrowsTo later) : files.GrowsTo later := by
  intro place content h
  obtain ⟨first, hfirst⟩ := hmid place content h
  obtain ⟨second, hsecond⟩ := hlater place _ hfirst
  exact ⟨first ++ second, by rw [hsecond, ByteArray.append_assoc]⟩

end Files.GrowsTo

namespace FileEffect

/-- An effect that makes something where nothing is, or writes at the end of a file. -/
def Adds (files : Files) : FileEffect → Prop
  | .makeFolder place | .truncate place => files.get? place = none
  | .append _ _ => True
  | .rename _ _ | .remove _ => False

theorem get?_append {files : Files} {place : List String} {content : ByteArray}
    (h : files.get? place = some (.file content)) (more : ByteArray) :
    (apply files (.append place more)).get? place = some (.file (content ++ more)) := by
  have hfolder : files.get? place ≠ some .folder := by
    intro hfolder
    cases h.symm.trans hfolder
  rw [apply, h]
  exact Files.get?_put_self (Files.isBase_eq_false_of_get? hfolder)

theorem growsTo_apply {files : Files} {e : FileEffect} (h : Adds files e) : files.GrowsTo (apply files e) := by
  intro place content hplace
  have hunchanged : place ∉ e.places → ∃ more, (apply files e).get? place = some (.file (content ++ more)) := by
    intro hmem
    rw [get?_apply hmem]
    exact Files.GrowsTo.refl files place content hplace
  cases e with
  | makeFolder other | truncate other =>
    refine hunchanged fun hmem => ?_
    obtain rfl := List.mem_singleton.1 hmem
    cases hplace.symm.trans h
  | append other more =>
    by_cases hsame : place = other
    · subst hsame
      exact ⟨more, get?_append hplace more⟩
    · exact hunchanged fun hmem => hsame (List.mem_singleton.1 hmem)
  | rename | remove => exact h.elim

theorem isTrace_append_only {effects : List FileEffect} (h : ∀ e ∈ effects, ∃ place content, e = .append place content)
    (files : Files) : IsTrace Adds files effects := by
  induction effects generalizing files with
  | nil => trivial
  | cons e effects ih =>
    obtain ⟨⟨place, content, rfl⟩, heffects⟩ := List.forall_mem_cons.1 h
    exact ⟨trivial, ih heffects _⟩

theorem growsTo_applyAll {effects : List FileEffect} {files : Files} (h : IsTrace Adds files effects) :
    files.GrowsTo (applyAll files effects) := by
  induction effects generalizing files with
  | nil => exact .refl files
  | cons e effects ih => exact (growsTo_apply h.1).trans (ih h.2)

end FileEffect

namespace Log

/-! ## Opening the log file -/

namespace Setup

open FileEffect (applyAll Adds)

variable {options : Setup} {files : Files}

theorem openAtEnd_eq (path : Path) (files : Files) : openAtEnd path files =
    match Files.writablePlace path files with
    | .error fault => ([], .error fault)
    | .ok place => (if files.get? place = none then [.truncate place] else [], .ok place) := by
  rw [openAtEnd, FileAction.ask_bind]
  cases Files.writablePlace path files with
  | error fault => rfl
  | ok place =>
    dsimp only
    rw [FileAction.ask_bind]
    cases hplace : files.get? place <;> rfl

theorem openAtEnd_doesOnly (path : Path) : (openAtEnd path).DoesOnly Adds := by
  intro files
  rw [openAtEnd_eq]
  cases Files.writablePlace path files with
  | error fault => trivial
  | ok place =>
    dsimp only
    split
    · next hmissing => exact ⟨hmissing, trivial⟩
    · trivial

theorem openLog_doesOnly (options : Setup) : options.openLog.DoesOnly Adds := by
  unfold openLog
  split
  · exact .ended _
  · exact .ended _
  · next name _ _ =>
    generalize Path.ofText name = path
    have hfolder : (Files.ensureFolder path.parent).DoesOnly Adds := by
      refine (Files.ensureFolder_doesOnly path.parent).mono fun files e h => ?_
      obtain ⟨place, names, rfl, -, -, hmissing, -⟩ := h
      exact hmissing
    dsimp only
    refine hfolder.bind fun _ => ?_
    exact (openAtEnd_doesOnly path.collapse).bind fun _ => .ended _

end Setup

/-! ## Setups -/

namespace Session

variable {s : Session} {options : Setup} {terminal : Bool} {files : Files}

/-- What a setup can come to. -/
inductive SetsUp (s : Session) (options : Setup) (terminal : Bool) (files : Files) : SetupResult → Prop
  | unknownLevel (hlevel : levelOfName? options.level = none) :
    SetsUp s options terminal files ⟨[], s, .error (.unknownLevel options.level)⟩
  | unusable {level : Int} {effects : List FileEffect} {fault : FileFault}
    (hlevel : levelOfName? options.level = some level) (hopen : options.openLog files = (effects, .error fault)) :
    SetsUp s options terminal files ⟨effects, s.streaming options terminal level, .error (.file fault)⟩
  | done {level : Int} {effects : List FileEffect} {place : Option (List String)}
    (hlevel : levelOfName? options.level = some level) (hopen : options.openLog files = (effects, .ok place)) :
    SetsUp s options terminal files
      ⟨effects, ((s.streaming options terminal level).complete options place).pushContext options.context,
        .ok ((s.streaming options terminal level).complete options place).installed⟩

theorem setUp_setsUp (s : Session) (options : Setup) (terminal : Bool) (files : Files) :
    SetsUp s options terminal files (s.setUp options terminal files) := by
  unfold setUp
  cases hlevel : levelOfName? options.level with
  | none => exact .unknownLevel hlevel
  | some level =>
    dsimp only
    rcases hopen : options.openLog files with ⟨effects, outcome⟩
    cases outcome with
    | error fault => exact .unusable hlevel hopen
    | ok place => exact .done hlevel hopen

/-- All effects of a setup come from opening the log file. -/
theorem setUp_adds (s : Session) (options : Setup) (terminal : Bool) (files : Files) :
    FileEffect.IsTrace FileEffect.Adds files (s.setUp options terminal files).effects := by
  have hopened := options.openLog_doesOnly files
  have hsetsUp := s.setUp_setsUp options terminal files
  generalize s.setUp options terminal files = r at hsetsUp ⊢
  cases hsetsUp with
  | unknownLevel => trivial
  | unusable _ hopen | done _ hopen =>
    rw [hopen] at hopened
    exact hopened

/-! ## Entries -/

theorem writeLine_effects {line : String} {target : Target} {effect : FileEffect}
    (h : effect ∈ (writeLine line target).effects) : ∃ place content, effect = .append place content := by
  cases target with
  | errorStream => cases h
  | file place => exact ⟨place, _, List.mem_singleton.1 h⟩

theorem emit_adds (s : Session) (e : Entry) (files : Files) :
    FileEffect.IsTrace FileEffect.Adds files (s.emit e).effects := by
  refine FileEffect.isTrace_append_only (fun effect h => ?_) files
  unfold emit at h
  split at h
  · cases h
  · split at h
    · split at h <;> cases h
    · obtain ⟨written, hwritten, h⟩ := List.mem_flatMap.1 h
      obtain ⟨delivery, -, rfl⟩ := List.mem_map.1 hwritten
      exact writeLine_effects h

end Session

/-! ## Steps -/

/-- A session with the files and the error stream that it writes to. -/
structure State where
  session : Session
  files : Files
  errors : String := ""

/-- One step of a history. -/
inductive Step where
  | setUp (options : Setup) (terminal : Bool)
  | log (e : Entry)
  | push (fields : List (String × Value))
  | pop (keys : Option (List String))

namespace State

/-- A session that has not been set up yet. -/
def quiet : State where
  session := {}
  files := Files.empty

/-- What a setup would do now. -/
def setUp (st : State) (options : Setup) (terminal : Bool) : Session.SetupResult :=
  st.session.setUp options terminal st.files

/-- The state after a step. -/
def step (st : State) : Step → State
  | .setUp options terminal =>
    { st with
      session := (st.setUp options terminal).session
      files := FileEffect.applyAll st.files (st.setUp options terminal).effects }
  | .log e =>
    { st with
      files := FileEffect.applyAll st.files (st.session.emit e).effects
      errors := st.errors ++ (st.session.emit e).errors }
  | .push fields => { st with session := st.session.pushContext fields }
  | .pop keys => { st with session := st.session.popContext keys }

/-- The state after some steps. -/
def run (st : State) (steps : List Step) : State :=
  steps.foldl step st

theorem run_append (st : State) (first second : List Step) :
    st.run (first ++ second) = (st.run first).run second :=
  List.foldl_append

theorem run_concat (st : State) (steps : List Step) (s : Step) : st.run (steps ++ [s]) = (st.run steps).step s :=
  st.run_append steps [s]

theorem step_growsTo (st : State) (s : Step) : st.files.GrowsTo (st.step s).files := by
  cases s with
  | setUp options terminal => exact FileEffect.growsTo_applyAll (st.session.setUp_adds options terminal st.files)
  | log e => exact FileEffect.growsTo_applyAll (st.session.emit_adds e st.files)
  | push fields | pop keys => exact .refl st.files

end State

end Log
end LabelPress
