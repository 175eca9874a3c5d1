import LabelPress.CommandLine.Arguments
import LabelPress.Log.Level

/-!
# Arguments of logging

The switches that say how to log are read on their own: whatever they are, the other arguments are read as they
are without them (`read_jsonLogs_agrees`, `read_logLevel_agrees`). Levels only need to be known ones, since the program
ends at one that is not.
-/

namespace LabelPress.CommandLine

/-! ## Outcomes that are alike -/

/-- Outcomes with the same failure, or with related results. -/
inductive Alike {ε α : Type} (R : α → α → Prop) : Except ε α → Except ε α → Prop
  | ok {x y : α} (h : R x y) : Alike R (.ok x) (.ok y)
  | error (e : ε) : Alike R (.error e) (.error e)

namespace Alike

variable {ε ε' α β : Type} {R : α → α → Prop} {S : β → β → Prop} {r r' : Except ε α}

theorem bind (h : Alike R r r') {f g : α → Except ε β} (hfg : ∀ x y, R x y → Alike S (f x) (g y)) :
    Alike S (r >>= f) (r' >>= g) := by
  cases h with
  | ok h => exact hfg _ _ h
  | error e => exact .error e

theorem mapError (h : Alike R r r') (f : ε → ε') : Alike R (r.mapError f) (r'.mapError f) := by
  cases h with
  | ok h => exact .ok h
  | error e => exact .error (f e)

end Alike

/-! ## Arguments that agree -/

/-- The name of a level. -/
def IsLevelName (name : String) : Prop :=
  (Log.levelOfName? name).isSome = true

/-- Preferences that are the same but for how to log. Levels may differ as long as both are known. -/
structure Preferences.AgreeButLog (p q : Preferences) : Prop where
  size : p.size = q.size
  options : p.options = q.options
  itemsPerPage : p.itemsPerPage = q.itemsPerPage
  includeId : p.includeId = q.includeId
  output : p.output = q.output
  logLevel : p.logLevel = q.logLevel ∨ (IsLevelName p.logLevel ∧ IsLevelName q.logLevel)

structure Choices.AgreeButLog (c d : Choices) : Prop extends
    Preferences.AgreeButLog c.toPreferences d.toPreferences where
  source : c.source = d.source
  leftOver : c.leftOver = d.leftOver

structure Arguments.AgreeButLog (a b : Arguments) : Prop extends
    Preferences.AgreeButLog a.toPreferences b.toPreferences where
  source : a.source = b.source

namespace Choices

variable {c d : Choices}

theorem takeSource_agrees (h : c.AgreeButLog d) (s : Source) :
    Alike AgreeButLog (c.takeSource s) (d.takeSource s) := by
  unfold takeSource
  rw [← h.source]
  split
  · exact .ok { h with source := rfl }
  · split
    · exact .ok { h with source := rfl }
    · exact .error _

theorem take_agrees (h : c.AgreeButLog d) (use : Use) : Alike AgreeButLog (c.take use) (d.take use) := by
  obtain ⟨s, value⟩ := use
  cases s with
  | help => exact .error _
  | records | values => exact takeSource_agrees h _
  | size => exact .ok { h with size := rfl }
  | options => exact .ok { h with options := rfl }
  | itemsPerPage =>
    simp only [take]
    split
    · exact .ok { h with itemsPerPage := rfl }
    · exact .error _
  | includeId => exact .ok { h with includeId := rfl }
  | output => exact .ok { h with output := rfl }
  | logLevel => exact .ok { h with logLevel := .inl rfl }
  | jsonLogs => exact .ok { h with }

theorem leave_agrees (h : c.AgreeButLog d) (text : String) : (c.leave text).AgreeButLog (d.leave text) :=
  { h with leftOver := by rw [leave, leave, h.leftOver] }

theorem foldlM_agrees (h : c.AgreeButLog d) (uses : List Use) :
    Alike AgreeButLog (uses.foldlM take c) (uses.foldlM take d) := by
  induction uses generalizing c d with
  | nil => exact .ok h
  | cons use uses ih =>
    rw [List.foldlM_cons, List.foldlM_cons]
    exact (take_agrees h use).bind fun _ _ h => ih h

/-- **Words are taken alike** whatever has been chosen for the log so far. -/
theorem takeWords_agrees {c d : Choices} (h : c.AgreeButLog d) (words : List Word) :
    Alike AgreeButLog (c.takeWords words) (d.takeWords words) := by
  induction c, words using takeWords.induct generalizing d with
  | case1 c => exact .ok h
  | case2 c text words ih | case4 c text words ih => exact ih (leave_agrees h text)
  | case3 c words ih => exact ih (leave_agrees h "--")
  | case5 c s attached words fault huses =>
    rw [takeWords.eq_5 _ _ _ _ _ huses, takeWords.eq_5 _ _ _ _ _ huses]
    exact .error _
  | case6 c s attached uses words huses ih =>
    rw [takeWords.eq_6 _ _ _ _ _ huses, takeWords.eq_6 _ _ _ _ _ huses]
    exact (foldlM_agrees h uses).bind fun x _ h => ih x h
  | case7 c s attached uses text words huses ih =>
    rw [takeWords.eq_7 _ _ _ _ _ _ huses, takeWords.eq_7 _ _ _ _ _ _ huses]
    exact (foldlM_agrees h uses).bind fun x _ h => ih x (leave_agrees h text)
  | case8 c s attached uses pending value words huses ih =>
    rw [takeWords.eq_8 _ _ _ _ _ _ _ huses, takeWords.eq_8 _ _ _ _ _ _ _ huses]
    exact (foldlM_agrees h _).bind fun x _ h => ih x h
  | case9 c s attached words uses pending huses hvalue =>
    rw [takeWords.eq_9 _ _ _ _ _ _ huses hvalue, takeWords.eq_9 _ _ _ _ _ _ huses hvalue]
    exact .error _

theorem complete_agrees (h : c.AgreeButLog d) :
    Alike Arguments.AgreeButLog c.complete d.complete := by
  unfold complete
  rw [← h.source, ← h.leftOver]
  split
  · exact .error _
  · split
    · exact .ok { h with source := rfl }
    · exact .error _

end Choices

namespace Arguments

theorem read_eq (argv : List String) : read argv = (do
    let words ← (Word.ofArguments argv).mapError .fault
    (Choices.takeWords {} words) >>= fun c => c.complete.mapError .fault) :=
  rfl

/-- Words in front that only choose how to log change nothing else. -/
theorem read_agrees {argv : List String} (front : List String) (words : List Word) {c : Choices}
    (hfront : Word.ofArguments (front ++ argv) = (Word.ofArguments argv).map (words ++ ·))
    (htake : ∀ rest, Choices.takeWords {} (words ++ rest) = c.takeWords rest)
    (hc : c.AgreeButLog {}) : Alike AgreeButLog (read (front ++ argv)) (read argv) := by
  rw [read_eq, read_eq, hfront]
  cases Word.ofArguments argv with
  | error fault => exact .error _
  | ok rest =>
    change Alike _ (Choices.takeWords {} (words ++ rest) >>= _) (Choices.takeWords {} rest >>= _)
    rw [htake]
    exact (Choices.takeWords_agrees hc rest).bind fun _ _ h => (Choices.complete_agrees h).mapError _

theorem read_jsonLogs_agrees (argv : List String) :
    Alike AgreeButLog (read ("--json-logs" :: argv)) (read argv) := by
  refine read_agrees ["--json-logs"] [.switch .jsonLogs .nothing]
    (c := { jsonLogs := true }) ?_ (fun rest => ?_) ⟨⟨rfl, rfl, rfl, rfl, rfl, .inl rfl⟩, rfl, rfl⟩
  · have hword : Word.ofArgument "--json-logs" = .ok (.switch .jsonLogs .nothing) := rfl
    rw [List.singleton_append, Word.ofArguments, if_neg (by decide), hword]
    cases Word.ofArguments argv <;> rfl
  · have huses : usesOf .jsonLogs .nothing = .ok ([(.jsonLogs, "")], .nothing) := rfl
    exact Choices.takeWords.eq_6 _ _ _ _ _ huses

/-- The name of a level is no switch. -/
theorem ofArgument_of_isLevelName {level : String} (h : IsLevelName level) :
    level ≠ "--" ∧ Word.ofArgument level = .ok (.plain level) := by
  have hdash : ∀ rest, level.toList ≠ '-' :: rest := by
    intro rest hlevel
    rw [IsLevelName, Log.levelOfName?, Option.isSome_map] at h
    obtain ⟨entry, hentry⟩ := Option.isSome_iff_exists.1 h
    have hname : entry.1 = upperCase level := by simpa using List.find?_some hentry
    have hupper : (upperCase level).toList.head? = some '-' := by
      rw [upperCase, String.toList_ofList, hlevel]
      rfl
    rw [← hname] at hupper
    have hnames : ∀ entry ∈ Log.namedLevels, entry.1.toList.head? ≠ some '-' := by decide
    exact hnames entry (List.mem_of_find?_eq_some hentry) hupper
  constructor
  · rintro rfl
    exact hdash ['-'] rfl
  · unfold Word.ofArgument
    split
    · next c rest hlevel => exact absurd hlevel (hdash _)
    · rfl

theorem read_logLevel_agrees {level : String} (h : IsLevelName level) (argv : List String) :
    Alike AgreeButLog (read ("--log-level" :: level :: argv)) (read argv) := by
  obtain ⟨hseparator, hplain⟩ := ofArgument_of_isLevelName h
  refine read_agrees ["--log-level", level] [.switch .logLevel .nothing, .plain level]
    (c := { logLevel := level }) ?_ (fun rest => ?_) ⟨⟨rfl, rfl, rfl, rfl, rfl, .inr ⟨h, rfl⟩⟩, rfl, rfl⟩
  · have hword : Word.ofArgument "--log-level" = .ok (.switch .logLevel .nothing) := rfl
    rw [List.cons_append, List.singleton_append, Word.ofArguments, if_neg (by decide), hword, Word.ofArguments,
      if_neg hseparator, hplain]
    cases Word.ofArguments argv <;> rfl
  · have huses : usesOf .logLevel .nothing = .ok ([], .value .logLevel) := rfl
    exact Choices.takeWords.eq_8 _ _ _ _ _ _ _ huses

end Arguments
end LabelPress.CommandLine
