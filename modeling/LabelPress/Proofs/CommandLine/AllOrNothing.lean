import LabelPress.Proofs.AtomicWrite
import LabelPress.Proofs.CommandLine.Arguments
import LabelPress.Proofs.CommandLine.Run

/-!
# Runs are all or nothing

A run that ends well hands out the whole document that its arguments and files make, on the standard output or
in the output file; any other run hands out nothing and leaves the output file as it was (`run_allOrNothing`).
Neither depends on how the run logs. An output path that leads through a missing folder and back is the one case
where a failed run shows, by the folder that it has made.
-/

namespace LabelPress.CommandLine

/-- What arguments and files make, with texts that stand for halves of pairs: the options and the labels are read, and
a document is generated for them. -/
def Arguments.MakesWith (a : Arguments) (room : Nat) (half : Nat → String) (files : Files) (d : Document) : Prop :=
  ∃ fileSize overrides,
    (Sources.buildOptions room files a.options a.directOptions).outcome = .ok (fileSize, overrides) ∧
    match a.source with
    | .records path => ∃ records, Sources.readRecords files path half = .ok records ∧
      (Generation.ofRecords (sizeOf a.size fileSize) records (.validated overrides)).outcome = .ok d
    | .values path => ∃ values, Sources.readValues files path = .ok values ∧
      (Generation.ofValues values (sizeOf a.size fileSize) (.validated overrides)).outcome = .ok d

/-- What arguments and files make: a document without halves of pairs, so the same one whatever stands for them. -/
def Arguments.Makes (a : Arguments) (room : Nat) (files : Files) (d : Document) : Prop :=
  ∀ plane ∈ [firstPrivatePlane, secondPrivatePlane], a.MakesWith room (standIn plane) files d

namespace Arguments

variable {a b : Arguments} {room : Nat} {half : Nat → String} {files : Files}

theorem makesWith_of_sheetWith {s : Sheet} (h : (a.sheetWith room half files).outcome = .ok s) :
    a.MakesWith room half files s.document := by
  rw [sheetWith, Logged.outcome_bind, Logged.outcome_mapError] at h
  obtain ⟨⟨fileSize, overrides⟩, hoptions, h⟩ := except_bind_eq_ok.1 h
  refine ⟨fileSize, overrides, except_mapError_eq_ok.1 hoptions, ?_⟩
  dsimp only at h
  cases hsource : a.source with
  | records path =>
    rw [hsource, Logged.outcome_bind, Logged.outcome_ofExcept] at h
    obtain ⟨records, hrecords, h⟩ := except_bind_eq_ok.1 h
    rw [Logged.outcome_bind, Logged.outcome_mapError] at h
    obtain ⟨d, hd, h⟩ := except_bind_eq_ok.1 h
    obtain rfl := Except.ok.inj h
    exact ⟨records, except_mapError_eq_ok.1 hrecords, except_mapError_eq_ok.1 hd⟩
  | values path =>
    rw [hsource, Logged.outcome_bind, Logged.outcome_ofExcept] at h
    obtain ⟨values, hvalues, h⟩ := except_bind_eq_ok.1 h
    rw [Logged.outcome_bind, Logged.outcome_mapError] at h
    obtain ⟨d, hd, h⟩ := except_bind_eq_ok.1 h
    obtain rfl := Except.ok.inj h
    exact ⟨values, except_mapError_eq_ok.1 hvalues, except_mapError_eq_ok.1 hd⟩

theorem makes_of_sheet {s : Sheet} (h : (a.sheet room files).outcome = .ok s) : a.Makes room files s.document := by
  rw [sheet, Logged.outcome_bind] at h
  obtain ⟨first, hfirst, h⟩ := except_bind_eq_ok.1 h
  rw [Logged.outcome_bind, Logged.outcome_ofExcept] at h
  obtain ⟨second, hsecond, h⟩ := except_bind_eq_ok.1 h
  split at h
  · next hsame =>
    obtain rfl := Except.ok.inj h
    intro plane hplane
    obtain rfl | rfl : plane = firstPrivatePlane ∨ plane = secondPrivatePlane := by simpa using hplane
    · exact makesWith_of_sheetWith hfirst
    · exact hsame ▸ makesWith_of_sheetWith hsecond
  · cases h

end Arguments

/-! ## Deliveries -/

namespace Delivery

variable {a : Arguments} {room : Nat} {files : Files}

/-- A delivery that ends well: the whole document is handed out. -/
structure IsWhole (d : Delivery) (a : Arguments) (room : Nat) (files : Files) (document : Document) : Prop where
  makes : a.Makes room files document
  toOutput : a.output = none → d.output = document.text ∧ d.effects = []
  toFile : ∀ path, a.output = some path → d.output = "" ∧
    (FileEffect.applyAll files d.effects).read path = .ok document.text.toUTF8

/-- A delivery that fails: nothing is handed out, and the output path holds what it held. -/
structure IsNothing (d : Delivery) (a : Arguments) (files : Files) : Prop where
  output_eq : d.output = ""
  effects_eq : a.output = none → d.effects = []
  subtree_eq : ∀ path, a.output = some path → files.IsAnchored path →
    (FileEffect.applyAll files d.effects).subtree path = files.subtree path

theorem exists_isWhole (h : (ofArguments a room files).outcome = .ok ()) :
    ∃ document, (ofArguments a room files).IsWhole a room files document := by
  cases hsheet : (a.sheet room files).outcome with
  | error e =>
    rw [ofArguments_of_error hsheet] at h
    cases h
  | ok s =>
    obtain ⟨houtput, heffects, houtcome⟩ := ofArguments_of_ok hsheet
    refine ⟨s.document, Arguments.makes_of_sheet hsheet, fun hnone => ?_, fun path hpath => ?_⟩
    · rw [houtput, heffects, hnone]
      exact ⟨rfl, rfl⟩
    · obtain ⟨hnothing, hwritten, hended⟩ := ofSheet_some path s files
      rw [houtcome, hpath, hended, except_mapError_eq_ok, AtomicWrite.writeText_utf8] at h
      rw [houtput, heffects, hpath, hwritten, AtomicWrite.writeText_utf8]
      exact ⟨hnothing, AtomicWrite.writeBytes_read h⟩

theorem isNothing (ht : files.IsTree) {e : JobError} (h : (ofArguments a room files).outcome = .error e) :
    (ofArguments a room files).IsNothing a files := by
  cases hsheet : (a.sheet room files).outcome with
  | error e =>
    rw [ofArguments_of_error hsheet]
    exact ⟨rfl, fun _ => rfl, fun _ _ _ => rfl⟩
  | ok s =>
    obtain ⟨houtput, heffects, houtcome⟩ := ofArguments_of_ok hsheet
    cases htarget : a.output with
    | none =>
      rw [houtcome, htarget] at h
      cases h
    | some path =>
      obtain ⟨hnothing, hwritten, hended⟩ := ofSheet_some path s files
      rw [houtcome, htarget, hended, AtomicWrite.writeText_utf8] at h
      refine ⟨by rw [houtput, htarget, hnothing], fun hnone => ?_, fun path' hpath hanchored => ?_⟩
      · cases htarget.symm.trans hnone
      · obtain rfl := Option.some.inj (htarget.symm.trans hpath)
        rw [heffects, htarget, hwritten, AtomicWrite.writeText_utf8]
        cases hwrite : (AtomicWrite.writeBytes path s.document.text.toUTF8 AtomicWrite.besideSuffix files).2 with
        | error fault => exact AtomicWrite.writeBytes_subtree ht hanchored hwrite
        | ok =>
          rw [hwrite] at h
          cases h

end Delivery

/-! ## Runs -/

/-- Reports with the same text for the standard output, the same effects on files and the same ending. -/
structure Report.SameProduct (r r' : Report) : Prop where
  output_eq : r.output = r'.output
  effects_eq : r.effects = r'.effects
  ending_eq : r.ending = r'.ending

/-- A run that hands out a whole document or nothing. -/
structure Report.IsAllOrNothing (r : Report) (argv : List String) (room : Nat) (files : Files) : Prop where
  /-- A run that ends well has handed out the document of its arguments. -/
  whole : r.ending = .exit 0 → ∃ a d, Arguments.read argv = .ok a ∧ a.Makes room files d ∧
    (a.output = none → r.output = d.text ∧ r.effects = []) ∧
    ∀ path, a.output = some path →
      r.output = "" ∧ (FileEffect.applyAll files r.effects).read path = .ok d.text.toUTF8
  /-- Any other run gives no text, -/
  output_eq : r.ending ≠ .exit 0 → r.output = ""
  /-- has no effects unless it was to write a file, -/
  effects_eq : r.ending ≠ .exit 0 → (∀ a, Arguments.read argv = .ok a → a.output = none) → r.effects = []
  /-- and leaves at the path of that file what was there. -/
  subtree_eq : r.ending ≠ .exit 0 → ∀ a path, Arguments.read argv = .ok a → a.output = some path →
    files.IsAnchored path → (FileEffect.applyAll files r.effects).subtree path = files.subtree path

theorem Arguments.run_isAllOrNothing {argv : List String} {a : Arguments} (ha : Arguments.read argv = .ok a)
    {files : Files} (ht : files.IsTree) (host : Host) : (a.run host files).IsAllOrNothing argv host.room files := by
  have hread : ∀ {b}, Arguments.read argv = .ok b → b = a := fun hb => Except.ok.inj (hb.symm.trans ha)
  rw [Arguments.run_eq]
  cases Log.levelOfName? a.logLevel with
  | none => exact ⟨(fun h => nomatch h), fun _ => rfl, fun _ _ => rfl, fun _ _ _ _ _ _ => rfl⟩
  | some level =>
    dsimp only
    cases houtcome : (Delivery.ofArguments a host.room files).outcome with
    | ok =>
      have hending := Delivery.ending_eq_exit_zero.2 houtcome
      obtain ⟨d, hd⟩ := Delivery.exists_isWhole houtcome
      exact ⟨fun _ => ⟨a, d, ha, hd.makes, hd.toOutput, hd.toFile⟩, fun h => absurd hending h,
        fun h => absurd hending h, fun h => absurd hending h⟩
    | error e =>
      have hnothing := Delivery.isNothing ht houtcome
      refine ⟨fun h => ?_, fun _ => hnothing.output_eq, fun _ h => hnothing.effects_eq (h a ha), ?_⟩
      · cases houtcome.symm.trans (Delivery.ending_eq_exit_zero.1 h)
      · intro _ b path hb hpath hanchored
        obtain rfl := hread hb
        exact hnothing.subtree_eq path hpath hanchored

theorem Delivery.ofArguments_congr {a b : Arguments} (h : a.AgreeButLog b) (room : Nat) (files : Files) :
    Delivery.ofArguments a room files = Delivery.ofArguments b room files := by
  have hdirect : a.directOptions = b.directOptions := by
    rw [Arguments.directOptions, Arguments.directOptions, h.itemsPerPage, h.includeId]
  have hsheetWith : ∀ half, a.sheetWith room half files = b.sheetWith room half files := by
    intro half
    rw [Arguments.sheetWith, Arguments.sheetWith, hdirect, h.options, h.size, h.source]
  have hsheet : a.sheet room files = b.sheet room files := by
    rw [Arguments.sheet, Arguments.sheet, hsheetWith, hsheetWith]
  rw [Delivery.ofArguments, Delivery.ofArguments, hsheet, h.output]

theorem Arguments.run_sameProduct {a b : Arguments} (h : a.AgreeButLog b) (host : Host) (files : Files) :
    (a.run host files).SameProduct (b.run host files) := by
  have hdelivery := Delivery.ofArguments_congr h host.room files
  rw [Arguments.run_eq, Arguments.run_eq, hdelivery]
  rcases h.logLevel with hsame | ⟨ha, hb⟩
  · rw [hsame]
    cases Log.levelOfName? b.logLevel with
    | none => exact ⟨rfl, rfl, rfl⟩
    | some level => constructor <;> dsimp only
  · obtain ⟨level, hlevel⟩ := Option.isSome_iff_exists.1 ha
    obtain ⟨level', hlevel'⟩ := Option.isSome_iff_exists.1 hb
    rw [hlevel, hlevel']
    constructor <;> dsimp only

theorem run_sameProduct {argv argv' : List String}
    (h : Alike Arguments.AgreeButLog (Arguments.read argv) (Arguments.read argv')) (host : Host)
    (files : Files) : (run argv host files).SameProduct (run argv' host files) := by
  unfold run
  generalize Arguments.read argv = r, Arguments.read argv' = r' at h
  cases h with
  | ok h => exact Arguments.run_sameProduct h host files
  | error stop => cases stop <;> exact ⟨rfl, rfl, rfl⟩

/-- **Runs are all or nothing**, whatever the arguments and the files, help aside; and what they hand out and how
they end depends neither on the style of the log nor on its level, as long as that is known. -/
theorem run_allOrNothing {argv : List String} (hhelp : Arguments.read argv ≠ .error .help) {files : Files}
    (ht : files.IsTree) (host : Host) :
    (run argv host files).IsAllOrNothing argv host.room files ∧
    (∀ argv' a b, Arguments.read argv = .ok a → Arguments.read argv' = .ok b → a.AgreeButLog b →
      (run argv host files).SameProduct (run argv' host files)) ∧
    (run ("--json-logs" :: argv) host files).SameProduct (run argv host files) ∧
    ∀ level, IsLevelName level →
      (run ("--log-level" :: level :: argv) host files).SameProduct (run argv host files) := by
  refine ⟨?_, fun argv' a b ha hb h => ?_, ?_, fun level hlevel => ?_⟩
  · unfold run
    cases ha : Arguments.read argv with
    | ok a => exact Arguments.run_isAllOrNothing ha ht host
    | error stop =>
      cases stop with
      | help => exact absurd ha hhelp
      | fault fault =>
        exact ⟨(fun h => nomatch h), fun _ => rfl, fun _ _ => rfl, fun _ _ _ hb => nomatch ha.symm.trans hb⟩
  · exact run_sameProduct (by rw [ha, hb]; exact .ok h) host files
  · exact run_sameProduct (Arguments.read_jsonLogs_agrees argv) host files
  · exact run_sameProduct (Arguments.read_logLevel_agrees hlevel argv) host files

/-- A file with one value in it. -/
def oneValue : Files := ⟨[(["v.txt"], .file "x".toUTF8)]⟩

theorem oneValue_isTree : oneValue.IsTree :=
  Files.isTree_of_nodes (by decide)

/-- A host at the start of 1970. -/
def quietHost : Host := ⟨Binary64.zero, 1, false, 480⟩

/-- One value for a file in a folder that is not there yet. -/
theorem run_allOrNothing_newFolder :
    Arguments.read ["--values", "v.txt", "-o", "out/labels.txt"] ≠ .error .help ∧ oneValue.IsTree ∧
    (run ["--values", "v.txt", "-o", "out/labels.txt"] quietHost oneValue).IsAllOrNothing
      ["--values", "v.txt", "-o", "out/labels.txt"] quietHost.room oneValue ∧
    (run ("--json-logs" :: ["--values", "v.txt", "-o", "out/labels.txt"]) quietHost oneValue).SameProduct
      (run ["--values", "v.txt", "-o", "out/labels.txt"] quietHost oneValue) := by
  have hread : Arguments.read ["--values", "v.txt", "-o", "out/labels.txt"] ≠ .error .help :=
    fun h => nomatch h
  have h := run_allOrNothing hread oneValue_isTree quietHost
  exact ⟨hread, oneValue_isTree, h.1, h.2.2.1⟩

/-- Through a missing folder and back: the folder is made, so what was not there before is there when the run
has failed. -/
theorem run_detour_leaves_folder :
    Arguments.read ["--values", "v.txt", "-o", "b/../b"] =
      .ok { source := .values ⟨"", ["v.txt"]⟩, output := some ⟨"", ["b", "..", "b"]⟩ } ∧
    oneValue.IsTree ∧
    (run ["--values", "v.txt", "-o", "b/../b"] quietHost oneValue).ending = .exit 1 ∧
    oneValue.subtree ⟨"", ["b", "..", "b"]⟩ [] = none ∧
    (FileEffect.applyAll oneValue (run ["--values", "v.txt", "-o", "b/../b"] quietHost oneValue).effects).subtree
      ⟨"", ["b", "..", "b"]⟩ [] = some .folder := by
  refine ⟨rfl, oneValue_isTree, ?_, ?_, ?_⟩
  · decide +kernel
  · decide +kernel
  · decide +kernel

end LabelPress.CommandLine
