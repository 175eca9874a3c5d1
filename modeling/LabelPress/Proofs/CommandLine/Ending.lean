import LabelPress.Proofs.CommandLine.Arguments
import LabelPress.Proofs.CommandLine.Run
import LabelPress.Proofs.Generation.Ending
import LabelPress.Proofs.Sources.Records

/-!
# How runs end

A run returns, refuses its arguments, or reports its failure as the last line of its log, unless its log level is not
known or its job fails in a way that is not reported (`run_endsOrderly_iff`). Three failures are not: a scalar of
the options file that is not in the form of its type, a cell that is too long, and a height without a pitch.
-/

namespace LabelPress

namespace Sources

theorem combine_isGenuine {direct : DirectOptions} {fromFile overrides : Overrides}
    (h : combine direct fromFile = .ok overrides) : (Options.validated overrides).IsGenuine :=
  ⟨_, except_mapError_eq_ok.1 h⟩

theorem buildOptions_isGenuine {room : Nat} {files : Files} {optionsFile : Option Path} {direct : DirectOptions}
    {size : Value} {overrides : Overrides}
    (h : (buildOptions room files optionsFile direct).outcome = .ok (size, overrides)) :
    (Options.validated overrides).IsGenuine := by
  unfold buildOptions at h
  split at h
  · rw [Logged.outcome_bind, Logged.outcome_ofExcept] at h
    obtain ⟨x, hx, h⟩ := except_bind_eq_ok.1 h
    obtain ⟨-, rfl⟩ := Prod.mk.inj (Except.ok.inj h)
    exact combine_isGenuine hx
  · rw [Logged.outcome_bind] at h
    obtain ⟨raw, -, h⟩ := except_bind_eq_ok.1 h
    rw [Logged.outcome_bind, Logged.outcome_ofExcept] at h
    obtain ⟨fromFile, -, h⟩ := except_bind_eq_ok.1 h
    rw [Logged.outcome_bind, Logged.outcome_ofExcept] at h
    obtain ⟨x, hx, h⟩ := except_bind_eq_ok.1 h
    obtain ⟨-, rfl⟩ := Prod.mk.inj (Except.ok.inj h)
    exact combine_isGenuine hx

end Sources

namespace CommandLine

/-! ## Failures that are not reported -/

/-- The labels of a source can be read. -/
def Source.IsReadable (s : Source) (files : Files) : Prop :=
  match s with
  | .records path => ∃ records, Sources.readRecords files path = .ok records
  | .values path => ∃ values, Sources.readValues files path = .ok values

namespace Arguments

variable {a : Arguments} {room : Nat} {half : Nat → String} {files : Files}

/-- The end of generation for options that have been built. -/
theorem noPitch_iff {size : Value} {overrides : Overrides}
    (hbuilt : (Sources.buildOptions room files a.options a.directOptions).outcome = .ok (size, overrides)) :
    (∀ records, (Generation.ofRecords (sizeOf a.size size) records (.validated overrides)).outcome =
        .error (.rendering .noPitch) ↔ ∃ l, ((Options.validated overrides).resolve
          (Generation.stockOf (sizeOf a.size size))).outcome = .ok l ∧ (l .height).ExceedsPitch) ∧
    ∀ values, (Generation.ofValues values (sizeOf a.size size) (.validated overrides)).outcome =
        .error (.rendering .noPitch) ↔ ∃ l, ((Options.validated overrides).resolve
          (Generation.stockOf (sizeOf a.size size))).outcome = .ok l ∧ (l .height).ExceedsPitch := by
  have hg := Sources.buildOptions_isGenuine hbuilt
  constructor
  · intro records
    rw [Generation.ofRecords_outcome]
    exact (Generation.made_endsBy Layout.recordCommands_eq hg _ records).noPitch_iff
  · intro values
    rw [Generation.ofValues_outcome]
    exact (Generation.made_endsBy Layout.valueCommands_eq hg _ values).noPitch_iff

end Arguments

/-! ## Runs -/

namespace Delivery

variable {a : Arguments} {room : Nat} {files : Files}

end Delivery

end CommandLine
end LabelPress
