import RunSweep.Config.Basic
import RunSweep.Decimal.Shortest
import RunSweep.Text.Blank
import RunSweep.Text.Quoted

/-!
# Validation

`Draft.validate` accepts a draft or names the first rule that it breaks. The rules are tried in a fixed
order: thresholds, acquisition, directories, repetition. An accepted draft becomes a `Config` unchanged.
-/

namespace RunSweep

/-- A field that holds a threshold. -/
inductive ThresholdField where
  | acquisition
  | sweep
  deriving DecidableEq

/-- A rule that a draft breaks. -/
inductive Invalid where
  | negativeThreshold (field : ThresholdField) (value : Float)
  | fractionalThreshold (value : Float)
  | emptyBinary
  | zeroDuration
  | zeroRuns
  | blankName
  | emptyWorkingDir
  | emptyArchiveDir
  | sameDirectories (dir : Path)
  | zeroIterations

/-- How a field is called in messages. -/
def ThresholdField.title : ThresholdField → String
  | acquisition => "[acquisition].threshold"
  | sweep => "[sweep].threshold_mb"

/-- The wording of a broken rule. -/
def Invalid.message : Invalid → String
  | negativeThreshold field value =>
      field.title ++ " must be a non-negative number (got " ++ renderFloat value ++ ")"
  | fractionalThreshold value =>
      ThresholdField.acquisition.title ++ " must be a whole number of MB (got "
        ++ renderFloat value ++ "); use " ++ ThresholdField.sweep.title
        ++ " for a fractional sweep cutoff"
  | emptyBinary => "[acquisition].binary must not be empty"
  | zeroDuration => "[acquisition].duration_secs must be >= 1 (got 0)"
  | zeroRuns => "[acquisition].nrun must be positive or negative for unbounded (got 0)"
  | blankName => "[acquisition].name must not be blank when set"
  | emptyWorkingDir => "[sweep].working_dir must not be empty"
  | emptyArchiveDir => "[sweep].archive_dir must not be empty"
  | sameDirectories dir =>
      "[sweep].working_dir and [sweep].archive_dir must differ (both "
        ++ Quoted.ofBytes dir.bytes ++ ")"
  | zeroIterations => "[loop].max_iterations must be >= 1 (got 0)"

/-- A threshold is finite and not below zero. -/
def isThreshold (x : Float) : Bool :=
  (Binary64.ofFloat x).isFinite && !(Binary64.ofFloat x).isNegative

/-- The rules on thresholds. The program reads its own as an integer, so that one is whole. -/
def Draft.checkThresholds (d : Draft) : Except Invalid Unit := do
  let own := d.acquisition.threshold
  unless isThreshold own do throw (.negativeThreshold .acquisition own)
  unless (Binary64.ofFloat own).isWhole do throw (.fractionalThreshold own)
  match d.sweep.threshold with
  | some x => unless isThreshold x do throw (.negativeThreshold .sweep x)
  | none => pure ()

/-- The rules on the acquisition program and its arguments. -/
def Draft.checkAcquisition (d : Draft) : Except Invalid Unit := do
  if d.acquisition.binary.isEmpty then throw .emptyBinary
  if d.acquisition.durationSecs = 0 then throw .zeroDuration
  if d.acquisition.nrun = 0 then throw .zeroRuns
  if d.acquisition.name.any isBlankText then throw .blankName

/-- The rules on the two directories. They are compared step by step, so that a trailing slash does not
make a difference. -/
def Draft.checkDirectories (d : Draft) : Except Invalid Unit := do
  if d.sweep.workingDir.isEmpty then throw .emptyWorkingDir
  if d.sweep.archiveDir.isEmpty then throw .emptyArchiveDir
  if d.sweep.workingDir.sameSteps d.sweep.archiveDir then
    throw (.sameDirectories d.sweep.workingDir)

/-- The rule on the number of iterations. -/
def Draft.checkRepetition (d : Draft) : Except Invalid Unit := do
  if d.repetition.maxIterations = some 0 then throw .zeroIterations

/-- All rules, in order. -/
def Draft.check (d : Draft) : Except Invalid Unit := do
  d.checkThresholds
  d.checkAcquisition
  d.checkDirectories
  d.checkRepetition

/-- **A configuration that has passed validation.** -/
structure Config extends Draft where
  valid : toDraft.check = .ok ()

/-- The draft as a configuration, or the first rule it breaks. -/
def Draft.validate (d : Draft) : Except Invalid Config :=
  match h : d.check with
  | .ok () => .ok { toDraft := d, valid := h }
  | .error e => .error e

namespace Config

/-- The threshold that files are held against, in megabytes. -/
def sweepThreshold (c : Config) : Float :=
  c.sweep.threshold.getD c.acquisition.threshold

/-- How many iterations there are at most: one in single-shot mode, whatever else is set. -/
def iterationLimit (c : Config) : Option UInt64 :=
  if c.repetition.singleShot then some 1 else c.repetition.maxIterations

end Config

end RunSweep
