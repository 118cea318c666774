import RunSweep.Path.Basic
import RunSweep.Policy

/-!
# Configurations

A configuration has three sections: how the acquisition program is run, how its output is swept, and how
long the two are repeated. A `Draft` holds what was written, whatever it is; a `Config` is a draft that
has passed validation (`RunSweep.Config.Validation`). Every setting has a built-in default.
-/

namespace RunSweep

/-- The program that is run unless another one is named. -/
def Acquisition.defaultBinary : Path := .ofText "../../bin/run"

/-- The threshold that is usual, in megabytes. -/
def Acquisition.defaultThreshold : Float := 170

/-- How long a run takes unless it is said otherwise. -/
def Acquisition.defaultDurationSecs : UInt64 := 300

/-- Runs without bound. -/
def Acquisition.defaultNrun : Int64 := -1

/-- How the acquisition program is run. -/
structure Acquisition where
  binary : Path := Acquisition.defaultBinary
  /-- In megabytes; the sweep uses it too unless it has a threshold of its own. -/
  threshold : Float := Acquisition.defaultThreshold
  durationSecs : UInt64 := Acquisition.defaultDurationSecs
  /-- How many runs the program makes, without bound if negative. -/
  nrun : Int64 := Acquisition.defaultNrun
  coincidence : Bool := true
  /-- A tag for the run. -/
  name : Option String := none
  allowModified : Bool := false
  /-- Words passed on as they are, after all others. -/
  extraArgs : List String := []
  deriving Inhabited

/-- The directory in which the program usually leaves its files. -/
def SweepSettings.defaultWorkingDir : Path := .ofText "/data/fast/runatbr2/run/"

/-- The directory in which files are usually kept. -/
def SweepSettings.defaultArchiveDir : Path := .ofText "/data/fast/runatbr2/storage/"

/-- How the working directory is swept. -/
structure SweepSettings where
  workingDir : Path := SweepSettings.defaultWorkingDir
  archiveDir : Path := SweepSettings.defaultArchiveDir
  /-- In megabytes; takes the place of the acquisition threshold. -/
  threshold : Option Float := none
  createArchiveDir : Bool := true
  deriving Inhabited

/-- How often the two are repeated. -/
structure Repetition where
  singleShot : Bool := false
  maxIterations : Option UInt64 := none
  onLaunchFailure : LaunchPolicy := .abort
  deriving Inhabited

/-- A configuration as written. -/
structure Draft where
  acquisition : Acquisition := {}
  sweep : SweepSettings := {}
  repetition : Repetition := {}
  deriving Inhabited

/-- Settings that take precedence over those of a draft. -/
structure Overrides where
  binary : Option Path := none
  threshold : Option Float := none
  sweepThreshold : Option Float := none
  workingDir : Option Path := none
  archiveDir : Option Path := none
  name : Option String := none
  allowModified : Option Bool := none
  coincidence : Option Bool := none
  singleShot : Option Bool := none
  maxIterations : Option UInt64 := none
  onLaunchFailure : Option LaunchPolicy := none
  deriving Inhabited

/-- The draft with every given override in place of its own setting. -/
def Draft.override (draft : Draft) (o : Overrides) : Draft :=
  { acquisition :=
      { draft.acquisition with
        binary := o.binary.getD draft.acquisition.binary
        threshold := o.threshold.getD draft.acquisition.threshold
        name := o.name <|> draft.acquisition.name
        allowModified := o.allowModified.getD draft.acquisition.allowModified
        coincidence := o.coincidence.getD draft.acquisition.coincidence }
    sweep :=
      { draft.sweep with
        workingDir := o.workingDir.getD draft.sweep.workingDir
        archiveDir := o.archiveDir.getD draft.sweep.archiveDir
        threshold := o.sweepThreshold <|> draft.sweep.threshold }
    repetition :=
      { singleShot := o.singleShot.getD draft.repetition.singleShot
        maxIterations := o.maxIterations <|> draft.repetition.maxIterations
        onLaunchFailure := o.onLaunchFailure.getD draft.repetition.onLaunchFailure } }

end RunSweep
