import RunSweep.Command
import RunSweep.CommandLine.Basic
import RunSweep.Config.Resolution
import RunSweep.Loop.Progress
import RunSweep.Sweep.Basic

/-!
# Where the settings in force come from

What the command line says comes before what a configuration file says, and that before the defaults.
`Draft.Layered` tells it setting by setting, and there is only one draft that it holds of. A configuration
comes into force exactly if that draft is valid.

Two settings have more than two sources. The sweep's threshold is the first that is given of four, and the
program is told a threshold that takes no notice of the two that are meant for the sweep. The number of
iterations is one, whatever else is said, if a single one was asked for anywhere.
-/

namespace RunSweep

/-! ## Drafts that are accepted -/

/-- A draft that is accepted is the configuration, and what is in a configuration is accepted. -/
theorem Draft.accept_eq_ok_iff {draft : Draft} {c : Config} :
    draft.accept = .ok c ↔ c.toDraft = draft := by
  unfold accept validate
  constructor
  · intro h
    split at h
    · cases h
      rfl
    · cases h
  · rintro rfl
    split
    · rfl
    · rename_i hinvalid
      rw [c.valid] at hinvalid
      cases hinvalid

/-- Without overrides a draft stays as it is. -/
theorem Draft.override_none (draft : Draft) : draft.override {} = draft := by
  obtain ⟨acquisition, ⟨_, _, threshold, _⟩, ⟨_, maxIterations, _⟩⟩ := draft
  obtain ⟨_, _, _, _, _, name, _, _⟩ := acquisition
  simp [override]

/-- **A configuration is in force** if it is the draft to start from with the overrides put in. -/
theorem Config.resolve_eq_ok_iff {d : Disk} {path : Option Path} {o : Overrides} {c : Config} :
    Config.resolve d path o = .ok c ↔
      ∃ draft, Draft.base d path = .ok draft ∧ c.toDraft = draft.override o := by
  unfold resolve
  rcases Draft.base d path with e | draft
  · simp [bind, Except.bind]
  · show (draft.override o).accept = .ok c ↔ _
    simp [Draft.accept_eq_ok_iff]

/-! ## Settings in layers -/

/-- **How a draft lies upon another with a command line in between.** A setting that has an option is the
option's, if that is given. A switch turns a setting on, or off, and never back. All else is the other
draft's. -/
structure Draft.Layered (a : Arguments) (below draft : Draft) : Prop where
  binary : draft.acquisition.binary = a.binary.getD below.acquisition.binary
  threshold : draft.acquisition.threshold = a.threshold.getD below.acquisition.threshold
  durationSecs : draft.acquisition.durationSecs = below.acquisition.durationSecs
  nrun : draft.acquisition.nrun = below.acquisition.nrun
  coincidence : draft.acquisition.coincidence = (below.acquisition.coincidence && !a.noCoincidence)
  name : draft.acquisition.name = (a.name <|> below.acquisition.name)
  allowModified : draft.acquisition.allowModified = (below.acquisition.allowModified || a.allowModified)
  extraArgs : draft.acquisition.extraArgs = below.acquisition.extraArgs
  workingDir : draft.sweep.workingDir = a.dir.getD below.sweep.workingDir
  archiveDir : draft.sweep.archiveDir = a.store.getD below.sweep.archiveDir
  sweepThreshold : draft.sweep.threshold = (a.sweepThreshold <|> below.sweep.threshold)
  createArchiveDir : draft.sweep.createArchiveDir = below.sweep.createArchiveDir
  singleShot : draft.repetition.singleShot = (below.repetition.singleShot || a.once)
  maxIterations : draft.repetition.maxIterations = (a.maxIterations <|> below.repetition.maxIterations)
  onLaunchFailure :
    draft.repetition.onLaunchFailure = a.onLaunchFailure.getD below.repetition.onLaunchFailure

/-- A switch that turns a setting on. -/
theorem getD_on (switch setting : Bool) :
    (if switch then some true else none).getD setting = (setting || switch) := by
  cases switch <;> simp

/-- A switch that turns a setting off. -/
theorem getD_off (switch setting : Bool) :
    (if switch then some false else none).getD setting = (setting && !switch) := by
  cases switch <;> simp

/-- The overrides of a command line put it in between. -/
theorem Draft.layered_override (a : Arguments) (below : Draft) :
    Layered a below (below.override a.overrides) where
  binary := rfl
  threshold := rfl
  durationSecs := rfl
  nrun := rfl
  coincidence := getD_off _ _
  name := rfl
  allowModified := getD_on _ _
  extraArgs := rfl
  workingDir := rfl
  archiveDir := rfl
  sweepThreshold := rfl
  createArchiveDir := rfl
  singleShot := getD_on _ _
  maxIterations := rfl
  onLaunchFailure := rfl

/-- Only one draft lies so upon another. -/
theorem Draft.Layered.unique {a : Arguments} {below draft draft' : Draft}
    (h : Layered a below draft) (h' : Layered a below draft') : draft = draft' := by
  obtain ⟨⟨_, _, _, _, _, _, _, _⟩, ⟨_, _, _, _⟩, ⟨_, _, _⟩⟩ := draft
  obtain ⟨⟨_, _, _, _, _, _, _, _⟩, ⟨_, _, _, _⟩, ⟨_, _, _⟩⟩ := draft'
  cases h
  cases h'
  simp_all

theorem Draft.layered_iff {a : Arguments} {below draft : Draft} :
    Layered a below draft ↔ draft = below.override a.overrides := by
  constructor
  · exact fun h => h.unique (layered_override a below)
  · rintro rfl
    exact layered_override a below

/-! ## What the layers lead to -/

namespace Draft.Layered

variable {a : Arguments} {below : Draft} {c : Config}

/-- **The threshold of the sweep** is the first that is given: for the sweep on the command line, for the
sweep in the file, for the program on the command line, for the program in the file. -/
theorem threshold_sweeper (h : Layered a below c.toDraft) :
    c.sweeper.threshold =
      (a.sweepThreshold <|> below.sweep.threshold <|> a.threshold).getD below.acquisition.threshold := by
  show c.sweep.threshold.getD c.acquisition.threshold = _
  rw [h.sweepThreshold, h.threshold]
  rcases a.sweepThreshold with _ | _ <;> rcases below.sweep.threshold with _ | _ <;> rfl

/-- **The threshold that the program is told** is its own, from the command line or else from the file. -/
theorem args_command (h : Layered a below c.toDraft) :
    ∃ rest, c.command.args =
      Command.word "-threshold" ::
        Command.word (renderFloat (a.threshold.getD below.acquisition.threshold)) :: rest := by
  rw [← h.threshold]
  exact ⟨_, rfl⟩

/-- **The number of iterations** is one if a single one was asked for, and else the one that is given. -/
theorem limit_plan (h : Layered a below c.toDraft) :
    c.plan.limit =
      if a.once || below.repetition.singleShot then some 1
      else a.maxIterations <|> below.repetition.maxIterations := by
  show (if c.repetition.singleShot then some 1 else c.repetition.maxIterations) = _
  rw [h.singleShot, h.maxIterations, Bool.or_comm]

end Draft.Layered

/-- **Settings have an order of precedence.** On any disk, a configuration comes into force for a command
line and a file that may be named exactly if it lies upon the draft to start from, which is that of the
named file, of the usual file, or the defaults, with the command line in between. It then sweeps by the
first threshold that is given of four, tells the program the program's own, and repeats as often as the
switch or the numbers say. Without overrides, a named file alone decides, and it comes to the same to load
the configuration from it. -/
theorem resolve_layers_settings (d : Disk) :
    (∀ (a : Arguments) (path : Option Path) (c : Config), Config.resolve d path a.overrides = .ok c ↔
      ∃ below, Draft.base d path = .ok below ∧ below.Layered a c.toDraft ∧
        c.sweeper.threshold =
          (a.sweepThreshold <|> below.sweep.threshold <|> a.threshold).getD
            below.acquisition.threshold ∧
        (∃ rest, c.command.args =
          Command.word "-threshold" ::
            Command.word (renderFloat (a.threshold.getD below.acquisition.threshold)) :: rest) ∧
        c.plan.limit =
          if a.once || below.repetition.singleShot then some 1
          else a.maxIterations <|> below.repetition.maxIterations) ∧
    ∀ path, Config.resolve d (some path) {} = Config.load d path := by
  refine ⟨fun a path c => ?_, fun path => ?_⟩
  · rw [Config.resolve_eq_ok_iff]
    constructor
    · rintro ⟨below, hbase, hdraft⟩
      have hlayered := Draft.layered_iff.mpr hdraft
      exact ⟨below, hbase, hlayered, hlayered.threshold_sweeper, hlayered.args_command,
        hlayered.limit_plan⟩
    · rintro ⟨below, hbase, hlayered, -⟩
      exact ⟨below, hbase, Draft.layered_iff.mp hlayered⟩
  · unfold Config.resolve Config.load Draft.base
    simp only [Draft.override_none]

end RunSweep
