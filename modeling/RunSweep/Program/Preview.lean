import RunSweep.Command
import RunSweep.CommandLine.Usage
import RunSweep.Policy
import RunSweep.Storage.Fault

/-!
# The preview of a run

What a dry run prints: the command line and the settings of the sweep and the loop that are in force.
-/

namespace RunSweep

/-- A truth value as a preview shows it. -/
def showSwitch (on : Bool) : String :=
  if on then "true" else "false"

/-- The number of iterations as a preview shows it. -/
def showLimit (limit : Option UInt64) : String :=
  match limit with
  | some n => toString n.toNat
  | none => "unbounded"

/-- The settings that a preview lists, each with its value. -/
def Config.listed (c : Config) : List (String × String) :=
  [("sweep.working_dir", c.sweep.workingDir.quoted),
    ("sweep.archive_dir", c.sweep.archiveDir.quoted),
    ("sweep.threshold_mb", renderFloat c.sweepThreshold),
    ("sweep.create_archive_dir", showSwitch c.sweep.createArchiveDir),
    ("loop.iterations", showLimit c.iterationLimit),
    ("loop.on_launch_failure", c.repetition.onLaunchFailure.title)]

/-- **The preview of a run.** -/
def Config.preview (c : Config) : String :=
  Usage.ofLines
    ([Usage.program ++ " dry-run", "  command: " ++ c.command.render, ""]
      ++ c.listed.map fun (name, value) => "  " ++ name ++ " = " ++ value)

end RunSweep
