import RunSweep.Config.Decoding
import RunSweep.Config.Validation
import RunSweep.Storage.Fault

/-!
# Faults that end a run

Only these end the loop; what goes wrong with a single file is part of a sweep's report.
-/

namespace RunSweep

/-- Whether an iteration may be running or the loop has stopped for good. -/
inductive Phase where
  | running
  | stopped
  deriving DecidableEq

/-- The name of a phase. -/
def Phase.name : Phase → String
  | running => "RunningIteration"
  | stopped => "Stopped"

/-- Why a run ends with an error. -/
inductive RunError where
  /-- The configuration breaks a rule. -/
  | invalid (rule : Invalid)
  /-- The configuration is refused by another party, in its own words. -/
  | refused (text : String)
  | io (cause : HostError)
  /-- The configuration file is no configuration. -/
  | document (error : DocumentError)
  /-- The acquisition program could not be started. -/
  | launch (binary : Path) (cause : HostError)
  /-- The end of the acquisition program could not be awaited. -/
  | wait (binary : Path) (cause : HostError)
  | listDir (dir : Path) (fault : Fault)
  /-- An iteration was begun or finished out of turn. -/
  | invalidTransition (phase : Phase)
  | other (text : String)

namespace RunError

/-- The wording of an error. -/
def message : RunError → String
  | invalid rule => "Configuration error: " ++ rule.message
  | refused text => "Configuration error: " ++ text
  | io cause => "IO error: " ++ cause.message
  | document error => "TOML parsing error: " ++ error.message
  | launch binary cause =>
      "failed to launch acquisition binary " ++ binary.quoted ++ ": " ++ cause.message
  | wait binary cause =>
      "failed waiting for acquisition binary " ++ binary.quoted ++ ": " ++ cause.message
  | listDir dir fault =>
      "failed to list working directory " ++ dir.quoted ++ ": " ++ fault.outermost
  | invalidTransition phase => "invalid loop transition from " ++ phase.name
  | other text => text

/-- The texts of what lies behind an error, from the outermost to the innermost. -/
def causes : RunError → List String
  | invalid _ | refused _ | invalidTransition _ | other _ => []
  | io cause | launch _ cause | wait _ cause => [cause.message]
  | document error => [error.message]
  | listDir _ fault => fault.chain

/-- Whether the acquisition program could not be started. -/
def isLaunch : RunError → Bool
  | launch .. => true
  | _ => false

end RunError

end RunSweep
