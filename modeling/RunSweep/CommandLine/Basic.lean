import RunSweep.Config.Basic
import RunSweep.LogLevel

/-!
# The command line's options

A *setting* is an option with a value, a *switch* an option without one. `Arguments` is what a command
line asks for, and `Arguments.overrides` the part of it that takes precedence over a configuration file.
-/

namespace RunSweep

/-- An option that takes a value. -/
inductive Setting where
  | config
  | binary
  | threshold
  | sweepThreshold
  | dir
  | store
  | name
  | maxIterations
  | onLaunchFailure
  | logLevel
  deriving DecidableEq

namespace Setting

/-- All settings. -/
def all : List Setting :=
  [config, binary, threshold, sweepThreshold, dir, store, name, maxIterations, onLaunchFailure,
    logLevel]

/-- The name behind the two dashes. -/
def long : Setting → String
  | config => "config"
  | binary => "binary"
  | threshold => "threshold"
  | sweepThreshold => "sweep-threshold"
  | dir => "dir"
  | store => "store"
  | name => "name"
  | maxIterations => "max-iterations"
  | onLaunchFailure => "on-launch-failure"
  | logLevel => "log-level"

/-- What stands for the value in texts about the setting. -/
def placeholder : Setting → String
  | config | binary => "PATH"
  | threshold | sweepThreshold => "MB"
  | dir | store => "DIR"
  | name => "NAME"
  | maxIterations => "N"
  | onLaunchFailure => "POLICY"
  | logLevel => "LEVEL"

/-- The setting as texts show it. -/
def title (s : Setting) : String :=
  "--" ++ s.long ++ " <" ++ s.placeholder ++ ">"

end Setting

/-- An option that takes no value. -/
inductive Switch where
  | allowModified
  | noCoincidence
  | once
  | dryRun
  | help
  | version
  deriving DecidableEq

namespace Switch

/-- All switches. -/
def all : List Switch :=
  [allowModified, noCoincidence, once, dryRun, help, version]

/-- The name behind the two dashes. -/
def long : Switch → String
  | allowModified => "allowmod"
  | noCoincidence => "no-coincidence"
  | once => "once"
  | dryRun => "dry-run"
  | help => "help"
  | version => "version"

/-- Further names behind the two dashes. -/
def aliases : Switch → List String
  | once => ["test"]
  | _ => []

/-- The letter behind a single dash. -/
def short? : Switch → Option Char
  | allowModified => some 'a'
  | once => some 't'
  | help => some 'h'
  | version => some 'V'
  | noCoincidence | dryRun => none

/-- The switch as texts show it. -/
def title (s : Switch) : String :=
  "--" ++ s.long

end Switch

/-- What a command line asks for. -/
structure Arguments where
  config : Option Path := none
  binary : Option Path := none
  threshold : Option Float := none
  sweepThreshold : Option Float := none
  dir : Option Path := none
  store : Option Path := none
  name : Option String := none
  allowModified : Bool := false
  noCoincidence : Bool := false
  once : Bool := false
  maxIterations : Option UInt64 := none
  onLaunchFailure : Option LaunchPolicy := none
  logLevel : Option LogLevel := none
  dryRun : Bool := false
  deriving Inhabited

/-- The settings that take precedence over a configuration file. A switch can only be turned on. -/
def Arguments.overrides (a : Arguments) : Overrides :=
  { binary := a.binary
    threshold := a.threshold
    sweepThreshold := a.sweepThreshold
    workingDir := a.dir
    archiveDir := a.store
    name := a.name
    allowModified := if a.allowModified then some true else none
    coincidence := if a.noCoincidence then some false else none
    singleShot := if a.once then some true else none
    maxIterations := a.maxIterations
    onLaunchFailure := a.onLaunchFailure }

end RunSweep
