import RunSweep.RunError

/-!
# The loop's progress

`Progress` counts iterations and decides whether another one follows. It knows nothing of programs or
files: an iteration is begun, then finished, and the loop may be stopped at any time. Stopping is final,
and the first reason given for it stands.
-/

namespace RunSweep

/-- Why the loop stopped. -/
inductive StopReason where
  | iterationLimit
  | shutdownRequested
  /-- An error was given to the caller. -/
  | fault
  deriving DecidableEq

/-- The name of a reason. -/
def StopReason.name : StopReason → String
  | iterationLimit => "IterationLimit"
  | shutdownRequested => "ShutdownRequested"
  | fault => "Fault"

/-- How the loop is to behave. -/
structure Plan where
  /-- The number of iterations, without bound if none. -/
  limit : Option UInt64 := none
  onLaunchFailure : LaunchPolicy := .abort
  deriving DecidableEq, Inhabited

/-- The plan that a configuration describes. -/
def Config.plan (c : Config) : Plan :=
  { limit := c.iterationLimit, onLaunchFailure := c.repetition.onLaunchFailure }

/-- **How far the loop has come**: how many iterations are complete, whether one is under way, and
whether and why the loop has stopped. -/
structure Progress where
  plan : Plan
  phase : Phase := .running
  completed : UInt64 := 0
  underWay : Bool := false
  stopReason : Option StopReason := none
  deriving DecidableEq

namespace Progress

/-- Stop for good. -/
def stop (p : Progress) (reason : StopReason) : Progress :=
  { p with phase := .stopped, underWay := false, stopReason := p.stopReason <|> some reason }

/-- Begin an iteration and answer its index, counted from one. -/
def begin (p : Progress) : Except RunError (UInt64 × Progress) :=
  if p.phase = .stopped || p.underWay then .error (.invalidTransition p.phase)
  else .ok (p.completed + 1, { p with underWay := true })

/-- Stop if as many iterations are complete as the plan allows. -/
def stopAtLimit (p : Progress) : Progress :=
  match p.plan.limit with
  | some limit => if limit ≤ p.completed then p.stop .iterationLimit else p
  | none => p

/-- Finish the iteration that is under way. -/
def finish (p : Progress) : Except RunError Progress :=
  if p.phase = .stopped || !p.underWay then .error (.invalidTransition p.phase)
  else .ok { p with underWay := false, completed := p.completed + 1 }.stopAtLimit

end Progress

end RunSweep
