import RunSweep.Loop.Attempt
import RunSweep.Loop.Progress
import RunSweep.Sweep.Basic

/-!
# The run-and-sweep loop

Each iteration starts the acquisition program, waits for it and sweeps the working directory. Nothing
overlaps. `Setup.step` does one of these things at a time, after which requests to shut down may arrive,
and `Setup.run` goes on until the loop stops: at the limit, at a request, or with an error.

A request is looked for before every iteration and while the program runs, each time after a look at the
program itself. A run that was abandoned is neither swept nor counted. A failing exit status changes
nothing, and neither does a failed launch if the policy says to carry on; every other fault of the program
ends the loop, as does a working directory that cannot be listed.
-/

namespace RunSweep

/-- One complete iteration: its index, how the program ended (nothing if it could not be started) and
the report of its sweep. -/
structure Iteration where
  index : UInt64
  exit : Option ExitReport
  report : Report

/-- What happened in a loop, in order. -/
inductive Event where
  | invoked (index : UInt64) (command : Command)
  | returned (index : UInt64) (result : Except RunError ExitReport)
  | abandoned (index : UInt64)
  | swept (index : UInt64) (result : Except Fault Report)

/-- Sums over the sweeps of one run. They have no bound here; a counter of 64 bits holds the same sums as
long as the sweeps of one run handle fewer than 2⁶⁴ names. -/
structure Totals where
  archived : Nat := 0
  deleted : Nat := 0
  failures : Nat := 0
  deriving DecidableEq

/-- The sums with another report's numbers. -/
def Totals.add (t : Totals) (r : Report) : Totals :=
  { archived := t.archived + r.archived.length
    deleted := t.deleted + r.deleted.length
    failures := t.failures + r.failures.length }

/-- What a run that ends without an error tells. -/
structure Summary where
  iterations : UInt64
  stopReason : StopReason
  totals : Totals
  deriving DecidableEq

/-- What stays the same throughout a loop. -/
structure Setup (σ β : Type) where
  command : Command
  sweeper : Sweeper
  fileSystem : FileSystem σ
  launcher : Launcher σ β
  keepHistory : Bool := false

/-- The setup that a configuration describes. -/
def Config.setup {σ β : Type} (c : Config) (fileSystem : FileSystem σ) (launcher : Launcher σ β)
    (keepHistory : Bool) : Setup σ β :=
  { command := c.command, sweeper := c.sweeper, fileSystem, launcher, keepHistory }

/-- What a loop does next. -/
inductive Activity (σ β : Type) where
  /-- Look for a request before an iteration. -/
  | check
  /-- Begin an iteration and start the program. -/
  | start
  /-- Look at the program. -/
  | await (index : UInt64) (course : Attempt σ β)
  /-- Look for a request while the program is pending. -/
  | listen (index : UInt64) (rest : Attempt σ β)
  /-- Sweep after a program that ended with `exit`, and finish the iteration. -/
  | sweep (index : UInt64) (exit : Option ExitReport)

/-- **Where a loop stands.** Events and iterations are kept in order. -/
structure Session (σ β : Type) where
  progress : Progress
  world : World σ β
  totals : Totals := {}
  history : List Iteration := []
  events : List Event := []
  activity : Activity σ β := .check

/-- The session before the first run. -/
def Session.fresh {σ β : Type} (plan : Plan) (world : World σ β) : Session σ β :=
  { progress := { plan }, world }

/-- What follows a step: another one, or the end of the run. -/
inductive Step (σ β : Type) where
  | next (session : Session σ β)
  | done (result : Except RunError Summary) (session : Session σ β)

namespace Session

variable {σ β : Type}

/-- The session stopped. -/
def stop (s : Session σ β) (reason : StopReason) : Session σ β :=
  { s with progress := s.progress.stop reason, activity := .check }

/-- The session with one more event. -/
def record (s : Session σ β) (event : Event) : Session σ β :=
  { s with events := s.events ++ [event] }

/-- The session after the requests of the next moment have arrived. -/
def moment (s : Session σ β) : Session σ β :=
  { s with world := s.world.moment }

/-- What the run tells at its end. -/
def summary (s : Session σ β) : Summary :=
  { iterations := s.progress.completed
    stopReason := s.progress.stopReason.getD .iterationLimit
    totals := s.totals }

/-- The end of the run with an error, which stops the loop for good. -/
def fail (s : Session σ β) (e : RunError) : Step σ β :=
  .done (.error e) (s.stop .fault)

/-- Look for a request, and begin an iteration if there is none. -/
def check (s : Session σ β) : Step σ β :=
  match s.world.receive with
  | (true, world) => .next ({ s with world }.stop .shutdownRequested)
  | (false, world) => .next { s with world, activity := .start }

/-- Look for a request while the program is pending, and abandon it if there is one. -/
def listen (s : Session σ β) (index : UInt64) (rest : Attempt σ β) : Step σ β :=
  match s.world.receive with
  | (true, world) => .next (({ s with world }.record (.abandoned index)).stop .shutdownRequested)
  | (false, world) => .next { s with world, activity := .await index rest }

/-- Go on from the end of the program. -/
def resume (s : Session σ β) (index : UInt64) : Except RunError ExitReport → Step σ β
  | .ok exit => .next { s with activity := .sweep index (some exit) }
  | .error e =>
      if e.isLaunch && s.progress.plan.onLaunchFailure == .carryOn then
        .next { s with activity := .sweep index none }
      else s.fail e

/-- Look at the program. -/
def await (s : Session σ β) (index : UInt64) (course : Attempt σ β) : Step σ β :=
  let (stage, poll) := course.poll
  let s := { s with world := s.world.after stage }
  match poll with
  | .pending rest => .next { s with activity := .listen index rest }
  | .ended result => (s.record (.returned index result)).resume index result

end Session

namespace Setup

variable {σ β : Type}

/-- Begin an iteration and start the program. -/
def start (setup : Setup σ β) (s : Session σ β) : Step σ β :=
  match s.progress.begin with
  | .error e => .done (.error e) { s with activity := .check }
  | .ok (index, progress) =>
      let course := setup.launcher.launch setup.command s.world.store s.world.launcher
      let s := s.record (.invoked index setup.command)
      .next { s with progress, activity := .await index course }

/-- Enter a complete iteration into the sums, and into the history if it is kept. -/
def enter (setup : Setup σ β) (s : Session σ β) (iteration : Iteration) : Session σ β :=
  { s with
    totals := s.totals.add iteration.report
    history := if setup.keepHistory then s.history ++ [iteration] else s.history }

/-- Sweep for iteration `index`, whose program ended with `exit`, and finish the iteration. -/
def sweep (setup : Setup σ β) (s : Session σ β) (index : UInt64) (exit : Option ExitReport) :
    Step σ β :=
  let (result, store) := setup.sweeper.sweep setup.fileSystem s.world.store
  let s := { s with world := { s.world with store }, activity := .check }.record (.swept index result)
  match result with
  | .error fault => s.fail (.listDir setup.sweeper.workingDir fault)
  | .ok report =>
      let s := setup.enter s { index, exit, report }
      match s.progress.finish with
      | .ok progress => .next { s with progress }
      | .error e => .done (.error e) s

/-- What a loop that has not stopped does next. -/
def act (setup : Setup σ β) (s : Session σ β) : Step σ β :=
  match s.activity with
  | .check => s.check
  | .start => setup.start s
  | .await index course => s.await index course
  | .listen index rest => s.listen index rest
  | .sweep index exit => setup.sweep s index exit

/-- **One step of a run**: its end if the loop has stopped, else what is done next, and then a moment for
requests to arrive. -/
def step (setup : Setup σ β) (s : Session σ β) : Step σ β :=
  match s.progress.phase with
  | .stopped => .done (.ok s.summary) s
  | .running =>
      match setup.act s with
      | .next s => .next s.moment
      | .done result s => .done result s

/-- Take at most `fuel` steps; nothing if the run is not over by then. -/
def go (setup : Setup σ β) : Nat → Session σ β → Option (Except RunError Summary × Session σ β)
  | 0, _ => none
  | fuel + 1, s =>
      match setup.step s with
      | .next s => setup.go fuel s
      | .done result s => some (result, s)

/-- **One run of the loop**, in at most `fuel` steps. The sums start anew; all else goes on from where
the last run left it. -/
def run (setup : Setup σ β) (fuel : Nat) (s : Session σ β) :
    Option (Except RunError Summary × Session σ β) :=
  setup.go fuel { s with totals := {}, activity := .check }

end Setup

end RunSweep
