import RunSweep.Command
import RunSweep.RunError

/-!
# Acquisition attempts

Starting the acquisition program gives an `Attempt`: it has ended at once, or it is pending and goes on
later, or it goes on for ever. `Attempt.poll` is one look at it. Between two looks a request to shut down
may be read from the control channel, and then the attempt is abandoned where it stands. An attempt that
has ended is never abandoned, even if a request waits.

Requests come from the program that runs, which may send some at every stage, and from outside: a
`World` lists how many arrive at each moment.
-/

namespace RunSweep

/-- How a process ended. A process that was ended by a signal has no code. -/
structure ExitReport where
  code : Option Int
  success : Bool
  deriving DecidableEq

/-- The end of a process that went well. -/
def ExitReport.ok : ExitReport :=
  { code := some 0, success := true }

/-- The end of a process that reports a failure. -/
def ExitReport.failed (code : Int) : ExitReport :=
  { code := some code, success := false }

/-- What a stage of an attempt leaves: the store, the launcher's own state, and the number of requests
to shut down that were sent. -/
structure Stage (σ β : Type) where
  store : σ
  launcher : β
  requests : Nat := 0

/-- **The course of one run of the acquisition program.** -/
inductive Attempt (σ β : Type) where
  | ended (stage : Stage σ β) (result : Except RunError ExitReport)
  | pending (stage : Stage σ β) (rest : Attempt σ β)
  /-- It is pending at every look. -/
  | endless (stages : Nat → Stage σ β)

/-- What a look at an attempt finds. -/
inductive Poll (σ β : Type) where
  | ended (result : Except RunError ExitReport)
  | pending (rest : Attempt σ β)

/-- Look at an attempt: the stage it is in, and whether it has ended. -/
def Attempt.poll {σ β : Type} : Attempt σ β → Stage σ β × Poll σ β
  | ended stage result => (stage, .ended result)
  | pending stage rest => (stage, .pending rest)
  | endless stages => (stages 0, .pending (.endless fun n => stages (n + 1)))

/-- How acquisition programs are started, with a state of its own between two starts. -/
structure Launcher (σ β : Type) where
  launch : Command → σ → β → Attempt σ β

/-- How many requests the control channel holds.

A request that finds no room may be lost, or its sender may wait for room. It makes no difference to a
loop: four other requests wait then, and the first to be read stops the loop for good, so that no more are
read. A program that waits for room itself is pending until there is. -/
def channelCapacity : Nat := 4

/-- **What a loop works on**: the store, the launcher's state, the requests that wait in the channel,
and those still to arrive from outside, moment by moment. -/
structure World (σ β : Type) where
  store : σ
  launcher : β
  waiting : Nat := 0
  arrivals : List Nat := []

namespace World

variable {σ β : Type}

/-- Requests enter the channel as far as there is room. The others are lost, and no run depends on them. -/
def send (w : World σ β) (requests : Nat) : World σ β :=
  { w with waiting := min channelCapacity (w.waiting + requests) }

/-- Let the requests of the next moment arrive from outside. -/
def moment (w : World σ β) : World σ β :=
  match w.arrivals with
  | [] => w
  | requests :: later => { w with arrivals := later }.send requests

/-- The world after a stage of an attempt. -/
def after (w : World σ β) (stage : Stage σ β) : World σ β :=
  { w with store := stage.store, launcher := stage.launcher }.send stage.requests

/-- Read a request from the channel, if one waits. -/
def receive (w : World σ β) : Bool × World σ β :=
  if w.waiting = 0 then (false, w) else (true, { w with waiting := w.waiting - 1 })

end World

/-- Wait for the end of an attempt without regard to requests; there is no result if it never ends. -/
def Attempt.follow {σ β : Type} :
    Attempt σ β → World σ β → Option (Except RunError ExitReport) × World σ β
  | ended stage result, w => (some result, w.after stage)
  | pending stage rest, w => rest.follow (w.after stage)
  | endless _, w => (none, w)

end RunSweep
