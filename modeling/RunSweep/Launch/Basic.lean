import RunSweep.Launch.Lines
import RunSweep.Loop.Attempt
import RunSweep.Shell.Evaluation

/-!
# Acquisition programs as processes

`processes` is the launcher that runs a command on the machine's disk, in a process of its own that has
nothing to read. Its launcher state is the acquisition log: the lines of both output streams, passed on
as they come. Wherever the process sleeps, the attempt is pending.
-/

namespace RunSweep

/-- **What acquisition programs have printed**: the lines of their outputs, and of their errors. -/
structure AcquisitionLog where
  info : List String := []
  warn : List String := []
  deriving DecidableEq

namespace AcquisitionLog

/-- The log with the lines of another one behind its own. -/
def append (log more : AcquisitionLog) : AcquisitionLog :=
  { info := log.info ++ more.info, warn := log.warn ++ more.warn }

instance : Append AcquisitionLog := ⟨append⟩

end AcquisitionLog

open Shell (Process Leap)

/-- More steps than a process may take before it is ended from outside. -/
def processSteps : Nat := 1000000

/-- The variables that every process is handed. -/
def environment : List (String × String) :=
  let path (p : Path) : String := Shell.ofBytes p.bytes
  [("HOME", "/root"), ("PATH", ":".intercalate (Machine.searchPath.map path))]

/-- A process before it runs. -/
def freshProcess (disk : Disk) : Process :=
  { disk, vars := environment, exported := environment.map Prod.fst }

/-- Run an image to its end. -/
def runToEnd (command : Command) (image : Image) (disk : Disk) : Except Leap Unit × Process :=
  (Shell.runImage processSteps (Shell.ofBytes command.program.bytes) image).run.run
    (freshProcess disk)

/-- How a process ended. One that was ended from outside has no code. -/
def exitOf (result : Except Leap Unit) (p : Process) : ExitReport :=
  match result with
  | .error .killed => { code := none, success := false }
  | _ =>
      let code := p.status % 256
      { code := some code, success := code = 0 }

/-- What the parent sees of a sleeping process; its relative paths start from `cwd`. -/
def pauseStage (log : AcquisitionLog) (cwd : Location) (p : Shell.Pause) :
    Stage Disk AcquisitionLog :=
  { store := { p.disk with cwd }
    launcher := log ++ { info := Lines.finished p.stdout, warn := Lines.finished p.stderr }
    requests := p.requests }

/-- The course of a process that has come to its end; the parent's relative paths start from `cwd`. -/
def courseOf (log : AcquisitionLog) (cwd : Location) (result : Except Leap Unit) (p : Process) :
    Attempt Disk AcquisitionLog :=
  let printed (i : Nat) : List String := Lines.all (p.printed i).toBytes
  let last : Stage Disk AcquisitionLog :=
    { store := { p.disk with cwd }
      launcher := log ++ { info := printed 0, warn := printed 1 }
      requests := p.requests }
  p.pauses.foldl (fun rest pause => .pending (pauseStage log cwd pause) rest)
    (.ended last (.ok (exitOf result p)))

/-- **The launcher that runs a command as a process.** -/
def processes : Launcher Disk AcquisitionLog where
  launch command disk log :=
    match disk.start command.program command.args with
    | .error e => .ended { store := disk, launcher := log } (.error (.launch command.program e))
    | .ok image =>
        let (result, p) := runToEnd command image disk
        courseOf log disk.cwd result p

end RunSweep
