import RunSweep.CommandLine.Reading
import RunSweep.Config.Resolution
import RunSweep.Launch.Basic
import RunSweep.Loop.Basic
import RunSweep.Program.Preview

/-!
# The program

`Arguments.run` finds the configuration in force and either prints the preview of a run or goes through
the loop. `invoke` does so for the words of a command line, and says how the program ends: with code 0,
with code 2 if the command line is at fault, and else with code 1 and a message.
-/

namespace RunSweep

/-- **What a run of the program leaves.** -/
structure Finished where
  result : Except RunError Unit
  stdout : String := ""
  log : AcquisitionLog := {}
  disk : Disk

/-- Go through the loop that a configuration describes, in at most `fuel` steps. -/
def Config.run (c : Config) (fuel : Nat) (d : Disk) : Option Finished := do
  let setup := c.setup Disk.fileSystem processes false
  let (result, s) ← setup.run fuel (.fresh c.plan { store := d, launcher := {} })
  return { result := result.map fun _ => (), log := s.world.launcher, disk := s.world.store }

/-- **Run the program with arguments**, in at most `fuel` steps of the loop. A dry run only prints. -/
def Arguments.run (a : Arguments) (fuel : Nat) (d : Disk) : Option Finished :=
  match Config.resolve d a.config a.overrides with
  | .error e => some { result := .error e, disk := d }
  | .ok c =>
      if a.dryRun then some { result := .ok (), stdout := c.preview, disk := d } else c.run fuel d

/-! ## Messages -/

/-- A text whose first line follows `lead`; `indent` stands in front of every other line. -/
def hanging (lead indent text : String) : String :=
  lead ++ ("\n" ++ indent).intercalate (text.splitOn "\n")

/-- The causes of an error, one below the other; several are numbered from 0. -/
def renderCauses (causes : List String) : List String :=
  match causes with
  | [cause] => [hanging "    " "    " cause]
  | _ => causes.zipIdx.map fun (cause, i) =>
      let number := toString i
      let gap := String.ofList (List.replicate (5 - number.length) ' ')
      hanging (gap ++ number ++ ": ") "       " cause

/-- The message with which the program ends in an error. -/
def RunError.report (e : RunError) : String :=
  let head := Usage.program ++ " error: " ++ e.message
  let lines := if e.causes.isEmpty then [head]
    else [head, "", "Caused by:"] ++ renderCauses e.causes
  Usage.ofLines lines

/-! ## Invocation -/

/-- How the program ends: its exit code, and what it printed besides its log. -/
structure Ending where
  code : UInt8
  stdout : String := ""
  stderr : String := ""
  deriving DecidableEq

/-- How the program ends when it does not even start. Help goes to the output, complaints do not. -/
def EarlyExit.ending (e : EarlyExit) : Ending :=
  if e.code = 0 then { code := 0, stdout := e.text }
  else { code := e.code, stderr := e.text ++ "\n" }

/-- How the program ends after a run. -/
def Finished.ending (f : Finished) : Ending :=
  match f.result with
  | .ok () => { code := 0, stdout := f.stdout }
  | .error e => { code := 1, stdout := f.stdout, stderr := e.report }

/-- **The program**, called with the words of a command line: how it ends, and the disk it leaves. -/
def invoke (fuel : Nat) (words : List Bytes) (d : Disk) : Option (Ending × Disk) :=
  match Arguments.read words with
  | .error e => some (e.ending, d)
  | .ok a => (a.run fuel d).map fun f => (f.ending, f.disk)

end RunSweep
