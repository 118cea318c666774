import RunSweep.Loop.Basic
import RunSweep.Storage.Tree

/-!
# Rehearsals

A rehearsal runs the loop on an in-memory store with a stand-in for the acquisition program: every start
writes the same files under names of its own, and ends as it was told. `draft` and `tree`
are a configuration and a store to begin with.
-/

namespace RunSweep.Rehearsal

/-- The working directory of a rehearsal. -/
def workingDir : Path := .ofText "/run"

/-- The archive directory of a rehearsal. -/
def archiveDir : Path := .ofText "/store"

/-- The defaults, with the two directories of a rehearsal. -/
def draft : Draft :=
  { sweep := { workingDir, archiveDir } }

/-- A store that holds the two directories. -/
def tree : Tree :=
  (Tree.empty.addDir workingDir).addDir archiveDir

/-- A stand-in for the acquisition program. -/
structure StandIn where
  outputDir : Path := workingDir
  /-- The files that every start writes: the end of the name, and the length. -/
  outputs : List (String × UInt64) := []
  exit : ExitReport := .ok
  launchFails : Bool := false
  /-- The start that sends a request to shut down, counted from one. -/
  shutdownAfter : Option Nat := none

namespace StandIn

/-- The name of an output file of start `n`. -/
def outputName (n : Nat) (name : String) : String :=
  "run" ++ toString n ++ "_" ++ name

/-- The store after start `n` has written its files. -/
def writeOutputs (p : StandIn) (n : Nat) (t : Tree) : Tree :=
  p.outputs.foldl
    (fun t (name, len) => t.addSizedFile (p.outputDir.join (Utf8.encode (outputName n name))) len) t

/-- The launcher that starts the stand-in. It counts its starts and never waits. -/
def launcher (p : StandIn) : Launcher Tree Nat where
  launch command t starts :=
    let n := starts + 1
    let requests := if p.shutdownAfter = some n then 1 else 0
    if p.launchFails then
      .ended { store := t, launcher := n, requests }
        (.error (.launch command.program (.reported "fake binary missing")))
    else .ended { store := p.writeOutputs n t, launcher := n, requests } (.ok p.exit)

end StandIn

end RunSweep.Rehearsal
