import RunSweep.Program.Basic

/-!
# Command line

The outer layer: it reads the configuration file, lets the program run on the machine's disk, and prints
what the program says.
-/

open RunSweep

/-- The bytes of a file, if it can be read. -/
def fileBytes? (path : String) : IO (Option Bytes) := do
  try
    return some (← IO.FS.readBinFile path).toList
  catch _ => return none

/-- The machine's disk with the configuration file that the arguments ask for. -/
def loadDisk (config : Option Path) : IO Disk := do
  let path := config.getD defaultConfigPath
  match ← fileBytes? (Utf8.lossy path.bytes) with
  | none => return Machine.disk
  | some bytes =>
      let d := (path.parent?.map fun dir => (Machine.disk.createDirAll dir).2).getD Machine.disk
      return ((d.write path { bytes }).toOption).getD d

/-- Run the program with more and more steps until it has come to its end. -/
partial def invokeFully (fuel : Nat) (words : List Bytes) (d : Disk) : IO Ending := do
  match invoke fuel words d with
  | some (ending, _) => return ending
  | none => invokeFully (2 * fuel) words d

/-- The command line. -/
def main (args : List String) : IO UInt32 := do
  let words := args.map Utf8.encode
  let config :=
    match Arguments.read words with
    | .ok a => a.config
    | .error _ => none
  let ending ← invokeFully 1024 words (← loadDisk config)
  (← IO.getStdout).putStr ending.stdout
  (← IO.getStderr).putStr ending.stderr
  return ending.code.toUInt32
