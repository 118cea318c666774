import RunSweep.Disk.Executable
import RunSweep.Shell.Syntax

/-!
# A running process

The state of a process that runs a script or one of the machine's programs: the disk, the variables and
parameters, what was written to its streams, and where each stream leads. `Act` is an action on it; an
action that does not simply go on leaves with a `Leap`.

Waiting is observable: `pause` notes what the world looks like while the process sleeps. A request to
shut down that was sent before makes the parent end the process there. A process is a part of the
machine, of which nothing is claimed; theorems about it hold for every process.
-/

namespace RunSweep.Shell

/-- Where a stream that is written to leads. -/
inductive Sink where
  /-- One of the outputs of the process. -/
  | output (index : Nat)
  | file (location : Location)
  | nowhere
  deriving DecidableEq

/-- What is left to read. -/
structure Input where
  contents : Contents := {}
  /-- Bytes 0 follow without end. -/
  endless : Bool := false

/-- The first `n` bytes of what is left. -/
def Input.take (n : Nat) (i : Input) : Contents :=
  if i.endless then i.contents.resize n else i.contents.take n

/-- The world while a process sleeps: the disk, what was printed, and the requests that were sent. -/
structure Pause where
  disk : Disk
  stdout : Bytes
  stderr : Bytes
  requests : Nat

/-- **The state of a process.** The chunks of an output, and the pauses, stand last one first. -/
structure Process where
  disk : Disk
  /-- The name under which the process reports its faults. -/
  name : String := "sh"
  params : List String := []
  vars : List (String × String) := []
  /-- The names of the variables that are handed on to other programs. -/
  exported : List String := []
  functions : List (String × Cmd) := []
  /-- The variables that the running function has made its own, with the values they had before. -/
  locals : List (String × Option String) := []
  /-- Commands that run beside the script. They are put off until the script waits or ends. -/
  jobs : List Cmd := []
  /-- What is run when the script ends. -/
  atExit : Option String := none
  status : Nat := 0
  /-- How the last script ended whose printout was filled in. -/
  filled : Nat := 0
  line : Nat := 1
  outputs : List (List Contents) := [[], []]
  sinks : List (Nat × Sink) := [(1, .output 0), (2, .output 1)]
  input : Input := {}
  /-- The requests that were sent since the last pause. -/
  requests : Nat := 0
  pauses : List Pause := []
  /-- Leave when a command fails. -/
  strict : Bool := false
  /-- The failure of a command is looked at, and no reason to leave. -/
  guarded : Bool := false

/-- Ways to leave an action. -/
inductive Leap where
  | leaveLoop (levels : Nat)
  | nextRound (levels : Nat)
  | leaveFunction
  | leave
  /-- Ended from outside. -/
  | killed

/-- An action of a process. -/
abbrev Act := ExceptT Leap (StateM Process)

/-- The number of a process, and that of the process that started it. -/
def ownNumber : String := "4001"

/-- The number of the process that started it. -/
def parentNumber : String := "4000"

namespace Process

/-- What was written to an output. -/
def printed (index : Nat) (p : Process) : Contents :=
  ((p.outputs[index]?).getD []).foldl (fun behind chunk => chunk ++ behind) {}

/-- The process with a chunk written to a stream, if the stream leads anywhere. -/
def write (fd : Nat) (chunk : Contents) (p : Process) : Process :=
  match p.sinks.lookup fd with
  | some (.output i) => { p with outputs := p.outputs.modify i (chunk :: ·) }
  | some (.file loc) =>
      match p.disk.at? loc with
      | some (.file contents executable) =>
          { p with disk := p.disk.put loc (.file (contents ++ chunk) executable) }
      | _ => p
  | some .nowhere | none => p

/-- The process with a value for a variable. -/
def assign (name value : String) (p : Process) : Process :=
  { p with vars := (name, value) :: p.vars.filter (·.1 != name) }

/-- The process without a variable. -/
def unassign (name : String) (p : Process) : Process :=
  { p with vars := p.vars.filter (·.1 != name) }

/-- The process with a variable as it was before. -/
def restore (old : String × Option String) (p : Process) : Process :=
  match old with
  | (name, some value) => p.assign name value
  | (name, none) => p.unassign name

/-- The value of a parameter or variable. All positional parameters together are joined by spaces. -/
def value? (name : String) (p : Process) : Option String :=
  match name with
  | "@" | "*" => if p.params.isEmpty then none else some (" ".intercalate p.params)
  | "#" => some (toString p.params.length)
  | "?" => some (toString p.status)
  | "$" => some ownNumber
  | "-" => some (if p.strict then "e" else "")
  | "!" => none
  | "0" => some p.name
  | "PPID" => some parentNumber
  | _ =>
      match name.toNat? with
      | some n => p.params[n - 1]?
      | none => p.vars.lookup name

/-- The characters that separate fields. -/
def separators (p : Process) : List Char :=
  ((p.vars.lookup "IFS").map String.toList).getD [' ', '\t', '\n']

/-- What a process that was started by `outer`, and has now ended as `inner`, leaves behind: it has
changed the disk and the streams, and nothing else. -/
def resume (outer inner : Process) : Process :=
  { outer with
    disk := { inner.disk with cwd := outer.disk.cwd }
    outputs := inner.outputs
    input := inner.input
    requests := inner.requests
    pauses := inner.pauses
    status := inner.status }

end Process

/-! ## Actions -/

/-- Write to a stream. -/
def emit (fd : Nat) (chunk : Contents) : Act Unit :=
  modify (Process.write fd chunk)

/-- Write a text to a stream. -/
def say (fd : Nat) (text : String) : Act Unit :=
  emit fd { bytes := toBytes text }

/-- Report a fault of a command, with the name of the script and the number of the line. -/
def complain (text : String) : Act Unit := do
  let p ← get
  say 2 (p.name ++ ": " ++ toString p.line ++ ": " ++ text ++ "\n")

/-- End the command with a status. -/
def finish (status : Nat) : Act Unit :=
  modify fun p => { p with status }

/-- Report a fault that ends the whole script. -/
def fatal {α : Type} (text : String) : Act α := do
  complain text
  finish 2
  throw .leave

/-- Work on the disk; a call that fails leaves it. -/
def onDisk (call : Disk → Except HostError Disk) : Act (Option HostError) := do
  let p ← get
  match call p.disk with
  | .ok disk => do
      set { p with disk }
      return none
  | .error e => return some e

/-- Sleep. A process that has sent a request is ended while it sleeps. -/
def pause : Act Unit := do
  let p ← get
  let now : Pause :=
    { disk := p.disk
      stdout := (p.printed 0).toBytes
      stderr := (p.printed 1).toBytes
      requests := p.requests }
  set { p with pauses := now :: p.pauses, requests := 0 }
  if p.requests > 0 then throw .killed

/-- All that is left to read. -/
def readAll : Act Contents := do
  let p ← get
  set { p with input := {} }
  return p.input.contents

/-- Read up to a line end, which is left out; and tell whether there was one. -/
def readLine : Act (String × Bool) := do
  let p ← get
  let bytes := p.input.contents.toBytes
  let line := bytes.takeWhile (· != 10)
  let rest := bytes.drop line.length
  set { p with input := { contents := { bytes := rest.drop 1 } } }
  return (ofBytes line, !rest.isEmpty)

/-- Do something in a process of its own. -/
def fork (body : Act Unit) : Act Unit := do
  let outer ← get
  set { outer with jobs := [], atExit := none }
  try body
  catch
    | .killed => throw .killed
    | _ => pure ()
  modify outer.resume

/-- What a process of its own prints. -/
def capture (body : Act Unit) : Act Contents := do
  let outer ← get
  let index := outer.outputs.length
  let inner : Process :=
    { outer with outputs := outer.outputs ++ [[]], sinks := (1, .output index) :: outer.sinks }
  set inner
  fork body
  let p ← get
  set { p with outputs := p.outputs.take index, sinks := outer.sinks }
  return p.printed index

/-- Do something while the streams lead elsewhere, and put them back. -/
def withStreams (body : Act Unit) : Act Unit := do
  let before ← get
  let back (p : Process) : Process := { p with sinks := before.sinks, input := before.input }
  try body
  catch leap => do
    modify back
    throw leap
  modify back

/-- Do something whose failure is looked at. -/
def guarding (body : Act Unit) : Act Unit := do
  let before := (← get).guarded
  modify fun p => { p with guarded := true }
  try body
  catch leap => do
    modify fun p => { p with guarded := before }
    throw leap
  modify fun p => { p with guarded := before }

/-- Leave the script if the last command failed and nobody looks at that. -/
def checkStrict : Act Unit := do
  let p ← get
  if p.strict && !p.guarded && p.status ≠ 0 then throw .leave

end RunSweep.Shell
