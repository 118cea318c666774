import RunSweep.Disk.Calls
import RunSweep.Disk.Machine

/-!
# Executable files

What the machine runs when a program is started: one of its own programs, or the interpreter that the
first line of a script names. A name without a slash is looked for in the directories of the search
path. It stands for what the machine does, of which nothing is claimed.
-/

namespace RunSweep

/-- A program of the machine with the arguments it is started with; as an interpreter it goes by the path
that the script names. -/
structure Image where
  tool : String
  interpreter : Option Path := none
  args : List Bytes
  deriving DecidableEq

namespace Disk

/-- How many interpreters may stand one behind the other. -/
def maxInterpreters : Nat := 5

/-- A blank in the first line of a script. -/
def isGap (b : UInt8) : Bool :=
  b = 32 || b = 9

/-- How many bytes of a script the machine looks at to find its interpreter. -/
def headLength : Nat := 256

/-- Bytes without the blanks at their end. -/
def dropGapsAtEnd (bytes : Bytes) : Bytes :=
  (bytes.reverse.dropWhile isGap).reverse

/-- The interpreter in the line behind `#!` and the one argument that may follow it. The argument is all
that stands behind the blanks after the name, so that it is empty where only blanks follow. A name left
out stands for the current directory. -/
def interpreterOfLine (line : Bytes) : Path × List Bytes :=
  let line := line.dropWhile isGap
  let name := line.takeWhile (!isGap ·)
  let rest := line.drop name.length
  (if name.isEmpty then ⟨[Path.dot]⟩ else ⟨name⟩, if rest.isEmpty then [] else [rest.dropWhile isGap])

/-- The interpreter that a script names behind `#!`, and the one argument that may follow it. The line
ends at a line end or at the byte 0; blanks before the line end do not count, blanks before a byte 0 or
the end of the script do. A line longer than the part that is looked at may lose the end of its argument,
and names nothing if its name could have lost its end. -/
def interpreter? (script : Bytes) : Option (Path × List Bytes) :=
  match (script.take headLength).takeWhile (· != 0) with
  | 35 :: 33 :: rest =>
      let line := rest.takeWhile (· != 10)
      if line.length < rest.length then named (dropGapsAtEnd line)
      else if rest.length + 3 < headLength then some (interpreterOfLine line)
      else if rest.length + 2 < headLength || (rest.dropWhile isGap).any isGap then
        named (dropGapsAtEnd (rest.take (headLength - 3)))
      else none
  | _ => none
where
  /-- The interpreter of a line that must name one. -/
  named (line : Bytes) : Option (Path × List Bytes) :=
    if line.all isGap then none else some (interpreterOfLine line)

/-- What runs when the file at a path is executed with some arguments. -/
def image (d : Disk) (path : Path) (args : List Bytes) : Nat → Except HostError Image
  | 0 => .error (.errno .linkLoop)
  | depth + 1 => do
      match ← d.node true path with
      | .program tool => return { tool, args }
      | .file contents true =>
          match interpreter? contents.bytes with
          | some (interpreter, lead) => do
              let image ← d.image interpreter (lead ++ path.bytes :: args) depth
              return { image with interpreter := image.interpreter <|> some interpreter }
          | none => throw (.errno .execFormat)
      | _ => throw (.errno .permission)

/-- The first of some paths at which there is something to execute. A file that may not be executed is
passed over, and is the reason of the failure if nothing else is found. -/
def firstExecutable (d : Disk) (denied : Bool) : List Path → Except HostError Path
  | [] => .error (.errno (if denied then .permission else .noEntry))
  | path :: rest =>
      match d.image path [] maxInterpreters with
      | .ok _ | .error (.errno .execFormat) => .ok path
      | .error (.errno .permission) => d.firstExecutable true rest
      | .error _ => d.firstExecutable denied rest

/-- Where a program is that is called by a name. -/
def locate (d : Disk) (name : Path) : Except HostError Path :=
  if name.isEmpty then .error (.errno .noEntry)
  else if name.bytes.contains Path.slash then .ok name
  else if maxName < name.bytes.length then .error (.errno .nameTooLong)
  else d.firstExecutable false (Machine.searchPath.map (·.join name.bytes))

/-- What runs when a program is started by its name. Neither the name nor an argument may hold the
byte 0. -/
def start (d : Disk) (name : Path) (args : List Bytes) : Except HostError Image := do
  if (name.bytes :: args).any (·.contains 0) then throw .nulInWord
  d.image (← d.locate name) args maxInterpreters

end Disk

end RunSweep
