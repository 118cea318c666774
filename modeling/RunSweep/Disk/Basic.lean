import RunSweep.Storage.Fault

/-!
# A machine's file system

A `Disk` maps locations to nodes: files, directories, symbolic links, the programs that every machine
has, and two devices. A location is the list of names from the root; a path leads to one through the
directories and links on its way (`Disk.find`). The error numbers are those of the system calls.

The modules on disks stand for the machine under the program, and nothing is claimed of them. A theorem
that mentions a disk holds for every disk, and the theorems about sweeps for stores of other kinds as well.
-/

namespace RunSweep

/-- What a file holds: some bytes, and so many bytes 0 behind them. -/
structure Contents where
  bytes : Bytes := []
  zeros : Nat := 0
  deriving DecidableEq, Inhabited

namespace Contents

/-- The number of bytes. -/
def size (c : Contents) : Nat :=
  c.bytes.length + c.zeros

/-- All bytes. -/
def toBytes (c : Contents) : Bytes :=
  if c.zeros = 0 then c.bytes else c.bytes ++ List.replicate c.zeros 0

/-- The first `n` bytes. -/
def take (n : Nat) (c : Contents) : Contents :=
  { bytes := c.bytes.take n, zeros := min c.zeros (n - c.bytes.length) }

/-- The contents cut off, or filled up with bytes 0, to a length. -/
def resize (n : Nat) (c : Contents) : Contents :=
  let kept := c.take n
  { kept with zeros := kept.zeros + (n - c.size) }

/-- One content behind another. -/
def append (c d : Contents) : Contents :=
  if d.bytes.isEmpty then { c with zeros := c.zeros + d.zeros }
  else { bytes := c.toBytes ++ d.bytes, zeros := d.zeros }

instance : Append Contents := ⟨append⟩

end Contents

/-- Where a node is: the names from the root. -/
abbrev Location := List Bytes

/-- What is at a location. -/
inductive Node where
  | file (contents : Contents) (executable : Bool)
  | dir
  | link (target : Bytes)
  /-- A program of the machine. -/
  | program (name : String)
  /-- A device that is always empty and swallows what is written. -/
  | null
  /-- A device without end that holds bytes 0. -/
  | zero
  deriving DecidableEq

/-- Whether a node is a directory. -/
def Node.isDir : Node → Bool
  | dir => true
  | _ => false

/-- The number of bytes that is told of a node. -/
def Node.size : Node → Nat
  | file contents _ => contents.size
  | dir => 4096
  | link target => target.length
  | program _ | null | zero => 0

/-- **A machine's file system**: its nodes, no location twice, and the directory in which relative paths
start. -/
structure Disk where
  nodes : List (Location × Node)
  cwd : Location
  deriving DecidableEq

namespace Disk

/-- The node at a location. The root is always a directory. -/
def at? (d : Disk) (loc : Location) : Option Node :=
  if loc.isEmpty then some .dir else d.nodes.lookup loc

/-- Put a node at a location, instead of what was there. -/
def put (d : Disk) (loc : Location) (node : Node) : Disk :=
  { d with nodes := (loc, node) :: d.nodes.filter (·.1 != loc) }

/-- Remove the node at a location. -/
def erase (d : Disk) (loc : Location) : Disk :=
  { d with nodes := d.nodes.filter (·.1 != loc) }

/-- The names in a directory, in increasing order. -/
def names (d : Disk) (loc : Location) : List Bytes :=
  (d.nodes.filterMap fun (l, _) =>
    match l.getLast? with
    | some name => if l.dropLast == loc then some name else none
    | none => none).mergeSort notAfter

/-- Move a node, and everything below it, to another location. -/
def move (d : Disk) (source target : Location) : Disk :=
  { d with
    nodes := (d.nodes.filter (·.1 != target)).map fun (l, node) =>
      if source.isPrefixOf l then (target ++ l.drop source.length, node) else (l, node) }

/-! ## Finding -/

/-- **Where a path leads.** The node is missing if only the last name is. -/
structure Spot where
  location : Location
  node : Option Node
  /-- The path, or a link at its end, ends in a slash, so that it can only mean a directory. -/
  slash : Bool := false
  /-- The path ends in a name, and not in a step that stays or goes up. -/
  named : Bool := true

/-- How many links may be followed on the way of one path. -/
def maxLinks : Nat := 40

/-- The longest name. -/
def maxName : Nat := 255

/-- One more than the longest path. -/
def maxPath : Nat := 4096

/-- The steps of a path, without the empty ones. -/
def pathSteps (bytes : Bytes) : List Bytes :=
  (Path.segments bytes).filter (!·.isEmpty)

/-- Whether the text of a path ends in a slash. -/
def endsInSlash (bytes : Bytes) : Bool :=
  bytes.getLast? == some Path.slash

/-- What a path is followed for. -/
inductive Purpose where
  /-- To look at what is there, or at a link itself if one is at the end. -/
  | look (follow : Bool)
  /-- To write a file, which is made if it is missing. Before a slash there is none to be made. -/
  | write
  deriving DecidableEq

/-- Whether a link at the end is followed. -/
def Purpose.follows : Purpose → Bool
  | look follow => follow
  | write => true

/-- The spot of a name in the directory at a location. -/
def child (d : Disk) (loc : Location) (name : Bytes) (slash : Bool) : Except HostError Spot :=
  if maxName < name.length then .error (.errno .nameTooLong)
  else .ok { location := loc ++ [name], node := d.at? (loc ++ [name]), slash }

/-- Take the steps of a path from a directory on. A link is followed on the way, and at its end as the
purpose says; `links` of them may be followed. `slash` tells whether a slash follows the last step. -/
def walk (d : Disk) (purpose : Purpose) (links : Nat) (slash : Bool) :
    Nat → Location → List Bytes → Except HostError Spot
  | 0, _, _ => .error (.errno .linkLoop)
  | _ + 1, loc, [] => .ok { location := loc, node := d.at? loc, slash, named := false }
  | fuel + 1, loc, step :: rest =>
      if step = [Path.dot] then d.walk purpose links slash fuel loc rest
      else if step = [Path.dot, Path.dot] then d.walk purpose links slash fuel loc.dropLast rest
      else if rest.isEmpty && slash && purpose = .write then .error (.errno .isDirectory)
      else do
        let spot ← d.child loc step slash
        match spot.node with
        | none => if rest.isEmpty then .ok spot else .error (.errno .noEntry)
        | some (.link target) =>
            if rest.isEmpty && !purpose.follows then .ok spot
            else
              match links with
              | 0 => .error (.errno .linkLoop)
              | links + 1 =>
                  let start := if target.head? == some Path.slash then [] else loc
                  let slash := slash || (rest.isEmpty && endsInSlash target)
                  d.walk purpose links slash fuel start (pathSteps target ++ rest)
        | some node =>
            if rest.isEmpty then .ok spot
            else if node.isDir then d.walk purpose links slash fuel spot.location rest
            else .error (.errno .notDirectory)

/-- Check that a path can be followed at all. -/
def checkPath (path : Path) : Except HostError Unit :=
  if path.bytes.contains 0 then .error .nulInPath
  else if path.isEmpty then .error (.errno .noEntry)
  else if maxPath ≤ path.bytes.length then .error (.errno .nameTooLong)
  else .ok ()

/-- Take steps from the root or from the directory in which relative paths start. -/
def follow (d : Disk) (purpose : Purpose) (path : Path) (slash : Bool) (steps : List Bytes) :
    Except HostError Spot :=
  let start := if path.isAbsolute then [] else d.cwd
  d.walk purpose maxLinks slash (maxPath * (maxLinks + 1)) start steps

/-- Where a path leads. -/
def reach (d : Disk) (purpose : Purpose) (path : Path) : Except HostError Spot := do
  checkPath path
  d.follow purpose path (endsInSlash path.bytes) (pathSteps path.bytes)

/-- Where a path leads that is looked up. A slash at the end makes a last link be followed. -/
def find (d : Disk) (follow : Bool) (path : Path) : Except HostError Spot :=
  d.reach (.look (follow || endsInSlash path.bytes)) path

/-- Where a file is that is to be written, or made. -/
def target (d : Disk) (path : Path) : Except HostError Spot :=
  d.reach .write path

/-- The node where a path leads. -/
def node (d : Disk) (follow : Bool) (path : Path) : Except HostError Node := do
  let spot ← d.find follow path
  match spot.node with
  | none => throw (.errno .noEntry)
  | some node =>
      if spot.slash && !node.isDir then throw (.errno .notDirectory)
      return node

/-! ## Entries of directories -/

/-- **The entry of a directory that a path names**, before anyone has looked whether it is there. -/
structure Entry where
  /-- The directory. -/
  parent : Location
  /-- The last step of the path, if there is one. -/
  step : Option Bytes
  slash : Bool

/-- The name of an entry; a step that stays or goes up is none. -/
def Entry.name? (e : Entry) : Option Bytes :=
  e.step.filter fun step => step != [Path.dot] && step != [Path.dot, Path.dot]

/-- The entry that a path names, for calls that make, move or remove an entry. -/
def entry (d : Disk) (path : Path) : Except HostError Entry := do
  checkPath path
  let steps := pathSteps path.bytes
  let spot ← d.follow (.look true) path true steps.dropLast
  match spot.node with
  | none => throw (.errno .noEntry)
  | some node =>
      if !node.isDir then throw (.errno .notDirectory)
      return { parent := spot.location, step := steps.getLast?, slash := endsInSlash path.bytes }

/-- What is at an entry. A link is not followed. -/
def spot (d : Disk) (e : Entry) : Except HostError Spot :=
  match e.name? with
  | some name => d.child e.parent name e.slash
  | none =>
      let location := if e.step == some [Path.dot, Path.dot] then e.parent.dropLast else e.parent
      .ok { location, node := some .dir, slash := e.slash, named := false }

/-- What is at the entry that a path names. -/
def spotOf (d : Disk) (path : Path) : Except HostError Spot := do
  d.spot (← d.entry path)

end Disk

end RunSweep
