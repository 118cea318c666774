import RunSweep.Disk.Basic
import RunSweep.Storage.Walk

/-!
# Calls on a machine's file system

The calls by which files are listed, written, moved and removed, and `Disk.fileSystem`, the store that
they make up. They stand for the calls of the machine, of which nothing is claimed.
-/

namespace RunSweep.Disk

/-- Whether a path leads to a directory. -/
def isDir (d : Disk) (path : Path) : Bool :=
  match d.node true path with
  | .ok node => node.isDir
  | .error _ => false

/-- Whether a path leads to a file with contents. -/
def isFile (d : Disk) (path : Path) : Bool :=
  match d.node true path with
  | .ok (.file ..) | .ok (.program _) => true
  | _ => false

/-- Whether there is anything at a path, if only a link. -/
def contains (d : Disk) (path : Path) : Bool :=
  (d.node false path).toBool

/-- The names in a directory, in increasing order. -/
def namesIn (d : Disk) (path : Path) : Except HostError (List Bytes) := do
  let spot ← d.find true path
  match spot.node with
  | none => throw (.errno .noEntry)
  | some .dir => return d.names spot.location
  | some _ => throw (.errno .notDirectory)

/-- What a file holds. The endless device has nothing to read as a whole. -/
def read (d : Disk) (path : Path) : Except HostError Contents := do
  match ← d.node true path with
  | .dir => throw (.errno .isDirectory)
  | .file contents _ => return contents
  | .link _ | .program _ | .null | .zero => return {}

/-- What a file holds, as text. -/
def readText (d : Disk) (path : Path) : Except HostError String := do
  match Utf8.decode? (← d.read path).toBytes with
  | some text => return text
  | none => throw .illFormedText

/-- Change what a file holds, from nothing if it is not there. Where a link dangles, the file is made
that it points to. -/
def update (d : Disk) (path : Path) (f : Contents → Contents) : Except HostError Disk := do
  let spot ← d.target path
  match spot.node with
  | some .dir => throw (.errno .isDirectory)
  | some (.file contents executable) =>
      return d.put spot.location (.file (f contents) executable)
  | some _ => return d
  | none => return d.put spot.location (.file (f {}) false)

/-- Give a file new contents. -/
def write (d : Disk) (path : Path) (contents : Contents) : Except HostError Disk :=
  d.update path fun _ => contents

/-- Make a file executable, or not. -/
def setExecutable (d : Disk) (path : Path) (executable : Bool) : Except HostError Disk := do
  let spot ← d.find true path
  match spot.node with
  | some (.file contents _) => return d.put spot.location (.file contents executable)
  | some _ => return d
  | none => throw (.errno .noEntry)

/-- Make a symbolic link. -/
def symlink (d : Disk) (path : Path) (target : Bytes) : Except HostError Disk := do
  let spot ← d.spotOf path
  if spot.node.isSome then throw (.errno .entryExists)
  if spot.slash then throw (.errno .noEntry)
  return d.put spot.location (.link target)

/-- Make a directory. -/
def mkdir (d : Disk) (path : Path) : Except HostError Disk := do
  let spot ← d.spotOf path
  if spot.node.isSome then throw (.errno .entryExists)
  return d.put spot.location .dir

/-- Make a directory, or be content with one that is there already. -/
def ensureDir (d : Disk) (path : Path) : Except HostError Unit × Disk :=
  match d.mkdir path with
  | .ok d => (.ok (), d)
  | .error e => (if d.isDir path then .ok () else .error e, d)

/-- Make a directory and its missing ancestors, at most `depth` of them. The ancestors that were made
stay if the directory itself cannot be made. -/
def makeDirs (d : Disk) (path : Path) : Nat → Except HostError Unit × Disk
  | 0 => (.error (.errno .noEntry), d)
  | depth + 1 =>
      if path.isEmpty then (.ok (), d)
      else
        match d.ensureDir path with
        | (.error (.errno .noEntry), d) =>
            match path.parent? with
            | none => (.error (.reported "failed to create whole tree"), d)
            | some parent =>
                match d.makeDirs parent depth with
                | (.ok (), d) => d.ensureDir path
                | (.error e, d) => (.error e, d)
        | (result, d) => (result, d)

/-- Make a directory and its missing ancestors. -/
def createDirAll (d : Disk) (path : Path) : Except HostError Unit × Disk :=
  d.makeDirs path (path.bytes.length + 1)

/-- Move a node. A file takes the place of a file, and a directory that of an empty directory. Both
directories must be there before anything in them is looked at. -/
def rename (d : Disk) (source target : Path) : Except HostError Disk := do
  if target.bytes.contains 0 then throw .nulInPath
  let oldEntry ← d.entry source
  let newEntry ← d.entry target
  if oldEntry.name?.isNone || newEntry.name?.isNone then throw (.errno .busy)
  let old ← d.spot oldEntry
  let some node := old.node | throw (.errno .noEntry)
  let new ← d.spot newEntry
  if !node.isDir && (old.slash || new.slash) then throw (.errno .notDirectory)
  if old.location == new.location then return d
  if old.location.isPrefixOf new.location then throw (.errno .invalidArgument)
  if new.location.isPrefixOf old.location then throw (.errno .notEmpty)
  match new.node with
  | none => return d.move old.location new.location
  | some other =>
      if node.isDir && !other.isDir then throw (.errno .notDirectory)
      if !node.isDir && other.isDir then throw (.errno .isDirectory)
      if other.isDir && !(d.names new.location).isEmpty then throw (.errno .notEmpty)
      return d.move old.location new.location

/-- Copy a file, and answer the number of bytes. The target is emptied first, so that a file copied
onto itself is lost. -/
def copy (d : Disk) (source target : Path) : Except HostError (Nat × Disk) := do
  match ← d.node true source with
  | .file _ executable =>
      let d ← d.write target {}
      let contents ← d.read source
      let d ← d.write target contents
      return (contents.size, ← d.setExecutable target executable)
  | .program _ => return (0, ← d.write target {})
  | .dir | .link _ | .null | .zero => throw .notRegular

/-- Remove anything but a directory. A link is removed itself. -/
def unlink (d : Disk) (path : Path) : Except HostError Disk := do
  let spot ← d.spotOf path
  match spot.node with
  | none => throw (.errno .noEntry)
  | some .dir => throw (.errno .isDirectory)
  | some _ =>
      if spot.slash then throw (.errno .notDirectory)
      return d.erase spot.location

/-- Remove a directory that is empty, by its name. -/
def rmdir (d : Disk) (path : Path) : Except HostError Disk := do
  let entry ← d.entry path
  if entry.step == some [Path.dot] then throw (.errno .invalidArgument)
  if entry.step == some [Path.dot, Path.dot] then throw (.errno .notEmpty)
  let spot ← d.spot entry
  match spot.node with
  | none => throw (.errno .noEntry)
  | some .dir =>
      if !(d.names spot.location).isEmpty then throw (.errno .notEmpty)
      return d.erase spot.location
  | some _ => throw (.errno .notDirectory)

/-- Remove a node and everything below it. -/
def unlinkAll (d : Disk) (path : Path) : Except HostError Disk := do
  let spot ← d.spotOf path
  if spot.node.isNone then throw (.errno .noEntry)
  return { d with nodes := d.nodes.filter fun (l, _) => !spot.location.isPrefixOf l }

/-- Copy a node and everything below it to a location where nothing is. -/
def copyAll (d : Disk) (source target : Path) : Except HostError Disk := do
  let old ← d.find true source
  let new ← d.spotOf target
  if old.node.isNone then throw (.errno .noEntry)
  let below := d.nodes.filterMap fun (l, node) =>
    if old.location.isPrefixOf l then some (new.location ++ l.drop old.location.length, node)
    else none
  return below.foldl (fun d (l, node) => d.put l node) d

/-- Make a file that starts with `header` and is `len` bytes long. -/
def makeFile (d : Disk) (path : Path) (header : Bytes) (len : Nat) : Except HostError Disk :=
  d.write path (Contents.resize len { bytes := header })

/-! ## The store -/

/-- A call whose answer is all there is. -/
def ask {α : Type} (task : Task) (d : Disk) (r : Except HostError α) : Except Fault α × Disk :=
  (r.mapError (.host task), d)

/-- A call that changes the disk unless it fails. -/
def change {α : Type} (task : Task) (d : Disk) :
    Except HostError (α × Disk) → Except Fault α × Disk
  | .ok (a, d') => (.ok a, d')
  | .error e => (.error (.host task e), d)

/-- A disk as a store of files. -/
def fileSystem : FileSystem Disk where
  readDir path d := ask (.readDir path) d ((d.namesIn path).map (·.map path.join))
  metadata path d :=
    ask (.stat path) d ((d.node true path).map fun n => ⟨.ofNat n.size, n.isDir⟩)
  isDir path d := (d.isDir path, d)
  createDirAll path d :=
    let (result, d) := d.createDirAll path
    ask (.createDir path) d result
  rename source target d := change (.rename source target) d ((d.rename source target).map ((), ·))
  copy source target d :=
    change (.copy source target) d ((d.copy source target).map fun (n, d) => (.ofNat n, d))
  removeFile path d := change (.remove path) d ((d.unlink path).map ((), ·))

/-- What a walk tells of the node at a path. -/
def look (d : Disk) (path : Path) : Sight :=
  match d.node false path with
  | .ok .dir => .dir
  | .ok (.link _) => .link
  | .ok node => .file (some (.ofNat node.size))
  | .error _ => .missing

/-- What lies below a path. No location is longer than the longest on the disk. -/
def walkBelow (d : Disk) (path : Path) : List (Path × Sight) :=
  RunSweep.walk d.look (fun dir => (d.namesIn dir).toOption.getD [])
    ((d.nodes.map (·.1.length)).foldl max 0 + 1) path

end RunSweep.Disk
