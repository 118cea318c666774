import RunSweep.Storage.Basic

/-!
# An in-memory store

A `Tree` maps places to files and directories, where a place is the list of a path's steps: two
spellings of one path are one place, while `./a` and `a` are two. A directory keeps the names of its
children in the order in which they came, so the tree is stored twice, as entries and as names, and
every operation that makes or removes an entry also adds or removes its name in the parent.

Any operation on any place can be made to fail. A refused operation leaves the tree as it was.
-/

namespace RunSweep

/-- Where an entry is: the steps of any path to it. -/
abbrev Place := List Component

namespace Place

/-- The place of the directory that holds this one; the root and the empty place have none. -/
def parent? (place : Place) : Option Place :=
  match place.getLast? with
  | none | some .root => none
  | some _ => some place.dropLast

/-- The name under which the parent lists this place, if its last step is a name. -/
def name? (place : Place) : Option String :=
  match place.getLast? with
  | some (.name bytes) => some (Utf8.lossy bytes)
  | _ => none

end Place

/-- What a place holds. A file may report more bytes than are kept. -/
inductive Entry where
  | file (contents : Bytes) (len : UInt64)
  | dir (children : List String)
  deriving DecidableEq

/-- Whether an entry is a directory. -/
def Entry.isDir : Entry → Bool
  | dir _ => true
  | file .. => false

/-- What is told of an entry. -/
def Entry.metadata : Entry → EntryMeta
  | file _ len => ⟨len, false⟩
  | dir _ => ⟨4096, true⟩

/-- **An in-memory store**: its entries, no place twice, and the operations that are to fail. -/
structure Tree where
  entries : List (Place × Entry) := []
  failing : List (Operation × Place) := []
  deriving DecidableEq

namespace Tree

/-- The store that holds an empty root. -/
def empty : Tree :=
  { entries := [([.root], .dir [])] }

/-- What a place holds. -/
def find? (t : Tree) (place : Place) : Option Entry :=
  t.entries.lookup place

/-- Put an entry at a place, instead of what it held. -/
def put (t : Tree) (place : Place) (e : Entry) : Tree :=
  { t with entries := (place, e) :: t.entries.filter (·.1 != place) }

/-- Remove what a place holds. -/
def erase (t : Tree) (place : Place) : Tree :=
  { t with entries := t.entries.filter (·.1 != place) }

/-- Change the children of a directory; nothing happens where there is none. -/
def mapChildren (t : Tree) (place : Place) (f : List String → List String) : Tree :=
  match t.find? place with
  | some (.dir children) => t.put place (.dir (f children))
  | _ => t

/-- Change the parent's list of names by the name of `place`, where there are a parent and a name. -/
def mapSiblings (t : Tree) (place : Place) (f : String → List String → List String) : Tree :=
  match place.parent?, place.name? with
  | some parent, some name => t.mapChildren parent (f name)
  | _, _ => t

/-- List a place in its parent, behind the others and only once. -/
def link (t : Tree) (place : Place) : Tree :=
  t.mapSiblings place fun name children =>
    if children.contains name then children else children ++ [name]

/-- Remove a place from its parent's list. -/
def unlink (t : Tree) (place : Place) : Tree :=
  t.mapSiblings place fun name children => children.filter (· != name)

theorem parent?_length_lt {place parent : Place} (h : place.parent? = some parent) :
    parent.length < place.length := by
  unfold Place.parent? at h
  cases place with
  | nil => simp at h
  | cons c cs =>
    split at h
    · simp at h
    · simp at h
    · obtain rfl := Option.some.inj h
      simp

/-- Make a directory where nothing is, and its ancestors likewise; each is listed in its parent. -/
def ensureDir (t : Tree) (place : Place) : Tree :=
  if (t.find? place).isSome then t
  else
    let t := t.put place (.dir [])
    match _h : Place.parent? place with
    | some parent => (t.ensureDir parent).link place
    | none => t
termination_by place.length
decreasing_by exact parent?_length_lt ‹_›

/-! ## Setting up -/

/-- Add a file that reports `len` bytes, with the directories above it. -/
def addEntry (t : Tree) (path : Path) (contents : Bytes) (len : UInt64) : Tree :=
  let place : Place := path.components
  let t :=
    match place.parent? with
    | some parent => t.ensureDir parent
    | none => t
  (t.link place).put place (.file contents len)

/-- Add a file with these contents. -/
def addFile (t : Tree) (path : Path) (contents : Bytes) : Tree :=
  t.addEntry path contents (.ofNat contents.length)

/-- Add a file of this length without contents. -/
def addSizedFile (t : Tree) (path : Path) (len : UInt64) : Tree :=
  t.addEntry path [] len

/-- Add a directory, with those above it. -/
def addDir (t : Tree) (path : Path) : Tree :=
  t.ensureDir path.components

/-- Make an operation on a path fail from now on. -/
def fail (t : Tree) (operation : Operation) (path : Path) : Tree :=
  { t with failing := (operation, path.components) :: t.failing }

/-! ## Looking -/

/-- Whether a path leads to an entry. -/
def contains (t : Tree) (path : Path) : Bool :=
  (t.find? path.components).isSome

/-- Whether a path leads to a directory. -/
def isDir (t : Tree) (path : Path) : Bool :=
  ((t.find? path.components).map Entry.isDir).getD false

/-- The names in a directory, in increasing order; none where there is no directory. -/
def list (t : Tree) (path : Path) : List String :=
  match t.find? path.components with
  | some (.dir children) => children.mergeSort (· ≤ ·)
  | _ => []

/-- The contents of a file. -/
def contents? (t : Tree) (path : Path) : Option Bytes :=
  match t.find? path.components with
  | some (.file contents _) => some contents
  | _ => none

/-! ## The operations of a store -/

/-- Refuse an operation that is to fail. -/
def check (t : Tree) (operation : Operation) (path : Path) : Except Fault Unit :=
  if t.failing.contains (operation, path.components) then .error (.injected operation path)
  else .ok ()

/-- The names in a directory as paths, in the order in which they came. -/
def readDir (t : Tree) (path : Path) : Except Fault (List Path) := do
  t.check .readDir path
  match t.find? path.components with
  | some (.dir children) => return children.map fun name => path.join (Utf8.encode name)
  | _ => throw (.notADirectory path)

/-- What is told of the entry at a path. -/
def metadata (t : Tree) (path : Path) : Except Fault EntryMeta := do
  t.check .metadata path
  match t.find? path.components with
  | some e => return e.metadata
  | none => throw (.fileNotFound path)

/-- Make a directory and those above it; a file in its place is a fault. -/
def createDirAll (t : Tree) (path : Path) : Except Fault Tree := do
  t.check .createDir path
  match t.find? path.components with
  | some (.file ..) => throw (.fileExists path)
  | _ => return t.ensureDir path.components

/-- A file can be put at a path only if its parent is a directory. -/
def requireParent (t : Tree) (path : Path) : Except Fault Unit :=
  match path.parent? with
  | none => .error (.noParent path)
  | some parent => if t.isDir parent then .ok () else .error (.directoryNotFound parent)

/-- The file at a path. -/
def requireFile (t : Tree) (path : Path) : Except Fault Entry :=
  match t.find? path.components with
  | some (.file contents len) => .ok (.file contents len)
  | some (.dir _) => .error (.isADirectory path)
  | none => .error (.fileNotFound path)

/-- Move a file: it leaves its place and its name before it comes to the new ones. -/
def rename (t : Tree) (source target : Path) : Except Fault Tree := do
  t.check .rename source
  t.requireParent target
  let e ← t.requireFile source
  return (((t.erase source.components).unlink source.components).put target.components e).link
    target.components

/-- Copy a file, and answer the bytes that it reports. -/
def copy (t : Tree) (source target : Path) : Except Fault (UInt64 × Tree) := do
  t.check .copy source
  t.requireParent target
  let e ← t.requireFile source
  return (e.metadata.len, (t.put target.components e).link target.components)

/-- Remove a file and its name. -/
def removeFile (t : Tree) (path : Path) : Except Fault Tree := do
  t.check .removeFile path
  let _ ← t.requireFile path
  return (t.erase path.components).unlink path.components

/-- A change of the tree that may be refused, as an operation of a store. -/
def change {α : Type} (t : Tree) : Except Fault (α × Tree) → Except Fault α × Tree
  | .ok (a, t') => (.ok a, t')
  | .error f => (.error f, t)

end Tree

/-- Trees as stores of files. -/
def Tree.fileSystem : FileSystem Tree where
  readDir path t := (t.readDir path, t)
  metadata path t := (t.metadata path, t)
  isDir path t := (t.isDir path, t)
  createDirAll path t := t.change ((t.createDirAll path).map ((), ·))
  rename source target t := t.change ((t.rename source target).map ((), ·))
  copy source target t := t.change (t.copy source target)
  removeFile path t := t.change ((t.removeFile path).map ((), ·))

end RunSweep
