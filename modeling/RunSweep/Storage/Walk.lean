import RunSweep.Storage.Tree

/-!
# Walking a store

A walk lists what lies below a path, every directory followed by its own entries, names in increasing
order. Directories are entered to a depth that is given; no store is deeper than its longest path.
-/

namespace RunSweep

/-- What a walk tells of an entry. -/
inductive Sight where
  | dir
  /-- A symbolic link, which is not followed. -/
  | link
  /-- A name without an entry. -/
  | missing
  /-- A file, and its length if that is told. -/
  | file (len : Option UInt64)
  deriving DecidableEq

/-- The entries below a path, down to a depth, given what an entry is and the names in a directory. -/
def walk (look : Path → Sight) (list : Path → List Bytes) : Nat → Path → List (Path × Sight)
  | 0, _ => []
  | depth + 1, path =>
      (list path).flatMap fun name =>
        let child := path.join name
        match look child with
        | .dir => (child, .dir) :: walk look list depth child
        | sight => [(child, sight)]

namespace Tree

/-- What a walk tells of the entry at a path. -/
def look (t : Tree) (path : Path) : Sight :=
  if t.isDir path then .dir
  else if t.contains path then .file ((t.metadata path).toOption.map (·.len))
  else .missing

/-- No place is longer than this. -/
def depth (t : Tree) : Nat :=
  (t.entries.map (·.1.length)).foldl max 0

/-- What lies below a path. -/
def walk (t : Tree) (path : Path) : List (Path × Sight) :=
  RunSweep.walk t.look (fun dir => (t.list dir).map Utf8.encode) (t.depth + 1) path

end Tree

end RunSweep
