import RunSweep.Storage.Fault

/-!
# Stores of files

`FileSystem σ` is what a sweep needs from a store of files whose state is a `σ`. Every call answers and
gives the state back, changed or not, so that nothing is assumed of a store: it may answer as it likes
and depend on all that was asked before.
-/

namespace RunSweep

/-- What a store tells of an entry. -/
structure EntryMeta where
  len : UInt64
  isDir : Bool
  deriving DecidableEq

/-- A store of files with states `σ`. -/
structure FileSystem (σ : Type) where
  /-- The entries directly in a directory, as paths. -/
  readDir : Path → σ → Except Fault (List Path) × σ
  metadata : Path → σ → Except Fault EntryMeta × σ
  isDir : Path → σ → Bool × σ
  /-- Create a directory and its missing ancestors. -/
  createDirAll : Path → σ → Except Fault Unit × σ
  /-- Move a file, replacing the target. -/
  rename : Path → Path → σ → Except Fault Unit × σ
  /-- Copy a file, replacing the target; answers the number of bytes. -/
  copy : Path → Path → σ → Except Fault UInt64 × σ
  removeFile : Path → σ → Except Fault Unit × σ

/-- The store whose listings end in `extra` besides. -/
def FileSystem.listing {σ : Type} (fs : FileSystem σ) (extra : List Path) : FileSystem σ :=
  { fs with
    readDir := fun path s =>
      match fs.readDir path s with
      | (.ok entries, s) => (.ok (entries ++ extra), s)
      | refused => refused }

end RunSweep
