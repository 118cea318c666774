import RunSweep.Config.Validation
import RunSweep.Sweep.Disposition
import RunSweep.Sweep.Report

/-!
# Sweeping the working directory

A sweep lists the working directory once and handles the entries in the order of their paths. A file is
archived or deleted by its size; a directory is passed over; an entry without a name is not looked at.
Only a working directory that cannot be listed stops the sweep. Whatever goes wrong with one file is
written into the report, and the next file follows.

The archive directory is made when the first file is to be archived, and not looked at again once it is
there.
-/

namespace RunSweep

/-- What is swept, where to, and by which threshold. -/
structure Sweeper where
  workingDir : Path
  archiveDir : Path
  threshold : Float
  createArchiveDir : Bool := true

/-- The sweeper that a configuration describes. -/
def Config.sweeper (c : Config) : Sweeper :=
  { workingDir := c.sweep.workingDir
    archiveDir := c.sweep.archiveDir
    threshold := c.sweepThreshold
    createArchiveDir := c.sweep.createArchiveDir }

namespace Sweeper

variable {σ : Type}

/-- **Where a sweep stands**: the store, and whether the archive directory is known to be there. -/
structure Pass (σ : Type) where
  store : σ
  ready : Bool := false

/-- See to it that the archive directory is there, if it is to be made. -/
def ensureArchive (s : Sweeper) (fs : FileSystem σ) (p : Pass σ) : Except Fault Unit × Pass σ :=
  if p.ready || !s.createArchiveDir then (.ok (), p)
  else
    let (there, store) := fs.isDir s.archiveDir p.store
    if there then (.ok (), { store, ready := true })
    else
      match fs.createDirAll s.archiveDir store with
      | (.ok (), store) => (.ok (), { store, ready := true })
      | (.error fault, store) => (.error fault, { p with store })

/-- Move a file: rename it, or copy it and remove the source where it cannot be renamed, as between
two disks. -/
def moveFile (fs : FileSystem σ) (source target : Path) (store : σ) : Outcome × σ :=
  match fs.rename source target store with
  | (.ok (), store) => (.archived, store)
  | (.error onRename, store) =>
      match fs.copy source target store with
      | (.error onCopy, store) => (.failed (.move onRename onCopy), store)
      | (.ok _, store) =>
          match fs.removeFile source store with
          | (.error fault, store) => (.failed (.leftBehind fault), store)
          | (.ok (), store) => (.archived, store)

/-- Archive the file at `path` under `name`. -/
def archiveFile (s : Sweeper) (fs : FileSystem σ) (path : Path) (name : Bytes) (p : Pass σ) :
    Outcome × Pass σ :=
  match s.ensureArchive fs p with
  | (.error fault, p) => (.failed (.prepare fault), p)
  | (.ok (), p) =>
      let (outcome, store) := moveFile fs path (s.archiveDir.join name) p.store
      (outcome, { p with store })

/-- Delete the file at `path`. -/
def deleteFile (fs : FileSystem σ) (path : Path) (p : Pass σ) : Outcome × Pass σ :=
  match fs.removeFile path p.store with
  | (.ok (), store) => (.deleted, { p with store })
  | (.error fault, store) => (.failed (.delete fault), { p with store })

/-- Handle the entry at `path`, which is called `name`. -/
def handle (s : Sweeper) (fs : FileSystem σ) (path : Path) (name : Bytes) (p : Pass σ) :
    Outcome × Pass σ :=
  match fs.metadata path p.store with
  | (.error fault, store) => (.failed (.stat fault), { p with store })
  | (.ok info, store) =>
      let p := { p with store }
      if info.isDir then (.skipped, p)
      else
        match classify info.len s.threshold with
        | .archive => s.archiveFile fs path name p
        | .delete => deleteFile fs path p

/-- Handle the entries in turn, passing over those without a name. -/
def handleAll (s : Sweeper) (fs : FileSystem σ) : List Path → Pass σ → List (String × Outcome) × σ
  | [], p => ([], p.store)
  | path :: paths, p =>
      match path.fileName? with
      | none => s.handleAll fs paths p
      | some name =>
          let (outcome, p) := s.handle fs path name p
          let (rest, store) := s.handleAll fs paths p
          ((Utf8.lossy name, outcome) :: rest, store)

/-- A listing in the order of its paths. -/
def inOrder (paths : List Path) : List Path :=
  paths.mergeSort Path.precedes

/-- **One sweep of the working directory.** The only fault is that it cannot be listed. -/
def sweep (s : Sweeper) (fs : FileSystem σ) (store : σ) : Except Fault Report × σ :=
  match fs.readDir s.workingDir store with
  | (.error fault, store) => (.error fault, store)
  | (.ok paths, store) =>
      let (entries, store) := s.handleAll fs (inOrder paths) { store }
      (.ok { entries }, store)

end Sweeper

end RunSweep
