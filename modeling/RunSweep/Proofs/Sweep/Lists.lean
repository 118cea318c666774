import Mathlib.Tactic.SplitIfs
import RunSweep.Sweep.Basic

/-!
# Filling the lists of a report

A report is kept as one list of outcomes, and its four lists are views of it. `Sweeper.fillAll` is the
sweep without outcomes: four lists are at hand, and every branch that handles an entry appends the name to
one of them. Over any store both make the same calls, and the lists that are filled are the views.
-/

namespace RunSweep

/-- **The four lists of a report.** -/
@[ext]
structure Lists where
  archived : List String := []
  deleted : List String := []
  skipped : List String := []
  failures : List (String × Mishap) := []

/-- The views of a report. -/
def Report.lists (r : Report) : Lists :=
  { archived := r.archived, deleted := r.deleted, skipped := r.skipped, failures := r.failures }

namespace Lists

def archive (l : Lists) (name : String) : Lists :=
  { l with archived := l.archived ++ [name] }

def delete (l : Lists) (name : String) : Lists :=
  { l with deleted := l.deleted ++ [name] }

def skip (l : Lists) (name : String) : Lists :=
  { l with skipped := l.skipped ++ [name] }

def fail (l : Lists) (name : String) (mishap : Mishap) : Lists :=
  { l with failures := l.failures ++ [(name, mishap)] }

/-- Some lists with others behind them. -/
def append (l l' : Lists) : Lists :=
  { archived := l.archived ++ l'.archived
    deleted := l.deleted ++ l'.deleted
    skipped := l.skipped ++ l'.skipped
    failures := l.failures ++ l'.failures }

/-- The lists with one more outcome entered. -/
def enter (l : Lists) (name : String) : Outcome → Lists
  | .archived => l.archive name
  | .deleted => l.delete name
  | .skipped => l.skip name
  | .failed mishap => l.fail name mishap

theorem nil_append (l : Lists) : append {} l = l := rfl

/-- **An outcome is entered into the list that its view is.** -/
theorem enter_append (l : Lists) (name : String) (outcome : Outcome)
    (entries : List (String × Outcome)) :
    (l.enter name outcome).append (Report.lists { entries }) =
      l.append (Report.lists { entries := (name, outcome) :: entries }) := by
  cases outcome <;> ext1 <;> first | exact List.append_assoc .. | rfl

end Lists

namespace Sweeper

variable {σ : Type}

/-! ## A sweep that fills lists -/

/-- Move a file, or say why not. -/
def tryMove (fs : FileSystem σ) (source target : Path) (store : σ) : Except Mishap Unit × σ :=
  match fs.rename source target store with
  | (.ok (), store) => (.ok (), store)
  | (.error onRename, store) =>
      match fs.copy source target store with
      | (.error onCopy, store) => (.error (.move onRename onCopy), store)
      | (.ok _, store) =>
          match fs.removeFile source store with
          | (.error fault, store) => (.error (.leftBehind fault), store)
          | (.ok (), store) => (.ok (), store)

/-- See to the archive directory, and move a file into it. -/
def tryArchive (s : Sweeper) (fs : FileSystem σ) (path : Path) (name : Bytes) (p : Pass σ) :
    Except Mishap Unit × Pass σ :=
  match s.ensureArchive fs p with
  | (.error fault, p) => (.error (.prepare fault), p)
  | (.ok (), p) =>
      let (moved, store) := tryMove fs path (s.archiveDir.join name) p.store
      (moved, { p with store })

/-- Handle the entry at `path` and append its name to a list. -/
def fill (s : Sweeper) (fs : FileSystem σ) (path : Path) (name : Bytes) (l : Lists) (p : Pass σ) :
    Lists × Pass σ :=
  let shown := Utf8.lossy name
  match fs.metadata path p.store with
  | (.error fault, store) => (l.fail shown (.stat fault), { p with store })
  | (.ok info, store) =>
      if info.isDir then (l.skip shown, { p with store })
      else
        match classify info.len s.threshold with
        | .archive =>
            match s.tryArchive fs path name { p with store } with
            | (.ok (), p) => (l.archive shown, p)
            | (.error mishap, p) => (l.fail shown mishap, p)
        | .delete =>
            match fs.removeFile path store with
            | (.ok (), store) => (l.delete shown, { p with store })
            | (.error fault, store) => (l.fail shown (.delete fault), { p with store })

/-- Go through the entries and fill the lists. -/
def fillAll (s : Sweeper) (fs : FileSystem σ) : List Path → Lists → Pass σ → Lists × σ
  | [], l, p => (l, p.store)
  | path :: paths, l, p =>
      match path.fileName? with
      | none => s.fillAll fs paths l p
      | some name =>
          let (l, p) := s.fill fs path name l p
          s.fillAll fs paths l p

/-- One sweep that fills four lists, empty at first. -/
def fillingSweep (s : Sweeper) (fs : FileSystem σ) (store : σ) : Except Fault Lists × σ :=
  match fs.readDir s.workingDir store with
  | (.error fault, store) => (.error fault, store)
  | (.ok paths, store) =>
      let (lists, store) := s.fillAll fs (inOrder paths) {} { store }
      (.ok lists, store)

/-! ## The lists are the views -/

/-- What a move leads to, as an outcome. -/
def outcomeOf : Except Mishap Unit → Outcome
  | .ok () => .archived
  | .error mishap => .failed mishap

variable (s : Sweeper) (fs : FileSystem σ)

theorem moveFile_eq (source target : Path) (store : σ) :
    moveFile fs source target store =
      (outcomeOf (tryMove fs source target store).1, (tryMove fs source target store).2) := by
  unfold moveFile tryMove
  rcases fs.rename source target store with ⟨onRename | ⟨⟩, store⟩
  · dsimp only
    rcases fs.copy source target store with ⟨onCopy | _, store⟩
    · rfl
    · dsimp only
      rcases fs.removeFile source store with ⟨fault | ⟨⟩, store⟩ <;> rfl
  · rfl

theorem archiveFile_eq (path : Path) (name : Bytes) (p : Pass σ) :
    s.archiveFile fs path name p =
      (outcomeOf (s.tryArchive fs path name p).1, (s.tryArchive fs path name p).2) := by
  unfold archiveFile tryArchive
  rcases s.ensureArchive fs p with ⟨fault | ⟨⟩, p⟩
  · rfl
  · dsimp only
    rw [moveFile_eq]

/-- **Every branch appends one name, to the list of the outcome.** -/
theorem fill_eq (path : Path) (name : Bytes) (l : Lists) (p : Pass σ) :
    s.fill fs path name l p =
      (l.enter (Utf8.lossy name) (s.handle fs path name p).1, (s.handle fs path name p).2) := by
  unfold fill handle
  rcases fs.metadata path p.store with ⟨fault | info, store⟩
  · rfl
  dsimp only
  split_ifs
  · rfl
  · cases classify info.len s.threshold with
    | archive =>
        dsimp only
        rw [archiveFile_eq]
        rcases s.tryArchive fs path name { p with store } with ⟨mishap | ⟨⟩, p⟩ <;> rfl
    | delete =>
        dsimp only [deleteFile]
        rcases fs.removeFile path store with ⟨fault | ⟨⟩, store⟩ <;> rfl

/-- **The lists that are filled are the views of the outcomes**, behind what they held before, and the
store is left alike. -/
theorem fillAll_eq (paths : List Path) (l : Lists) (p : Pass σ) :
    s.fillAll fs paths l p =
      (l.append (Report.lists { entries := (s.handleAll fs paths p).1 }),
        (s.handleAll fs paths p).2) := by
  induction paths generalizing l p with
  | nil => exact congrArg (·, p.store) (by ext1 <;> exact (List.append_nil _).symm)
  | cons path paths ih =>
      unfold fillAll handleAll
      cases path.fileName? with
      | none => exact ih l p
      | some name =>
          dsimp only
          rw [fill_eq, ih, Lists.enter_append]

/-- **A sweep that fills four lists** ends as any sweep does. What it has put into them are the four lists
of the report, and every name was appended once, by the branch that handled it. -/
theorem fillingSweep_eq (store : σ) :
    s.fillingSweep fs store =
      ((s.sweep fs store).1.map Report.lists, (s.sweep fs store).2) := by
  unfold fillingSweep sweep
  rcases fs.readDir s.workingDir store with ⟨fault | paths, store⟩
  · rfl
  · dsimp only
    rw [fillAll_eq, Lists.nil_append]
    rfl

end Sweeper

end RunSweep
