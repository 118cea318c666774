import RunSweep.Storage.Basic

/-!
# Sweep reports

A report says for every file of a listing what became of it, in the order in which the files were
handled. The usual four lists are views of it.
-/

namespace RunSweep

/-- The step of handling a file that failed. -/
inductive FileAction where
  | stat
  | archive
  | delete
  deriving DecidableEq

/-- The name of a step. -/
def FileAction.name : FileAction → String
  | stat => "stat"
  | archive => "archive"
  | delete => "delete"

/-- Why a file could not be handled. -/
inductive Mishap where
  | stat (fault : Fault)
  /-- The archive directory could not be made. -/
  | prepare (fault : Fault)
  /-- The file could be neither renamed nor copied. -/
  | move (onRename onCopy : Fault)
  /-- The file was copied and is now in both places. -/
  | leftBehind (fault : Fault)
  | delete (fault : Fault)
  deriving DecidableEq

/-- The step that failed. -/
def Mishap.action : Mishap → FileAction
  | stat _ => .stat
  | prepare _ | move .. | leftBehind _ => .archive
  | delete _ => .delete

/-- The wording of a mishap. -/
def Mishap.message : Mishap → String
  | stat fault | prepare fault | delete fault => fault.message
  | move onRename onCopy =>
      "rename failed (" ++ onRename.message ++ "), copy fallback failed: " ++ onCopy.message
  | leftBehind fault =>
      "copied into archive but could not remove the original: " ++ fault.message

/-- What became of a listed file. -/
inductive Outcome where
  | archived
  | deleted
  /-- A directory, left as it is. -/
  | skipped
  | failed (mishap : Mishap)
  deriving DecidableEq

/-- **What a sweep did**: the name of every file it handled and what became of it, in order. -/
structure Report where
  entries : List (String × Outcome) := []
  deriving DecidableEq

namespace Report

/-- The names with a given outcome. -/
def names (r : Report) (outcome : Outcome) : List String :=
  (r.entries.filter (·.2 == outcome)).map (·.1)

/-- The names of the archived files. -/
def archived (r : Report) : List String :=
  r.names .archived

/-- The names of the deleted files. -/
def deleted (r : Report) : List String :=
  r.names .deleted

/-- The names of the directories that were passed over. -/
def skipped (r : Report) : List String :=
  r.names .skipped

/-- The names of the files that could not be handled, with the reasons. -/
def failures (r : Report) : List (String × Mishap) :=
  r.entries.filterMap fun
    | (name, .failed mishap) => some (name, mishap)
    | _ => none

/-- Whether every file could be handled. -/
def isClean (r : Report) : Bool :=
  r.failures.isEmpty

/-- How many files the four lists hold together. -/
def entriesSeen (r : Report) : Nat :=
  r.archived.length + r.deleted.length + r.skipped.length + r.failures.length

end Report

end RunSweep
