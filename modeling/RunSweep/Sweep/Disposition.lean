/-!
# The fate of a file

A file in the working directory is archived if its size in decimal megabytes exceeds the threshold, and
deleted otherwise; a file of exactly the threshold is deleted.
-/

namespace RunSweep

/-- What becomes of a file. -/
inductive Disposition where
  /-- Move into the archive directory. -/
  | archive
  /-- Remove. -/
  | delete
  deriving DecidableEq

/-- The name of a fate. -/
def Disposition.name : Disposition → String
  | archive => "archive"
  | delete => "delete"

/-- A size in megabytes of a million bytes: the count as a float, times the float nearest to one
millionth. -/
def sizeInMegabytes (bytes : UInt64) : Float :=
  bytes.toFloat * 1e-6

/-- The fate of a file of so many bytes. No size exceeds a threshold that is not a number. -/
def classify (bytes : UInt64) (threshold : Float) : Disposition :=
  if sizeInMegabytes bytes > threshold then .archive else .delete

end RunSweep
