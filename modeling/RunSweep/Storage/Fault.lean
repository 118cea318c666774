import RunSweep.Path.Basic
import RunSweep.Text.Quoted

/-!
# Storage faults

Why a call on a store of files fails. An in-memory store has causes of its own; a machine's file system
reports one of its error numbers, and the call adds what it was about to do. `Fault.chain` lists the
texts from the outermost to the innermost, and `Fault.message` joins them.
-/

namespace RunSweep

/-- An error number of the machine. -/
inductive Errno where
  | noEntry
  | execFormat
  | permission
  | busy
  | entryExists
  | notDirectory
  | isDirectory
  | invalidArgument
  | nameTooLong
  | notEmpty
  | linkLoop
  deriving DecidableEq

/-- The number of an error. -/
def Errno.number : Errno → Nat
  | noEntry => 2
  | execFormat => 8
  | permission => 13
  | busy => 16
  | entryExists => 17
  | notDirectory => 20
  | isDirectory => 21
  | invalidArgument => 22
  | nameTooLong => 36
  | notEmpty => 39
  | linkLoop => 40

/-- The machine's wording of an error. -/
def Errno.title : Errno → String
  | noEntry => "No such file or directory"
  | execFormat => "Exec format error"
  | permission => "Permission denied"
  | busy => "Device or resource busy"
  | entryExists => "File exists"
  | notDirectory => "Not a directory"
  | isDirectory => "Is a directory"
  | invalidArgument => "Invalid argument"
  | nameTooLong => "File name too long"
  | notEmpty => "Directory not empty"
  | linkLoop => "Too many levels of symbolic links"

/-- Why a call on the machine fails. -/
inductive HostError where
  | errno (e : Errno)
  /-- Only regular files are copied. -/
  | notRegular
  /-- A path holds the byte 0. -/
  | nulInPath
  /-- A program's name or one of its arguments holds the byte 0. -/
  | nulInWord
  /-- A file that is read as text is not well-formed. -/
  | illFormedText
  /-- Told by another party, in its own words. -/
  | reported (text : String)
  deriving DecidableEq

/-- The wording of a failed call. -/
def HostError.message : HostError → String
  | errno e => e.title ++ " (os error " ++ toString e.number ++ ")"
  | notRegular => "the source path is neither a regular file nor a symlink to a regular file"
  | nulInPath => "file name contained an unexpected NUL byte"
  | nulInWord => "nul byte found in provided data"
  | illFormedText => "stream did not contain valid UTF-8"
  | reported text => text

/-- A path as messages show it. -/
def Path.quoted (p : Path) : String :=
  Quoted.ofBytes p.bytes

/-- A call on a store that an in-memory store can be made to refuse. -/
inductive Operation where
  | readDir
  | metadata
  | createDir
  | rename
  | copy
  | removeFile
  deriving DecidableEq

/-- The name of a call in messages. -/
def Operation.name : Operation → String
  | readDir => "ReadDir"
  | metadata => "Metadata"
  | createDir => "CreateDir"
  | rename => "Rename"
  | copy => "Copy"
  | removeFile => "RemoveFile"

/-- What a call on the machine was about to do. -/
inductive Task where
  | readDir (path : Path)
  | stat (path : Path)
  | createDir (path : Path)
  | rename (source target : Path)
  | copy (source target : Path)
  | remove (path : Path)
  deriving DecidableEq

/-- The wording of a task. -/
def Task.message : Task → String
  | readDir path => "reading dir " ++ path.quoted
  | stat path => "stat " ++ path.quoted
  | createDir path => "creating dir " ++ path.quoted
  | rename source target => "renaming " ++ source.quoted ++ " to " ++ target.quoted
  | copy source target => "copying " ++ source.quoted ++ " to " ++ target.quoted
  | remove path => "removing file " ++ path.quoted

/-- Why a call on a store fails. -/
inductive Fault where
  /-- The store was told to refuse this call. -/
  | injected (operation : Operation) (path : Path)
  | noParent (path : Path)
  | directoryNotFound (path : Path)
  | notADirectory (path : Path)
  | fileNotFound (path : Path)
  | isADirectory (path : Path)
  | fileExists (path : Path)
  /-- The machine refuses. -/
  | host (task : Task) (cause : HostError)
  deriving DecidableEq

/-- The texts of a fault, from the outermost to the innermost. -/
def Fault.chain : Fault → List String
  | injected operation path =>
      ["injected " ++ operation.name ++ " failure for " ++ path.quoted]
  | noParent path => ["No parent directory: " ++ path.quoted]
  | directoryNotFound path => ["Directory not found: " ++ path.quoted]
  | notADirectory path => ["Not a directory or not found: " ++ path.quoted]
  | fileNotFound path => ["File not found: " ++ path.quoted]
  | isADirectory path => ["Is a directory: " ++ path.quoted]
  | fileExists path => ["File exists: " ++ path.quoted]
  | host task cause => [task.message, cause.message]

/-- The outermost text of a fault. -/
def Fault.outermost (f : Fault) : String :=
  f.chain.headD ""

/-- All texts of a fault in one. -/
def Fault.message (f : Fault) : String :=
  ": ".intercalate f.chain

end RunSweep
