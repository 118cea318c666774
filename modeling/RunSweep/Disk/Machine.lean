import RunSweep.Disk.Calls

/-!
# An ordinary machine

The disk of a machine on which nothing but the usual is installed, with an empty directory to work in.
`searchPath` lists the directories in which a program is looked for that is named without a slash. It is
one machine to run the program on; no theorem relies on it.
-/

namespace RunSweep.Machine

/-- A location, written as a text. -/
def location (text : String) : Location :=
  Disk.pathSteps (Utf8.encode text)

/-- The directories of the machine. -/
def directories : List String :=
  ["/bin", "/dev", "/etc", "/home", "/opt", "/proc", "/root", "/run", "/sbin", "/sys", "/tmp",
    "/tmp/work", "/usr", "/usr/bin", "/usr/lib", "/usr/local", "/usr/local/bin",
    "/usr/local/sbin", "/usr/sbin", "/var", "/var/tmp"]

/-- The directory to work in. -/
def workDir : String := "/tmp/work"

/-- The programs of the machine. -/
def programs : List String :=
  ["[", "basename", "cat", "chmod", "cp", "dash", "dirname", "echo", "env", "false", "head", "kill",
    "ln", "ls", "mkdir", "mv", "printf", "pwd", "rm", "rmdir", "seq", "sh", "sleep", "sort", "tail",
    "tee", "test", "touch", "tr", "true", "truncate", "wc"]

/-- The directories that hold the programs. -/
def programDirs : List String :=
  ["/usr/bin", "/bin"]

/-- Where a program is looked for. -/
def searchPath : List Path :=
  ["/usr/local/sbin", "/usr/local/bin", "/usr/sbin", "/usr/bin", "/sbin", "/bin"].map Path.ofText

/-- The machine's disk. -/
def disk : Disk :=
  { nodes :=
      directories.map (fun dir => (location dir, Node.dir))
        ++ programDirs.flatMap (fun dir =>
          programs.map fun name => (location dir ++ [Utf8.encode name], Node.program name))
        ++ [(location "/dev/null", .null), (location "/dev/zero", .zero)]
    cwd := location workDir }

end RunSweep.Machine
