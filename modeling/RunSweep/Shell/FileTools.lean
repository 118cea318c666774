import RunSweep.Shell.TextTools

/-!
# Programs that change files

The programs that make, move, copy and remove files and directories, and the table of all programs.

This is a part of the machine's shell, of which nothing is claimed.
-/

namespace RunSweep.Shell

/-- Change the disk; a failure is reported behind `task`. -/
def attempt (report : String → Act Unit) (task : String) (call : Disk → Except HostError Disk) :
    Act Bool := do
  match ← onDisk call with
  | none => return true
  | some e => do
      report (task ++ ": " ++ cause e)
      return false

/-- A word as it is shown in reports. -/
def shown (word : String) : String :=
  "'" ++ word ++ "'"

/-- Where something ends up that is put at `target`: below it, if that is a directory. -/
def placeAt (d : Disk) (source target : String) : String :=
  if d.isDir (pathOf target) then
    ofBytes ((pathOf target).join (toBytes (baseName source))).bytes
  else target

/-- The sources and the target of a command that puts files somewhere. -/
def sourcesAndTarget (words : List String) : Option (List String × String) :=
  match words.reverse with
  | target :: source :: more => some ((source :: more).reverse, target)
  | _ => none

/-- Report that a program which puts files somewhere was not given enough words. -/
def tooFew (report : String → Act Unit) (tool : String) (words : List String) : Act Nat :=
  misuse report tool <|
    match words with
    | word :: _ => "missing destination file operand after " ++ shown word
    | [] => "missing file operand"

/-- `mkdir`: make directories, with their ancestors under `-p`. -/
def mkdirTool : Tool := fun report words => do
  let (letters, dirs) := splitOptions words
  if dirs.isEmpty then return ← misuse report "mkdir" "missing operand"
  each dirs fun word =>
    attempt report ("cannot create directory " ++ shown word) fun d =>
      if letters.contains 'p' then
        match d.createDirAll (pathOf word) with
        | (.ok (), d) => .ok d
        | (.error e, _) => .error e
      else d.mkdir (pathOf word)

/-- `rmdir`: remove directories that are empty. -/
def rmdirTool : Tool := fun report words => do
  let (_, dirs) := splitOptions words
  if dirs.isEmpty then return ← misuse report "rmdir" "missing operand"
  each dirs fun word =>
    attempt report ("failed to remove " ++ shown word) (·.rmdir (pathOf word))

/-- `rm`: remove files, and directories under `-r`. Under `-f` nothing needs to be there. -/
def rm : Tool := fun report words => do
  let (letters, files) := splitOptions words
  let deep := letters.contains 'r' || letters.contains 'R'
  if files.isEmpty && !letters.contains 'f' then return ← misuse report "rm" "missing operand"
  each files fun word => do
    let there := (((← get).disk).node false (pathOf word)).toBool
    if letters.contains 'f' && !there then return true
    attempt report ("cannot remove " ++ shown word) fun d =>
      if deep then d.unlinkAll (pathOf word) else d.unlink (pathOf word)

/-- `mv`: move files. -/
def mv : Tool := fun report words => do
  let names := (splitOptions words).2
  match sourcesAndTarget names with
  | none => tooFew report "mv" names
  | some (sources, target) =>
      each sources fun source => do
        let d := (← get).disk
        match d.node false (pathOf source) with
        | .error e => do
            report ("cannot stat " ++ shown source ++ ": " ++ cause e)
            return false
        | .ok _ => do
            let place := placeAt d source target
            attempt report ("cannot move " ++ shown source ++ " to " ++ shown place)
              (·.rename (pathOf source) (pathOf place))

/-- `cp`: copy files, and directories under `-r`. -/
def cp : Tool := fun report words => do
  let (letters, names) := splitOptions words
  let deep := ['r', 'R', 'a'].any letters.contains
  match sourcesAndTarget names with
  | none => tooFew report "cp" names
  | some (sources, target) =>
      each sources fun source => do
        let d := (← get).disk
        let place := placeAt d source target
        match d.node true (pathOf source) with
        | .error e => do
            report ("cannot stat " ++ shown source ++ ": " ++ cause e)
            return false
        | .ok .dir =>
            if deep then
              attempt report ("cannot create directory " ++ shown place)
                (·.copyAll (pathOf source) (pathOf place))
            else do
              report ("-r not specified; omitting directory " ++ shown source)
              return false
        | .ok _ =>
            attempt report ("cannot create regular file " ++ shown place) fun d =>
              (d.copy (pathOf source) (pathOf place)).map (·.2)

/-- `ln`: make links. One that is not symbolic is a copy. -/
def ln : Tool := fun report words => do
  let (letters, names) := splitOptions words
  match sourcesAndTarget names with
  | none => tooFew report "ln" names
  | some (sources, target) =>
      each sources fun source => do
        let place := placeAt (← get).disk source target
        if letters.contains 'f' then
          let _ ← onDisk (·.unlink (pathOf place))
        if letters.contains 's' then
          attempt report ("failed to create symbolic link " ++ shown place)
            (·.symlink (pathOf place) (toBytes source))
        else
          attempt report ("failed to create hard link " ++ shown place) fun d =>
            (d.copy (pathOf source) (pathOf place)).map (·.2)

/-- `touch`: make files that are not there. -/
def touch : Tool := fun report words => do
  let (_, files) := splitOptions words
  if files.isEmpty then return ← misuse report "touch" "missing file operand"
  each files fun word =>
    attempt report ("cannot touch " ++ shown word) fun d =>
      if d.isDir (pathOf word) then .ok d else d.update (pathOf word) id

/-- The length and the files that `truncate` is given. -/
def truncateOptions (size : Option Nat) : List String → Option Nat × List String
  | "-s" :: n :: rest => truncateOptions (byteCount? n) rest
  | word :: rest =>
      match word.toList with
      | '-' :: 's' :: n => truncateOptions (byteCount? (String.ofList n)) rest
      | _ =>
          let (size, files) := truncateOptions size rest
          (size, word :: files)
  | [] => (size, [])

/-- `truncate`: cut files off, or fill them up, to a length. -/
def truncate : Tool := fun report words => do
  match truncateOptions none words with
  | (none, _) => do
      report "you must specify either '--size' or '--reference'"
      return 1
  | (some n, files) =>
      each files fun word =>
        attempt report ("cannot open " ++ shown word ++ " for writing")
          (·.update (pathOf word) (Contents.resize n))

/-- Whether a mode makes a file executable; nothing if it says nothing about that. -/
def executableMode? (mode : String) : Option Bool :=
  match (mode.toList.dropWhile fun c => ['u', 'g', 'o', 'a'].contains c) with
  | '+' :: letters => if letters.contains 'x' then some true else none
  | '-' :: letters => if letters.contains 'x' then some false else none
  | '=' :: letters => some (letters.contains 'x')
  | digits =>
      if digits.all isOctal then some (digits.any fun c => digitsValue 8 [c] % 2 = 1) else none

/-- `chmod`: make files executable, or not. -/
def chmod : Tool := fun report words => do
  match words with
  | [] => misuse report "chmod" "missing operand"
  | [mode] => misuse report "chmod" ("missing operand after " ++ shown mode)
  | mode :: files =>
      each files fun word =>
        attempt report ("cannot access " ++ shown word) fun d =>
          match executableMode? mode with
          | some executable => d.setExecutable (pathOf word) executable
          | none => (d.node true (pathOf word)).map fun _ => d

/-- `tee`: pass on what is read, and write it to files too. -/
def tee : Tool := fun report words => do
  let (letters, files) := splitOptions words
  let contents ← readAll
  emit 1 contents
  each files fun word =>
    attempt report word fun d =>
      d.update (pathOf word) fun old => if letters.contains 'a' then old ++ contents else contents

/-- The names in a directory that are shown. -/
def listed (d : Disk) (hidden : Bool) (word : String) : List String :=
  (((d.namesIn (pathOf word)).toOption.getD []).map ofBytes).filter fun name =>
    hidden || name.toList.head? ≠ some '.'

/-- `ls`: files, and the names in directories. -/
def ls : Tool := fun report words => do
  let (letters, names) := splitOptions words
  let d := (← get).disk
  let hidden := letters.contains 'a' || letters.contains 'A'
  let names := if names.isEmpty then ["."] else names
  let missing := names.filter fun word => !d.contains (pathOf word)
  for word in missing do
    report ("cannot access " ++ shown word ++ ": No such file or directory")
  let found := (names.filter fun word => d.contains (pathOf word)).mergeSort (· ≤ ·)
  let (dirs, files) := found.partition fun word => d.isDir (pathOf word) && !letters.contains 'd'
  let lines (names : List String) : String := String.join (names.map (· ++ "\n"))
  let block (dir : String) : String :=
    (if names.length > 1 then dir ++ ":\n" else "") ++ lines (listed d hidden dir)
  let blocks := (if files.isEmpty then [] else [lines files]) ++ dirs.map block
  say 1 ("\n".intercalate blocks)
  return if missing.isEmpty then 0 else 2

/-- The programs of the machine but for those that run others, by name. -/
def tools : List (String × Tool) :=
  textTools
    ++ [("chmod", chmod), ("cp", cp), ("ln", ln), ("ls", ls), ("mkdir", mkdirTool), ("mv", mv),
      ("rm", rm), ("rmdir", rmdirTool), ("tee", tee), ("touch", touch), ("truncate", truncate)]

end RunSweep.Shell
