import RunSweep.Shell.Fields
import RunSweep.Shell.FileTools
import RunSweep.Shell.Parser

/-!
# What the shell does by itself

Commands that change the shell's own state, and the pieces of its evaluation that run no other command.

This is a part of the machine's shell, of which nothing is claimed.
-/

namespace RunSweep.Shell

/-- A name and a value, if a word gives both. -/
def splitAssignment (word : String) : String × Option String :=
  let name := word.toList.takeWhile (· != '=')
  match word.toList.drop name.length with
  | [] => (word, none)
  | _ :: value => (String.ofList name, some (String.ofList value))

/-- A text without line ends behind it, and without the byte 0. -/
def trimOutput (c : Contents) : String :=
  let bytes := c.toBytes.filter (· != 0)
  ofBytes (bytes.reverse.dropWhile (· = 10)).reverse

/-- The glyphs of a parameter. The positional parameters stay apart, unless they are joined in quotes. -/
def parameterGlyphs (p : Process) (name : String) (quoted : Bool) : List Glyph :=
  if name = "@" || (name = "*" && !quoted) then
    [Glyph.border].intercalate (p.params.map fun s => Glyph.ofText s quoted true)
  else Glyph.ofText ((p.value? name).getD "") quoted true

/-- Cut what a pattern matches off one end of a text: the shortest piece, or the longest if `most`. -/
def trimMatch (front most : Bool) (p : List Marked) (text : String) : String :=
  let cs := text.toList
  let lengths := List.range (cs.length + 1)
  let fits (n : Nat) : Bool :=
    isMatch p (if front then cs.take n else cs.drop (cs.length - n))
  match (if most then lengths.reverse else lengths).find? fits with
  | some n => String.ofList (if front then cs.drop n else cs.take (cs.length - n))
  | none => text

/-- Why a file cannot be opened or made, in the shell's words. -/
def openCause (missing : String) (e : HostError) : String :=
  match e with
  | .errno .noEntry | .errno .notDirectory => missing
  | _ => cause e

/-- Let a stream lead elsewhere. -/
def attach (fd : Nat) (sink : Sink) : Act Unit :=
  modify fun p => { p with sinks := (fd, sink) :: p.sinks.filter (·.1 != fd) }

/-- Let a stream lead where another one does; a dash closes it. -/
def duplicate (fd : Nat) (other : String) : Act Bool := do
  let p ← get
  if other = "-" then
    set { p with sinks := p.sinks.filter (·.1 != fd) }
    return true
  match other.toNat? with
  | some 0 => return true
  | some n =>
      match p.sinks.lookup n with
      | some sink => do
          attach fd sink
          return true
      | none => do
          complain (other ++ ": Bad file descriptor")
          return false
  | none => do
      complain "Bad fd number"
      return false

/-- Let a stream lead to a file, which is emptied unless it is appended to. -/
def openOutput (fd : Nat) (append : Bool) (target : String) : Act Bool := do
  match target with
  | "/dev/stdout" => duplicate fd "1"
  | "/dev/stderr" => duplicate fd "2"
  | _ => do
      let p ← get
      let path := pathOf target
      match p.disk.node true path with
      | .ok .null | .ok .zero => do
          attach fd .nowhere
          return true
      | _ =>
          match p.disk.update path fun old => if append then old else {} with
          | .ok disk => do
              set { p with disk }
              match disk.find true path with
              | .ok spot => attach fd (.file spot.location)
              | .error _ => pure ()
              return true
          | .error e => do
              complain ("cannot create " ++ target ++ ": " ++ openCause "Directory nonexistent" e)
              return false

/-- Redirect a stream to what a word has become. -/
def redirectTo (r : Redirect) (target : String) : Act Bool := do
  match r.kind with
  | .here => do
      modify fun p => { p with input := { contents := { bytes := toBytes target } } }
      return true
  | .read => do
      match ← openInput target with
      | .ok input => do
          modify fun p => { p with input }
          return true
      | .error e => do
          complain ("cannot open " ++ target ++ ": " ++ openCause "No such file" e)
          return false
  | .write => openOutput r.fd false target
  | .append => openOutput r.fd true target
  | .duplicate => duplicate r.fd target

/-- One round of a loop; tells whether another one may follow. -/
def oneRound (body : Act Unit) : Act Bool := do
  try
    body
    return true
  catch
    | .leaveLoop n => if n ≤ 1 then return false else throw (.leaveLoop (n - 1))
    | .nextRound n => if n ≤ 1 then return true else throw (.nextRound (n - 1))
    | leap => throw leap

/-- Call a function with parameters of its own. -/
def inFunction (args : List String) (body : Act Unit) : Act Unit := do
  let before ← get
  set { before with params := args, locals := [] }
  try body
  catch
    | .leaveFunction => pure ()
    | leap => throw leap
  modify fun p =>
    { p.locals.foldl (fun p old => p.restore old) p with
      params := before.params, locals := before.locals }

/-- Values for some variables while a command runs, which hands them on. -/
def withVariables (values : List (String × String)) (body : Act Unit) : Act Unit := do
  let before ← get
  modify fun p =>
    { values.foldl (fun p (name, value) => p.assign name value) p with
      exported := values.map Prod.fst ++ p.exported }
  body
  let old := values.map fun (name, _) => (name, before.vars.lookup name)
  modify fun p =>
    { old.foldl (fun p value => p.restore value) p with exported := before.exported }

/-! ## Commands -/

/-- The number that a command is given. -/
def numberArgument (name : String) (args : List String) (missing : Nat) : Act Nat := do
  match args with
  | [] => return missing
  | word :: _ =>
      match word.toNat? with
      | some n => return n
      | none => fatal (name ++ ": Illegal number: " ++ word)

/-- `shift`: drop the first parameters. -/
def shift (args : List String) : Act Unit := do
  let n ← numberArgument "shift" args 1
  let p ← get
  if p.params.length < n then fatal "shift: can't shift that many"
  set { p with params := p.params.drop n, status := 0 }

/-- The letters of an option, and whether it is switched on. -/
def optionLetters? (word : String) : Option (List Char × Bool) :=
  match word.toList with
  | '-' :: c :: cs => some (c :: cs, true)
  | '+' :: c :: cs => some (c :: cs, false)
  | _ => none

/-- `set`: options and parameters. -/
def setOptions : List String → Act Unit
  | [] => finish 0
  | "--" :: params => modify fun p => { p with params, status := 0 }
  | word :: rest => do
      match optionLetters? word with
      | some (letters, on) => do
          if letters.contains 'e' then
            modify fun p => { p with strict := on }
          setOptions rest
      | none => modify fun p => { p with params := word :: rest, status := 0 }

/-- Give variables values and hand them on. -/
def exportNames (words : List String) : Act Unit := do
  for word in words do
    let (name, value) := splitAssignment word
    match value with
    | some v => modify (·.assign name v)
    | none => pure ()
    modify fun p => { p with exported := name :: p.exported }
  finish 0

/-- Give variables values. -/
def assignWords (words : List String) : Act Unit := do
  for word in words do
    match splitAssignment word with
    | (name, some v) => modify (·.assign name v)
    | (_, none) => pure ()
  finish 0

/-- `local`: variables that the running function has for itself. -/
def localNames (words : List String) : Act Unit := do
  for word in words do
    let (name, _) := splitAssignment word
    modify fun p => { p with locals := (name, p.vars.lookup name) :: p.locals }
  assignWords words

/-- `unset`: forget variables, or functions under `-f`. -/
def unset (words : List String) : Act Unit := do
  let (letters, names) := splitOptions words
  for name in names do
    if letters.contains 'f' then
      modify fun p => { p with functions := p.functions.filter (·.1 != name) }
    else modify (·.unassign name)
  finish 0

/-- `cd`: change the directory in which relative paths start. -/
def changeDir (args : List String) : Act Unit := do
  let p ← get
  let target := args.headD ((p.vars.lookup "HOME").getD "/")
  match p.disk.find true (pathOf target) with
  | .ok { location, node := some .dir, .. } =>
      set { p with disk := { p.disk with cwd := location }, status := 0 }
  | _ => do
      complain ("cd: can't cd to " ++ target)
      finish 2

/-- The words of a line that is read, and the rest of the line for the last of some names. -/
def assignLine (separators : List Char) : List String → List Char → List (String × String)
  | [], _ => []
  | [name], cs =>
      let cs := cs.dropWhile separators.contains
      [(name, String.ofList (cs.reverse.dropWhile separators.contains).reverse)]
  | name :: names, cs =>
      let cs := cs.dropWhile separators.contains
      let word := cs.takeWhile (!separators.contains ·)
      (name, String.ofList word) :: assignLine separators names (cs.drop word.length)

/-- `read`: read a line into variables. -/
def readInto (args : List String) : Act Unit := do
  let (_, names) := splitOptions args
  let (line, ended) ← readLine
  let p ← get
  let values := assignLine p.separators names line.toList
  set (values.foldl (fun p (name, value) => p.assign name value) p)
  finish (if ended then 0 else 1)

/-- `trap`: what is run when the script ends. Signals need no care: none reaches a script. -/
def trap (args : List String) : Act Unit := do
  match args with
  | action :: names =>
      if names.any fun name => name = "EXIT" || name = "0" then
        modify fun p => { p with atExit := if action = "-" then none else some action }
  | [] => pure ()
  finish 0

/-- The commands that change the shell's state and run no other command, by name. -/
def builtins : List (String × (List String → Act Unit)) :=
  [(":", fun _ => finish 0),
    ("exit", fun args => do
      let n ← numberArgument "exit" args (← get).status
      finish n
      throw .leave),
    ("break", fun args => do
      let n ← numberArgument "break" args 1
      finish 0
      throw (.leaveLoop n)),
    ("continue", fun args => do
      let n ← numberArgument "continue" args 1
      finish 0
      throw (.nextRound n)),
    ("return", fun args => do
      let n ← numberArgument "return" args (← get).status
      finish n
      throw .leaveFunction),
    ("shift", shift), ("set", setOptions), ("export", exportNames), ("readonly", assignWords),
    ("local", localNames), ("unset", unset), ("cd", changeDir), ("read", readInto),
    ("trap", trap), ("umask", fun _ => finish 0),
    ("times", fun _ => finish 0), ("ulimit", fun _ => finish 0), ("hash", fun _ => finish 0)]

end RunSweep.Shell
