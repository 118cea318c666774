import RunSweep.Shell.Condition
import RunSweep.Shell.Format
import RunSweep.Shell.Process

/-!
# Programs that print, read and count

A `Tool` gets the words behind its name and answers its exit status. How it reports a fault depends on
whether the shell runs it itself.

This is a part of the machine's shell, of which nothing is claimed.
-/

namespace RunSweep.Shell

/-- A program of the machine. -/
abbrev Tool := (String → Act Unit) → List String → Act Nat

/-- Why a call failed, without its number. -/
def cause : HostError → String
  | .errno e => e.title
  | e => e.message

/-- A path as a word says it. -/
def pathOf (word : String) : Path :=
  ⟨toBytes word⟩

/-- The last name of a path, without slashes behind it. -/
def baseName (word : String) : String :=
  let cs := (word.toList.reverse.dropWhile (· = '/')).takeWhile (· != '/')
  if cs.isEmpty && !word.isEmpty then "/" else String.ofList cs.reverse

/-- The path up to its last name. -/
def dirName (word : String) : String :=
  let cs := word.toList.reverse.dropWhile (· = '/')
  let front := (cs.dropWhile (· != '/')).dropWhile (· = '/')
  if front.isEmpty then (if word.toList.head? = some '/' then "/" else ".")
  else String.ofList front.reverse

/-- Separate the letters of the options from the other words. -/
def splitOptions : List String → List Char × List String
  | [] => ([], [])
  | "--" :: rest => ([], rest)
  | word :: rest =>
      let (letters, words) := splitOptions rest
      match word.toList with
      | '-' :: c :: cs => (c :: cs ++ letters, words)
      | _ => (letters, word :: words)

/-- Deal with words one by one; the status tells whether all went well. -/
def each (words : List String) (act : String → Act Bool) : Act Nat := do
  let results ← words.mapM act
  return if results.all id then 0 else 1

/-- Report that a program was called in a wrong way. -/
def misuse (report : String → Act Unit) (tool text : String) : Act Nat := do
  report text
  say 2 ("Try '" ++ tool ++ " --help' for more information.\n")
  return 1

/-- What can be read from the file that a word names; a dash means what the process reads anyway. -/
def openInput (word : String) : Act (Except HostError Input) := do
  let p ← get
  if word = "-" then
    set { p with input := {} }
    return .ok p.input
  else
    match p.disk.node true (pathOf word) with
    | .ok .zero => return .ok { endless := true }
    | _ => return (p.disk.read (pathOf word)).map fun contents => { contents }

/-- The files to read, or what the process reads anyway if there are none. -/
def orInput (words : List String) : List String :=
  if words.isEmpty then ["-"] else words

/-! ## Printing -/

/-- `echo` as the shell runs it: escapes are always read. -/
def echoHere : Tool := fun _ words => do
  let (bare, words) := if words.head? = some "-n" then (true, words.tail) else (false, words)
  let (cs, stopped) := unescapeArgument false (" ".intercalate words)
  say 1 (String.ofList cs ++ if bare || stopped then "" else "\n")
  return 0

/-- `echo` as a program: escapes are read only if an option asks for it. -/
def echo : Tool := fun _ words => do
  let isOption (word : String) : Bool :=
    match word.toList with
    | '-' :: c :: cs => (c :: cs).all fun c => c = 'n' || c = 'e' || c = 'E'
    | _ => false
  let options := words.takeWhile isOption
  let letters := options.flatMap String.toList
  let text := " ".intercalate (words.drop options.length)
  let escapes := (letters.filter (· ≠ 'n')).getLast? = some 'e'
  let (cs, stopped) := if escapes then unescapeArgument true text else (text.toList, false)
  say 1 (String.ofList cs ++ if letters.contains 'n' || stopped then "" else "\n")
  return 0

/-- `printf`; `further` says whether it knows further escapes. -/
def printf (further : Bool) : Tool := fun report words => do
  match if words.head? = some "--" then words.tail else words with
  | [] =>
      if further then misuse report "printf" "missing operand"
      else do
        report "usage: printf format [arg ...]"
        return 2
  | format :: args => do
      let out := printFormat further format args
      say 1 (String.ofList out.text)
      for arg in out.bad do
        report (if further then "'" ++ arg ++ "': expected a numeric value"
          else arg ++ ": expected numeric value")
      return if out.bad.isEmpty then 0 else 1

/-- The integers from one to another, at most `n` of them. -/
def countUp (step last : Int) : Nat → Int → List Int
  | 0, _ => []
  | n + 1, a =>
      if (0 < step && last < a) || (step < 0 && a < last) then []
      else a :: countUp step last n (a + step)

/-- `seq`: integers, one on a line. -/
def seq : Tool := fun report words => do
  if words.isEmpty then return ← misuse report "seq" "missing operand"
  match words.mapM String.toInt? with
  | some numbers => do
      let (first, step, last) :=
        match numbers with
        | [last] => (1, 1, last)
        | [first, last] => (first, 1, last)
        | first :: step :: last :: _ => (first, step, last)
        | [] => (1, 1, 0)
      let n := ((last - first).natAbs / (max 1 step.natAbs)) + 1
      say 1 (String.join ((countUp step last n first).map fun a => toString a ++ "\n"))
      return 0
  | none => do
      report "invalid floating point argument"
      return 1

/-- `pwd`: the directory in which relative paths start. -/
def pwd : Tool := fun _ _ => do
  let p ← get
  say 1 ("/" ++ "/".intercalate (p.disk.cwd.map ofBytes) ++ "\n")
  return 0

/-- `basename`: the last name of a path, without a given ending. -/
def basename : Tool := fun report words => do
  match words with
  | [] => misuse report "basename" "missing operand"
  | word :: endings => do
      let name := baseName word
      let ending := (endings.headD "").toList
      let cut := !ending.isEmpty && ending.length < name.length && ending.isSuffixOf name.toList
      let kept := if cut then name.toList.take (name.length - ending.length) else name.toList
      say 1 (String.ofList kept ++ "\n")
      return 0

/-- `dirname`: a path up to its last name. -/
def dirname : Tool := fun report words => do
  if words.isEmpty then return ← misuse report "dirname" "missing operand"
  say 1 (String.join (words.map fun word => dirName word ++ "\n"))
  return 0

/-! ## Reading -/

/-- `cat`: all that some files hold. -/
def cat : Tool := fun report words =>
  each (orInput (splitOptions words).2) fun word => do
    match ← openInput word with
    | .ok input => do
        emit 1 input.contents
        return true
    | .error e => do
        report (word ++ ": " ++ cause e)
        return false

/-- A number of bytes with its unit. -/
def byteCount? (word : String) : Option Nat := do
  let digits := word.toList.takeWhile Char.isDigit
  guard !digits.isEmpty
  let n := digitsValue 10 digits
  match String.ofList (word.toList.drop digits.length) with
  | "" => some n
  | "b" => some (512 * n)
  | "kB" => some (1000 * n)
  | "k" | "K" | "KiB" => some (1024 * n)
  | "MB" => some (1000000 * n)
  | "M" | "MiB" => some (1048576 * n)
  | "GB" => some (1000000000 * n)
  | "G" | "GiB" => some (1073741824 * n)
  | _ => none

/-- The first lines of a text. -/
def firstLines : Nat → Bytes → Bytes
  | 0, _ => []
  | n + 1, bytes =>
      let line := bytes.takeWhile (· != 10)
      match bytes.drop line.length with
      | [] => line
      | _ :: rest => line ++ 10 :: firstLines n rest

/-- What `head` takes: so many bytes, or so many lines, and from which files. -/
def headOptions (bytes : Bool) (count : String) : List String → Bool × String × List String
  | "-c" :: n :: rest => headOptions true n rest
  | "-n" :: n :: rest => headOptions false n rest
  | word :: rest =>
      match word.toList with
      | '-' :: 'c' :: n => headOptions true (String.ofList n) rest
      | '-' :: 'n' :: n => headOptions false (String.ofList n) rest
      | '-' :: c :: n =>
          if c.isDigit then headOptions false (String.ofList (c :: n)) rest
          else headOptions bytes count rest
      | _ =>
          let (b, n, files) := headOptions bytes count rest
          (b, n, word :: files)
  | [] => (bytes, count, [])

/-- `head`: the beginnings of some files. -/
def headTool : Tool := fun report words => do
  let (bytes, count, files) := headOptions false "10" words
  match byteCount? count with
  | none => do
      report ("invalid number of " ++ (if bytes then "bytes" else "lines") ++ ": '" ++ count ++ "'")
      return 1
  | some n =>
      each (orInput files) fun word => do
        match ← openInput word with
        | .ok input => do
            emit 1 (if bytes then input.take n
              else { bytes := firstLines n input.contents.toBytes })
            return true
        | .error (.errno .isDirectory) => do
            report ("error reading '" ++ word ++ "': Is a directory")
            return false
        | .error e => do
            report ("cannot open '" ++ word ++ "' for reading: " ++ cause e)
            return false

/-- The lines of a text with their ends; the last one may have none. -/
def linesOf (bytes : Bytes) : List Bytes :=
  let (lines, last) :=
    bytes.foldr
      (fun b (lines, line) => if b = 10 then (line :: lines, [b]) else (lines, b :: line)) ([], [])
  (last :: lines).filter fun line => !line.isEmpty

/-- `tail`: the ends of some files, or all from a place on if the number has a plus sign. -/
def tail : Tool := fun report words => do
  let (bytes, count, files) := headOptions false "10" words
  let fromStart := count.toList.head? = some '+'
  match byteCount? (if fromStart then String.ofList (count.toList.drop 1) else count) with
  | none => do
      report ("invalid number of " ++ (if bytes then "bytes" else "lines") ++ ": '" ++ count ++ "'")
      return 1
  | some n =>
      each (orInput files) fun word => do
        match ← openInput word with
        | .ok input => do
            let all := input.contents.toBytes
            let cut {α : Type} (xs : List α) : List α :=
              xs.drop (if fromStart then n - 1 else xs.length - n)
            emit 1 { bytes := if bytes then cut all else (cut (linesOf all)).flatten }
            return true
        | .error e => do
            report ("cannot open '" ++ word ++ "' for reading: " ++ cause e)
            return false

/-- `sort`: the lines of some files in the order of their bytes. -/
def sort : Tool := fun report words => do
  let (letters, files) := splitOptions words
  let contents ← (orInput files).mapM openInput
  let close (line : Bytes) : Bytes := if line.getLast? == some 10 then line.dropLast else line
  let lines := contents.flatMap fun
    | .ok input => (linesOf input.contents.toBytes).map close
    | .error _ => []
  let value (line : Bytes) : Int :=
    ((Arithmetic.ofValue? (ofBytes (line.takeWhile fun b => b = 45 || (48 ≤ b && b ≤ 57)))).getD 0)
  let before (a b : Bytes) : Bool :=
    if letters.contains 'n' && value a != value b then decide (value a < value b) else notAfter a b
  let lines := if letters.contains 'u' then lines.eraseDups else lines
  let lines := lines.mergeSort fun a b => if letters.contains 'r' then before b a else before a b
  emit 1 { bytes := lines.flatMap (· ++ [10]) }
  let missing := ((orInput files).zip contents).filterMap fun
    | (word, .error e) => some (word, e)
    | _ => none
  for (word, e) in missing do
    report ("cannot read: " ++ word ++ ": " ++ cause e)
  return if missing.isEmpty then 0 else 2

/-- The characters from one to another. -/
def charsBetween (a b : Char) : List Char :=
  (List.range (b.toNat + 1 - a.toNat)).map fun i => Char.ofNat (a.toNat + i)

/-- The classes of characters that have names. -/
def charClasses : List (String × List Char) :=
  let upper := charsBetween 'A' 'Z'
  let lower := charsBetween 'a' 'z'
  let digits := charsBetween '0' '9'
  [("[:upper:]", upper), ("[:lower:]", lower), ("[:digit:]", digits),
    ("[:alpha:]", upper ++ lower), ("[:alnum:]", digits ++ upper ++ lower),
    ("[:space:]", charsBetween '\t' '\r' ++ [' ']), ("[:blank:]", ['\t', ' '])]

/-- The characters of a set as `tr` writes it, whose escapes have been read. -/
def charSet : Nat → List Char → List Char
  | 0, _ => []
  | fuel + 1, cs =>
      match charClasses.find? fun (name, _) => name.toList.isPrefixOf cs with
      | some (name, chars) => chars ++ charSet fuel (cs.drop name.length)
      | none =>
          match cs with
          | a :: '-' :: b :: rest => charsBetween a b ++ charSet fuel rest
          | a :: rest => a :: charSet fuel rest
          | [] => []

/-- The characters of a set as `tr` is given it. -/
def charSetOf (word : String) : List Char :=
  charSet (word.length + 1) (unescape false false [] (word.length + 1) word.toList).1

/-- Keep one of several equal characters of a set in a row. -/
def squeeze (set : List Char) : List Char → List Char
  | a :: b :: rest =>
      if a = b && set.contains a then squeeze set (b :: rest) else a :: squeeze set (b :: rest)
  | cs => cs

/-- `tr`: replace, delete or squeeze the characters of a set. -/
def tr : Tool := fun report words => do
  let (letters, sets) := splitOptions words
  match sets with
  | [] => misuse report "tr" "missing operand"
  | first :: others => do
      let listed := charSetOf first
      let set :=
        if letters.contains 'c' then
          (charsBetween '\x00' '\xff').filter fun c => !listed.contains c
        else listed
      let target := (others.head?.map charSetOf).getD []
      let replace (c : Char) : Char :=
        match set.findIdx? (· = c), target.getLast? with
        | some i, some last => (target[i]?).getD last
        | _, _ => c
      let cs := (ofBytes (← readAll).toBytes).toList
      let cs := if letters.contains 'd' then cs.filter fun c => !set.contains c else cs.map replace
      let cs :=
        if letters.contains 's' then squeeze (if target.isEmpty then set else target) cs else cs
      say 1 (String.ofList cs)
      return 0

/-- Count words. -/
def countWords (bytes : Bytes) : Nat :=
  let blank (b : UInt8) : Bool := b = 32 || (9 ≤ b && b ≤ 13)
  (bytes.foldl
    (fun (n, inside) b => if blank b then (n, false) else (if inside then n else n + 1, true))
    (0, false)).1

/-- `wc`: the numbers of lines, words and bytes. -/
def wc : Tool := fun report words => do
  let (letters, files) := splitOptions words
  let kinds := ['l', 'w', 'c'].filter fun c => letters.isEmpty || letters.contains c
  each (orInput files) fun word => do
    match ← openInput word with
    | .ok input => do
        let bytes := input.contents.toBytes
        let width :=
          if kinds.length < 2 then 1
          else if files.isEmpty then 7 else (toString bytes.length).length
        let shown := kinds.map fun c =>
          let n :=
            if c = 'l' then bytes.count 10
            else if c = 'w' then countWords bytes else bytes.length
          let digits := toString n
          String.ofList (List.replicate (width - digits.length) ' ') ++ digits
        let name := if files.isEmpty then [] else [word]
        say 1 (" ".intercalate (shown ++ name) ++ "\n")
        return true
    | .error e => do
        report (word ++ ": " ++ cause e)
        return false

/-! ## Conditions and processes -/

/-- `test`; as `[` it wants a closing bracket, and calls it so if that is missing. -/
def test (bracket : Option String) : Tool := fun report words => do
  let closed := words.getLast? = some "]"
  if bracket.isSome && !closed then
    report ("missing " ++ bracket.getD "")
    return 2
  let words := if bracket.isSome then words.dropLast else words
  match evalCondition (← get).disk words with
  | .ok holds => return if holds then 0 else 1
  | .error fault => do
      report fault.message
      return 2

/-- Whether a word is a time: a decimal number, perhaps with a unit. -/
def isTime (word : String) : Bool :=
  let cs := word.toList
  let cs := if cs.getLast?.any ['s', 'm', 'h', 'd'].contains then cs.dropLast else cs
  cs.any Char.isDigit && cs.all (fun c => c.isDigit || c = '.') && cs.count '.' ≤ 1

/-- `sleep`: let time pass. -/
def sleep : Tool := fun report words => do
  if words.isEmpty then return ← misuse report "sleep" "missing operand"
  match words.find? fun word => !isTime word with
  | some word => misuse report "sleep" ("invalid time interval '" ++ word ++ "'")
  | none => do
      pause
      return 0

/-- A signal as the words of `kill` name it; the ending of the process is asked for if none is named. -/
def signalOf : List String → String × List String
  | "-s" :: name :: rest => (name, rest)
  | word :: rest =>
      match word.toList with
      | '-' :: c :: cs =>
          let name := String.ofList (c :: cs)
          if name = "-" then ("TERM", rest) else (name, rest)
      | _ => ("TERM", word :: rest)
  | [] => ("TERM", [])

/-- `kill`: send a signal. An interrupt of the parent is a request to shut down. -/
def kill : Tool := fun report words => do
  let (signal, targets) := signalOf words
  each targets fun target => do
    if target = parentNumber then
      if ["INT", "SIGINT", "2"].contains signal then
        modify fun p => { p with requests := p.requests + 1 }
      return true
    else if target = ownNumber then
      if signal = "0" then return true
      else throw .killed
    else
      report "No such process"
      return false

/-- The programs of this kind, by name. -/
def textTools : List (String × Tool) :=
  [("[", test (some "']'")), ("basename", basename), ("cat", cat), ("dirname", dirname), ("echo", echo),
    ("false", fun _ _ => return 1), ("head", headTool), ("kill", kill), ("printf", printf true),
    ("pwd", pwd), ("seq", seq), ("sleep", sleep), ("sort", sort), ("tail", tail),
    ("test", test none), ("tr", tr), ("true", fun _ _ => return 0), ("wc", wc)]

/-- The programs that the shell runs itself, by name. -/
def innerTools : List (String × Tool) :=
  [("[", test (some "]")), ("echo", echoHere), ("false", fun _ _ => return 1), ("kill", kill),
    ("printf", printf false), ("pwd", pwd), ("test", test none), ("true", fun _ _ => return 0)]

end RunSweep.Shell
