import RunSweep.Shell.Syntax

/-!
# The words and operators of a script

`tokens?` cuts a script into words, operators and line ends. Words keep their quotes as marks on their
parts, and what is to be filled in as text. A document behind `<<` is taken out of the lines that follow
and put where the operator stands.

This is a part of the machine's shell, of which nothing is claimed.
-/

namespace RunSweep.Shell

/-- A word, an operator or a line end, each with the number of its line. -/
inductive Token where
  | word (line : Nat) (w : Word)
  | operator (s : String)
  | redirect (fd : Nat) (s : String)
  /-- A document that is read in place of a file. -/
  | document (fd : Nat) (w : Word)
  | newline
  deriving DecidableEq

/-- A character that ends a word. -/
def endsWord (c : Char) : Bool :=
  [' ', '\t', '\n', ';', '&', '|', '<', '>', '(', ')'].contains c

/-- A character that may stand at the start of a name. -/
def startsName (c : Char) : Bool :=
  ('a' ≤ c && c ≤ 'z') || ('A' ≤ c && c ≤ 'Z') || c = '_'

/-- A character that may stand in a name. -/
def inName (c : Char) : Bool :=
  startsName c || ('0' ≤ c && c ≤ '9')

/-- Whether a text is a name. -/
def isName (s : String) : Bool :=
  match s.toList with
  | [] => false
  | c :: cs => startsName c && cs.all inName

/-- A parameter whose name is one character and no letter. -/
def isSpecial (c : Char) : Bool :=
  ('0' ≤ c && c ≤ '9') || ['@', '*', '#', '?', '$', '!', '-'].contains c

/-- Take characters up to the bracket that closes `depth` open ones; quotes hide brackets. Answers the
characters without the last bracket, and the rest. -/
def takeNested (opening closing : Char) (depth : Nat) (read : List Char) :
    List Char → Option (List Char × List Char)
  | [] => none
  | '\\' :: c :: cs => takeNested opening closing depth (c :: '\\' :: read) cs
  | c :: cs =>
      if c = closing then
        if depth ≤ 1 then some (read.reverse, cs)
        else takeNested opening closing (depth - 1) (c :: read) cs
      else if c = opening then takeNested opening closing (depth + 1) (c :: read) cs
      else if c = '\'' then inSingle opening closing depth (c :: read) cs
      else if c = '"' then inDouble opening closing depth (c :: read) cs
      else takeNested opening closing depth (c :: read) cs
where
  /-- The same between single quotes. -/
  inSingle (opening closing : Char) (depth : Nat) (read : List Char) :
      List Char → Option (List Char × List Char)
    | [] => none
    | c :: cs =>
        if c = '\'' then takeNested opening closing depth (c :: read) cs
        else inSingle opening closing depth (c :: read) cs
  /-- The same between double quotes. -/
  inDouble (opening closing : Char) (depth : Nat) (read : List Char) :
      List Char → Option (List Char × List Char)
    | [] => none
    | '\\' :: c :: cs => inDouble opening closing depth (c :: '\\' :: read) cs
    | c :: cs =>
        if c = '"' then takeNested opening closing depth (c :: read) cs
        else inDouble opening closing depth (c :: read) cs

/-- The operators on a parameter, longer ones before their beginnings. -/
def paramOperators : List String :=
  [":-", ":=", ":+", ":?", "-", "=", "+", "?", "##", "#", "%%", "%"]

/-- What stands between braces: a parameter, an operator and a word. -/
def bracedParam? (cs : List Char) : Option Part :=
  match cs with
  | '#' :: c :: rest => some (.length (String.ofList (c :: rest)))
  | _ => do
      let (name, rest) ←
        match cs with
        | [] => none
        | c :: rest =>
            if startsName c then some (cs.takeWhile inName, cs.dropWhile inName)
            else if isSpecial c then some ([c], rest)
            else none
      let name := String.ofList name
      match rest with
      | [] => some (.param name "" "")
      | _ => do
          let op ← paramOperators.find? fun op => op.toList.isPrefixOf rest
          some (.param name op (String.ofList (rest.drop op.length)))

/-- What stands behind a dollar sign, and the rest. A dollar sign in front of anything else stands for
itself. -/
def dollar? (cs : List Char) : Option (Part × List Char) :=
  match cs with
  | '(' :: '(' :: rest => do
      let (inner, rest) ← takeNested '(' ')' 2 [] rest
      some (.arithmetic (String.ofList inner.dropLast), rest)
  | '(' :: rest => do
      let (inner, rest) ← takeNested '(' ')' 1 [] rest
      some (.command (String.ofList inner), rest)
  | '{' :: rest => do
      let (inner, rest) ← takeNested '{' '}' 1 [] rest
      some (← bracedParam? inner, rest)
  | c :: rest =>
      if startsName c then
        some (.param (String.ofList (cs.takeWhile inName)) "" "", cs.dropWhile inName)
      else if isSpecial c then some (.param (String.singleton c) "" "", rest)
      else some (.text "$", cs)
  | [] => some (.text "$", [])

/-- A script between backquotes, and the rest. -/
def backquoted? (read : List Char) : List Char → Option (Part × List Char)
  | [] => none
  | '`' :: cs => some (.command (String.ofList read.reverse), cs)
  | '\\' :: c :: cs =>
      if c = '`' || c = '\\' || c = '$' then backquoted? (c :: read) cs
      else backquoted? (c :: '\\' :: read) cs
  | c :: cs => backquoted? (c :: read) cs

/-- The parts between double quotes, and the rest; without an end the text ends them if `open?`. -/
def doubleQuoted? (openEnded : Bool) (read : Word) : Nat → List Char → Option (Word × List Char)
  | 0, _ => none
  | fuel + 1, cs =>
      match cs with
      | [] => if openEnded then some (read.reverse, []) else none
      | '\\' :: '\n' :: rest => doubleQuoted? openEnded read fuel rest
      | '\\' :: c :: rest =>
          let kept := if ['$', '`', '"', '\\'].contains c then [c] else ['\\', c]
          doubleQuoted? openEnded (⟨.text (String.ofList kept), true⟩ :: read) fuel rest
      | '$' :: rest => do
          let (part, rest) ← dollar? rest
          doubleQuoted? openEnded (⟨part, true⟩ :: read) fuel rest
      | '`' :: rest => do
          let (part, rest) ← backquoted? [] rest
          doubleQuoted? openEnded (⟨part, true⟩ :: read) fuel rest
      | c :: rest =>
          if c = '"' && !openEnded then some (read.reverse, rest)
          else doubleQuoted? openEnded (⟨.text (String.singleton c), true⟩ :: read) fuel rest

/-- Take a word, up to a character that ends it. -/
def takeWord? (stop : Char → Bool) (read : Word) : Nat → List Char → Option (Word × List Char)
  | 0, _ => none
  | fuel + 1, cs =>
      match cs with
      | [] => some (read.reverse, [])
      | '\\' :: '\n' :: rest => takeWord? stop read fuel rest
      | '\\' :: c :: rest => takeWord? stop (⟨.text (String.singleton c), true⟩ :: read) fuel rest
      | '\'' :: rest =>
          let inner := rest.takeWhile (· != '\'')
          match rest.drop inner.length with
          | [] => none
          | _ :: rest =>
              let quotes : Piece := ⟨.text (String.ofList inner), true⟩
              takeWord? stop (quotes :: read) fuel rest
      | '"' :: rest => do
          let (parts, rest) ← doubleQuoted? false [] (rest.length + 1) rest
          let parts : Word := if parts.isEmpty then [⟨.text "", true⟩] else parts
          takeWord? stop (parts.reverse ++ read) fuel rest
      | '$' :: rest => do
          let (part, rest) ← dollar? rest
          takeWord? stop (⟨part, false⟩ :: read) fuel rest
      | '`' :: rest => do
          let (part, rest) ← backquoted? [] rest
          takeWord? stop (⟨part, false⟩ :: read) fuel rest
      | c :: rest =>
          if stop c then some (read.reverse, cs)
          else takeWord? stop (⟨.text (String.singleton c), false⟩ :: read) fuel rest

/-- A whole text as one word. -/
def wordOf (text : String) : Word :=
  let cs := text.toList
  match takeWord? (fun _ => false) [] (cs.length + 1) cs with
  | some (w, _) => w
  | none => [⟨.text text, false⟩]

/-- A whole text as if it stood between double quotes. -/
def quotedWordOf (text : String) : Word :=
  let cs := text.toList
  match doubleQuoted? true [] (cs.length + 1) cs with
  | some (w, _) => w
  | none => [⟨.text text, true⟩]

/-- The text of a piece that is neither quoted nor to be filled in. -/
def Piece.bare? : Piece → Option String
  | ⟨.text s, false⟩ => some s
  | _ => none

/-- The text of a piece without its quotes. -/
def Piece.text : Piece → String
  | ⟨.text s, _⟩ => s
  | _ => ""

/-- The text of a word without quotes and without anything to fill in. -/
def plain? (w : Word) : Option String :=
  (w.mapM Piece.bare?).map String.join

/-- The text of a word with its quotes taken off. -/
def unquoted (w : Word) : String :=
  String.join (w.map Piece.text)

/-- The lines of a document up to the line `delimiter`, and what follows that line. -/
def takeDocument (delimiter : List Char) (strip : Bool) (read : List Char) :
    Nat → List Char → List Char × List Char
  | 0, cs => (read, cs)
  | _ + 1, [] => (read, [])
  | fuel + 1, cs =>
      let full := cs.takeWhile (· != '\n')
      let rest := (cs.drop full.length).drop 1
      let line := if strip then full.dropWhile (· = '\t') else full
      if line = delimiter then (read, rest)
      else takeDocument delimiter strip (read ++ line ++ ['\n']) fuel rest

/-- The operators, longer ones before their beginnings. -/
def operators : List String :=
  ["&&", "||", ";;", ";", "&", "|", "(", ")"]

/-- The operators that redirect, longer ones before their beginnings. -/
def redirectOperators : List String :=
  [">>", ">&", "<&", ">|", "<>", ">", "<"]

/-- The stream that an operator redirects if no number says so. -/
def defaultFd (op : String) : Nat :=
  if op.toList.head? = some '<' then 0 else 1

/-- Take the operator that redirects stream `fd`, if one comes next. -/
def takeRedirect? (fd : Option Nat) (cs : List Char) : Option (Option Token × List Char) :=
  match cs with
  | '<' :: '<' :: rest => do
      let strip := rest.head? = some '-'
      let rest := (if strip then rest.drop 1 else rest).dropWhile fun c => c = ' ' || c = '\t'
      let (delimiter, rest) ← takeWord? endsWord [] (rest.length + 1) rest
      let current := rest.takeWhile (· != '\n')
      let later := (rest.drop current.length).drop 1
      let (body, later) :=
        takeDocument (unquoted delimiter).toList strip [] (later.length + 1) later
      let text := String.ofList body
      let w : Word :=
        if delimiter.any (·.quoted) then [⟨.text text, true⟩] else quotedWordOf text
      some (some (.document (fd.getD 0) w), current ++ '\n' :: later)
  | _ =>
      match redirectOperators.find? fun op => op.toList.isPrefixOf cs with
      | some op => some (some (.redirect (fd.getD (defaultFd op)) op), cs.drop op.length)
      | none => some (none, cs)

/-- Cut a script into tokens; `line` counts lines. -/
def tokens? (line : Nat) (read : List Token) : Nat → List Char → Option (List Token)
  | 0, _ => none
  | fuel + 1, cs =>
      match cs with
      | [] => some read.reverse
      | ' ' :: rest => tokens? line read fuel rest
      | '\t' :: rest => tokens? line read fuel rest
      | '\\' :: '\n' :: rest => tokens? (line + 1) read fuel rest
      | '\n' :: rest => tokens? (line + 1) (.newline :: read) fuel rest
      | '#' :: rest => tokens? line read fuel (rest.dropWhile (· != '\n'))
      | _ => do
          let digits := cs.takeWhile fun c => '0' ≤ c && c ≤ '9'
          let behind := cs.drop digits.length
          let numbered := !digits.isEmpty && (behind.head? = some '<' || behind.head? = some '>')
          let fd := if numbered then (String.ofList digits).toNat? else none
          let (redirect, rest) ← takeRedirect? fd (if numbered then behind else cs)
          match redirect with
          | some t => tokens? line (t :: read) fuel rest
          | none =>
              match operators.find? fun op => op.toList.isPrefixOf cs with
              | some op => tokens? line (.operator op :: read) fuel (cs.drop op.length)
              | none => do
                  let (w, rest) ← takeWord? endsWord [] (cs.length + 1) cs
                  let lines := (cs.take (cs.length - rest.length)).count '\n'
                  tokens? (line + lines) (.word line w :: read) fuel rest

end RunSweep.Shell
