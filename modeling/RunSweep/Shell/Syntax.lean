import RunSweep.Text.Utf8

/-!
# Shell commands

The command language of the machine's shell, as trees. Scripts and words are byte strings; in this part
of the library a byte is shown as the character of the same number, so that every `Char` here is below
256 and `ofBytes` and `toBytes` lose nothing.

The modules on the shell stand for the one of the machine, with the programs that every machine has, so
that an acquisition program can be a script. Nothing is claimed of them: theorems about the loop hold for
every launcher, and those about the output of a program for every process.
-/

namespace RunSweep.Shell

/-- Bytes as characters of the same numbers. -/
def ofBytes (bytes : Bytes) : String :=
  String.ofList (bytes.map fun b => Char.ofNat b.toNat)

/-- Characters below 256 as bytes. -/
def toBytes (text : String) : Bytes :=
  text.toList.map fun c => UInt8.ofNat c.toNat

/-- A part of a word that stands for itself or for something to be filled in. -/
inductive Part where
  | text (s : String)
  /-- A parameter; an operator and a word say what to make of its value. -/
  | param (name operator word : String)
  /-- The number of characters of a parameter. -/
  | length (name : String)
  /-- What a script prints. -/
  | command (script : String)
  /-- The value of an expression. -/
  | arithmetic (expression : String)
  deriving DecidableEq

/-- A part, and whether it stands in quotes. -/
structure Piece where
  part : Part
  quoted : Bool
  deriving DecidableEq

/-- A word before anything is filled in. -/
abbrev Word := List Piece

/-- How a file or another stream takes the place of a stream. -/
inductive RedirectKind where
  | read
  | write
  | append
  | duplicate
  /-- The text itself is what is read. -/
  | here
  deriving DecidableEq

/-- Another source or sink for the stream `fd`. -/
structure Redirect where
  fd : Nat
  kind : RedirectKind
  target : Word
  deriving DecidableEq

/-- A command. -/
inductive Cmd where
  | skip
  /-- Assignments, then a program or function with its arguments. -/
  | simple (line : Nat) (assignments : List (String × Word)) (words : List Word)
  | redirected (body : Cmd) (redirects : List Redirect)
  | seq (first second : Cmd)
  | both (first second : Cmd)
  | either (first second : Cmd)
  | pipe (source target : Cmd)
  | negated (body : Cmd)
  /-- Run beside what follows. -/
  | background (body : Cmd)
  | subshell (body : Cmd)
  | ifThen (condition body otherwise : Cmd)
  /-- Repeat while the condition succeeds, or until it does if `whileNot`. -/
  | loop (whileNot : Bool) (condition body : Cmd)
  /-- Without words, over the positional parameters. -/
  | forIn (name : String) (words : Option (List Word)) (body : Cmd)
  | choose (subject : Word) (arms : List (List Word × Cmd))
  | define (name : String) (body : Cmd)
  deriving Inhabited

end RunSweep.Shell
