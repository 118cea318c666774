import RunSweep.Toml.Value

/-!
# Reading TOML: blanks, comments and strings

A `Parse` takes characters off the front of a text, or fails. A failure says nothing: a malformed
document has no meaning, whatever is wrong with it. Like all of the reader, this serves to run the
program, and no theorem is about it.
-/

namespace RunSweep.Toml

/-- A reader of something at the front of a text. -/
abbrev Parse := StateT (List Char) Option

/-- The next character, which is left in the text. -/
def peek? : Parse (Option Char) :=
  return (← get).head?

/-- Take the next character. -/
def next : Parse Char := fun
  | [] => none
  | c :: cs => some (c, cs)

/-- Take a character that must be `c`. -/
def expect (c : Char) : Parse Unit := do
  guard ((← next) = c)

/-- Take `c` if it comes next, and tell whether it did. -/
def accept (c : Char) : Parse Bool := fun
  | [] => some (false, [])
  | d :: cs => if d = c then some (true, cs) else some (false, d :: cs)

/-- Take the characters of a class. -/
def takeWhile (p : Char → Bool) : Parse (List Char) := fun cs =>
  some (cs.takeWhile p, cs.dropWhile p)

/-- A blank within a line. -/
def isSpace (c : Char) : Bool :=
  c = ' ' || c = '\t'

/-- A control character, which stands nowhere but in line ends; the tab is none. -/
def isControl (c : Char) : Bool :=
  (c.toNat < 0x20 && c != '\t') || c.toNat = 0x7F

/-- Take blanks within a line. -/
def skipSpace : Parse Unit := do
  let _ ← takeWhile isSpace

/-- Take a comment up to the end of its line, if one starts here. -/
def skipComment : Parse Unit := do
  if (← peek?) = some '#' then
    let _ ← takeWhile (!isControl ·)

/-- Take a line end, a line feed with or without a carriage return before it, and tell whether there
was one. A carriage return alone is nothing. -/
def skipNewline : Parse Bool := fun
  | '\n' :: cs => some (true, cs)
  | '\r' :: '\n' :: cs => some (true, cs)
  | cs => some (false, cs)

/-- Take what may stand behind a complete line. -/
def endLine : Parse Unit := do
  skipSpace
  skipComment
  if (← get).isEmpty then return
  guard (← skipNewline)

/-- Take blanks, line ends and comments, at most `fuel` of them. -/
def skipVoid : Nat → Parse Unit
  | 0 => return
  | fuel + 1 => do
      skipSpace
      skipComment
      if ← skipNewline then skipVoid fuel

/-! ## Strings -/

/-- The value of a hexadecimal digit. -/
def hexValue? (c : Char) : Option Nat :=
  if '0' ≤ c ∧ c ≤ '9' then some (c.toNat - '0'.toNat)
  else if 'a' ≤ c ∧ c ≤ 'f' then some (c.toNat - 'a'.toNat + 10)
  else if 'A' ≤ c ∧ c ≤ 'F' then some (c.toNat - 'A'.toNat + 10)
  else none

/-- The character with a number of so many hexadecimal digits; surrogates are no characters. -/
def hexChar (value : Nat) : Nat → Parse Char
  | 0 => do
      guard (Nat.isValidChar value)
      return Char.ofNat value
  | digits + 1 => do
      let digit ← (hexValue? (← next) : Option Nat)
      hexChar (16 * value + digit) digits

/-- The character that an escape stands for, behind the backslash. -/
def escape : Parse Char := do
  match ← next with
  | 'b' => return Char.ofNat 0x08
  | 't' => return '\t'
  | 'n' => return '\n'
  | 'f' => return Char.ofNat 0x0C
  | 'r' => return '\r'
  | 'e' => return Char.ofNat 0x1B
  | '"' => return '"'
  | '\\' => return '\\'
  | 'x' => hexChar 0 2
  | 'u' => hexChar 0 4
  | 'U' => hexChar 0 8
  | _ => failure

/-- A string on one line, behind its opening quote; `read` holds what was read, last first. -/
def lineString (quote : Char) (escapes : Bool) (read : List Char) : Nat → Parse String
  | 0 => failure
  | fuel + 1 => do
      let c ← next
      if c = quote then return String.ofList read.reverse
      else if escapes && c = '\\' then
        lineString quote escapes ((← escape) :: read) fuel
      else do
        guard (!isControl c)
        lineString quote escapes (c :: read) fuel

/-- Whether a backslash has just been taken at the end of its line. -/
def endsLine : Parse Bool := fun cs =>
  match skipNewline (cs.dropWhile isSpace) with
  | some (true, _) => some (true, cs)
  | _ => some (false, cs)

/-- The quotes at an end of a string of several lines: three close it, and up to two more in front of
them belong to it. Answers the quotes that belong to the string, and whether it is closed. -/
def closing (quotes : Nat) : Nat × Bool :=
  if quotes < 3 then (quotes, false)
  else (min (quotes - 3) 2, true)

/-- A string of several lines, behind its opening quotes and the line end that may follow them. A
backslash at the end of a line joins it to the next character that is no blank. -/
def textString (quote : Char) (escapes : Bool) (read : List Char) : Nat → Parse String
  | 0 => failure
  | fuel + 1 => do
      let cs ← get
      match cs with
      | [] => failure
      | '\r' :: '\n' :: rest =>
          set rest
          textString quote escapes ('\n' :: '\r' :: read) fuel
      | '\n' :: rest =>
          set rest
          textString quote escapes ('\n' :: read) fuel
      | c :: rest =>
          if c = quote then
            let (kept, closed) := closing (cs.takeWhile (· = quote)).length
            let read := List.replicate kept quote ++ read
            if closed then
              set (cs.drop (kept + 3))
              return String.ofList read.reverse
            else
              set (cs.drop kept)
              textString quote escapes read fuel
          else if escapes && c = '\\' then
            set rest
            if ← endsLine then
              skipBlankLines fuel
              textString quote escapes read fuel
            else textString quote escapes ((← escape) :: read) fuel
          else
            guard (!isControl c)
            set rest
            textString quote escapes (c :: read) fuel
where
  /-- Take blanks and line ends. -/
  skipBlankLines : Nat → Parse Unit
    | 0 => return
    | fuel + 1 => do
        skipSpace
        if ← skipNewline then skipBlankLines fuel

/-- A string, whose opening quote comes next. -/
def string (quote : Char) (fuel : Nat) : Parse String := do
  let cs ← get
  let escapes := quote = '"'
  if cs.take 3 = [quote, quote, quote] then
    set (cs.drop 3)
    let _ ← skipNewline
    textString quote escapes [] fuel
  else
    let _ ← next
    lineString quote escapes [] fuel

/-! ## Keys -/

/-- A character of a key without quotes. -/
def isBare (c : Char) : Bool :=
  ('a' ≤ c && c ≤ 'z') || ('A' ≤ c && c ≤ 'Z') || ('0' ≤ c && c ≤ '9') || c = '_' || c = '-'

/-- One part of a key: bare, or in quotes on one line. -/
def simpleKey (fuel : Nat) : Parse String := do
  let cs ← get
  match cs with
  | '"' :: rest => do
      set rest
      lineString '"' true [] fuel
  | '\'' :: rest => do
      set rest
      lineString '\'' false [] fuel
  | _ => do
      let name ← takeWhile isBare
      guard (!name.isEmpty)
      return String.ofList name

/-- The most parts that a key may have. -/
def maxParts : Nat := 80

/-- A key: its parts with dots in between, and blanks around them as they please. -/
def key (parts : List String) : Nat → Parse (List String)
  | 0 => failure
  | fuel + 1 => do
      guard (parts.length < maxParts)
      skipSpace
      let parts := parts ++ [← simpleKey fuel]
      skipSpace
      if ← accept '.' then key parts fuel else return parts

end RunSweep.Toml
