import RunSweep.Toml.Scalar

/-!
# TOML documents

`parse?` reads a document as a table. Brackets and braces may be nested up to a limit. Blanks, line ends
and comments stand freely between brackets and between braces, except within a key. Outside of them a
key, its equals sign and the start of its value stand on one line.

Nothing is claimed of `parse?` itself: theorems take as a hypothesis what it has read.
-/

namespace RunSweep.Toml

/-- How deep brackets and braces may be nested. -/
def maxDepth : Nat := 80

mutual

/-- A value, in which brackets and braces may be nested `depth` deep. -/
def value (depth : Nat) : Nat → Parse Value
  | 0 => failure
  | fuel + 1 => do
      match ← peek? with
      | some '"' => return .string (← string '"' fuel)
      | some '\'' => return .string (← string '\'' fuel)
      | some '[' => do
          let _ ← next
          guard (0 < depth)
          return .array false (← items (depth - 1) [] fuel)
      | some '{' => do
          let _ ← next
          guard (0 < depth)
          return .table .inline (← fields (depth - 1) [] fuel)
      | _ => scalar
termination_by structural fuel => fuel

/-- The items of an array up to the closing bracket; `read` holds those before them, last first. -/
def items (depth : Nat) (read : List Value) : Nat → Parse (List Value)
  | 0 => failure
  | fuel + 1 => do
      skipVoid fuel
      if ← accept ']' then return read.reverse
      let v ← value depth fuel
      skipVoid fuel
      if ← accept ',' then items depth (v :: read) fuel
      else do
        expect ']'
        return (v :: read).reverse
termination_by structural fuel => fuel

/-- The entries of a table up to the closing brace, added to those before them. -/
def fields (depth : Nat) (read : Entries) : Nat → Parse Entries
  | 0 => failure
  | fuel + 1 => do
      skipVoid fuel
      if ← accept '}' then return read
      let l ← line depth true fuel
      let read ← (insert l.path l.key l.value read : Option Entries)
      skipVoid fuel
      if ← accept ',' then fields depth read fuel
      else do
        expect '}'
        return read
termination_by structural fuel => fuel

/-- A key, an equals sign and a value, on one line unless `inBraces`. -/
def line (depth : Nat) (inBraces : Bool) : Nat → Parse Line
  | 0 => failure
  | fuel + 1 => do
      let parts ← key [] (fuel + 1)
      if inBraces then skipVoid fuel
      expect '='
      if inBraces then skipVoid fuel else skipSpace
      let v ← value depth fuel
      match parts.getLast? with
      | some last => return { path := parts.dropLast, key := last, value := v }
      | none => failure
termination_by structural fuel => fuel

end

/-- A header, in single or double brackets, whose first bracket comes next. -/
def header (fuel : Nat) : Parse Section := do
  expect '['
  let repeated ← accept '['
  let parts ← key [] fuel
  expect ']'
  if repeated then expect ']'
  match parts.getLast? with
  | some last => return { repeated, path := parts.dropLast, key := last, lines := [] }
  | none => failure

/-- A document read so far: the lines in front of the first header and the sections, all last first. -/
structure Draft where
  lines : List Line := []
  sections : List Section := []

/-- A document with one more line, under the last header. -/
def Draft.addLine (d : Draft) (l : Line) : Draft :=
  match d.sections with
  | [] => { d with lines := l :: d.lines }
  | s :: rest => { d with sections := { s with lines := l :: s.lines } :: rest }

/-- The table of a document. -/
def Draft.table? (d : Draft) : Option Entries :=
  ofSections d.lines.reverse
    (d.sections.reverse.map fun s => { s with lines := s.lines.reverse })

/-- Read the lines of a document to its end. -/
def document (d : Draft) : Nat → Parse Draft
  | 0 => failure
  | fuel + 1 => do
      skipVoid fuel
      match ← peek? with
      | none => return d
      | some '[' => do
          let s ← header fuel
          endLine
          document { d with sections := s :: d.sections } fuel
      | some _ => do
          let l ← line maxDepth false fuel
          endLine
          document (d.addLine l) fuel

/-- The text behind a byte order mark. -/
def dropMark : List Char → List Char
  | c :: cs => if c.toNat = 0xFEFF then cs else c :: cs
  | [] => []

/-- **The table of a document**, unless the text is malformed. No character takes more than two steps,
so that a little more than twice their number is enough fuel. -/
def parse? (text : String) : Option Entries := do
  let cs := dropMark text.toList
  let (d, _) ← document {} (2 * cs.length + 8) cs
  d.table?

end RunSweep.Toml
