import RunSweep.Text.Utf8

/-!
# Paths

A path is a byte string in which slashes separate names. `Path.components` is what the path says apart
from its spelling: repeated and trailing slashes do not count, nor does a `.` anywhere but at the start
of a relative path, while `..` is kept as it stands. Two paths with the same components are the same
place to everything in this library except a message, which shows the path as written.

Bytes matter again when paths are taken apart and put together: `parent?`, `fileName?` and `join` give
paths as a reader would write them.
-/

namespace RunSweep

/-- A path, byte for byte as written. -/
structure Path where
  bytes : Bytes
  deriving DecidableEq, Inhabited

/-- One step of a path. -/
inductive Component where
  | root
  | current
  | parent
  | name (bytes : Bytes)
  deriving DecidableEq

namespace Path

/-- The byte between two names. -/
def slash : UInt8 := 0x2F

/-- The byte of the names `.` and `..`. -/
def dot : UInt8 := 0x2E

/-- The path written as `text`. -/
def ofText (text : String) : Path :=
  ⟨Utf8.encode text⟩

/-- Whether the path starts at the root. -/
def isAbsolute (p : Path) : Bool :=
  p.bytes.head? == some slash

/-- Whether nothing is written. -/
def isEmpty (p : Path) : Bool :=
  p.bytes.isEmpty

/-- The stretches between the slashes, empty ones included. -/
def segments (bytes : Bytes) : List Bytes :=
  bytes.splitOn slash

/-- Whether a stretch between slashes says nothing. -/
def isIdle (segment : Bytes) : Bool :=
  segment == [] || segment == [dot]

/-- The step that a stretch between slashes stands for. -/
def step (segment : Bytes) : Component :=
  if segment = [dot, dot] then .parent else .name segment

/-- **What a path starts with**, apart from its names: the root, the `.` that a relative path may begin
with, or nothing. -/
inductive Start where
  | root
  | current
  | bare
  deriving DecidableEq

/-- The bytes of a start. -/
def Start.bytes : Start → Bytes
  | root => [slash]
  | current => [dot]
  | bare => []

/-- The step of a start. -/
def Start.components : Start → List Component
  | root => [.root]
  | current => [.current]
  | bare => []

/-- A path as its start and the bytes behind it. -/
def split (p : Path) : Start × Bytes :=
  match p.bytes with
  | [] => (.bare, [])
  | b :: rest =>
      if b = slash then (.root, rest)
      else if b = dot && (rest == [] || rest.head? == some slash) then (.current, rest)
      else (.bare, b :: rest)

/-- The steps of a path: the root or a leading `.`, then the names. -/
def components (p : Path) : List Component :=
  let (start, body) := p.split
  start.components ++ ((segments body).filter (!isIdle ·)).map step

/-- The last step, if it is a name. -/
def fileName? (p : Path) : Option Bytes :=
  match p.components.getLast? with
  | some (.name bytes) => some bytes
  | _ => none

/-- The segments up to the last one that says something. -/
def trimIdle (segments : List Bytes) : List Bytes :=
  (segments.reverse.dropWhile isIdle).reverse

/-- The path without its last step; the root and the empty path have none to drop. -/
def parent? (p : Path) : Option Path :=
  let (start, body) := p.split
  match (trimIdle (segments body)).reverse with
  | _ :: front => some ⟨start.bytes ++ [slash].intercalate (trimIdle front.reverse)⟩
  | [] =>
      match start with
      | .current => some ⟨[]⟩
      | .root | .bare => none

/-- The path `p` continued by `bytes`. An absolute continuation stands alone; otherwise a slash goes in
between unless `p` is empty or ends in one. -/
def join (p : Path) (bytes : Bytes) : Path :=
  if bytes.head? == some slash || p.bytes.isEmpty then ⟨bytes⟩
  else if p.bytes.getLast? == some slash then ⟨p.bytes ++ bytes⟩
  else ⟨p.bytes ++ slash :: bytes⟩

/-- Whether two paths have the same steps. -/
def sameSteps (p q : Path) : Bool :=
  p.components == q.components

end Path

/-- Whether one text of bytes stands before another, or they are the same: the first difference decides,
and a beginning stands before the whole. -/
def notAfter (a b : Bytes) : Bool :=
  !List.lex b a (· < ·)

/-- A key that orders steps: the root first, then `.`, then `..`, then names by their bytes. -/
def Component.sortKey : Component → List Nat
  | root => [0]
  | current => [1]
  | parent => [2]
  | name bytes => 3 :: bytes.map UInt8.toNat

/-- The order of paths, step by step. -/
def Path.precedes (p q : Path) : Bool :=
  let keys (p : Path) : List (List Nat) := p.components.map Component.sortKey
  !List.lex (keys q) (keys p) fun a b => List.lex a b (· < ·)

end RunSweep
