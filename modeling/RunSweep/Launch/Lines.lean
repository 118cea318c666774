import RunSweep.Text.Utf8

/-!
# Lines of output

What a program prints is passed on line by line. A line ends at a line feed, with or without a carriage
return before it; at the end of the stream an unfinished line counts too. Reading stops at the first
line that is no well-formed text.
-/

namespace RunSweep.Lines

/-- The line feed. -/
def feed : UInt8 := 10

/-- The carriage return. -/
def carriage : UInt8 := 13

/-- The finished lines of a stream, without their ends, and the rest. `read` holds the bytes of the
current line, last one first. -/
def split (read : Bytes) : Bytes → List Bytes × Bytes
  | [] => ([], read.reverse)
  | b :: rest =>
      if b = feed then
        let line := if read.head? == some carriage then read.tail else read
        let (lines, unfinished) := split [] rest
        (line.reverse :: lines, unfinished)
      else split (b :: read) rest

/-- Lines as texts, up to the first one that is none. -/
def decode : List Bytes → List String
  | [] => []
  | line :: rest =>
      match Utf8.decode? line with
      | some text => text :: decode rest
      | none => []

/-- The lines that are passed on while more may follow. -/
def finished (bytes : Bytes) : List String :=
  decode (split [] bytes).1

/-- **The lines of a stream that has ended.** -/
def all (bytes : Bytes) : List String :=
  let (lines, unfinished) := split [] bytes
  decode (if unfinished.isEmpty then lines else lines ++ [unfinished])

end RunSweep.Lines
