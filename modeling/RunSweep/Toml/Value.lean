/-!
# TOML values

A document is a table of values. A table remembers how it came to be, because that decides whether a
later line may add to it; `insert` and `addSection` are the rules for adding. A key that is defined
twice, in whatever way, makes a document malformed, and then there is no table.

The modules on TOML stand for a reader that comes from elsewhere, and nothing is claimed of them. What is
proved of configurations starts from the table that a document was read as, whatever table that is.
-/

namespace RunSweep.Toml

/-- How a table came to be. -/
inductive Origin where
  /-- By a header of its own, or as the document itself. -/
  | header
  /-- By the header of a table inside it. -/
  | passing
  /-- By a key with dots. -/
  | dotted
  /-- Between braces. -/
  | inline
  deriving DecidableEq

/-- **A value of a document.** -/
inductive Value where
  | string (text : String)
  | integer (n : Int)
  | float (x : Float)
  /-- A number that cannot be read: a float too large for one, or an integer that has the right outline
  only. It does no harm where nobody looks at it. -/
  | unreadable
  | boolean (b : Bool)
  | datetime
  /-- Values in brackets, or the tables under headers with double brackets. -/
  | array (ofTables : Bool) (items : List Value)
  | table (origin : Origin) (entries : List (String × Value))
  deriving Inhabited

/-- What a table holds, in the order in which it came. -/
abbrev Entries := List (String × Value)

/-- Put a value under a key, in place of the one that is there, if any. -/
def Entries.set (entries : Entries) (key : String) (value : Value) : Entries :=
  if (entries.lookup key).isSome then
    entries.map fun (k, v) => if k = key then (k, value) else (k, v)
  else entries ++ [(key, value)]

/-- Whether a step of a key path may enter a table of this origin. Only a header enters a table that
has a header of its own, and nothing enters a table between braces. -/
def Origin.admits (byHeader : Bool) : Origin → Bool
  | header => byHeader
  | passing | dotted => true
  | inline => false

/-- Change what the last table of an array holds. -/
def mapLast (f : Origin → Entries → Option Entries) : List Value → Option (List Value)
  | [] => none
  | [.table origin entries] => do some [.table origin (← f origin entries)]
  | [_] => none
  | v :: vs => do some (v :: (← mapLast f vs))

/-- Take one step of a key path and change what is there by `f`: a table that the step may enter, the
last table of an array, or a new table of origin `fresh`. -/
def step (byHeader : Bool) (fresh : Origin) (f : Origin → Entries → Option Entries)
    (entries : Entries) (key : String) : Option Entries :=
  match entries.lookup key with
  | none => do some (entries.set key (.table fresh (← f fresh [])))
  | some (.table origin inner) =>
      if origin.admits byHeader then do
        some (entries.set key (.table origin (← f origin inner)))
      else none
  | some (.array true items) => do some (entries.set key (.array true (← mapLast f items)))
  | some _ => none

/-- Take the steps of a key path and change what is there by `f`. -/
def steps (byHeader : Bool) (fresh : Origin) (f : Origin → Entries → Option Entries) :
    List String → Origin → Entries → Option Entries
  | [], origin, entries => f origin entries
  | key :: path, _, entries => step byHeader fresh (steps byHeader fresh f path) entries key

/-- **A line `path.key = value`.** The key is new, and it stands in a table made by dots exactly if
there are steps before it. -/
def insert (path : List String) (key : String) (value : Value) (entries : Entries) :
    Option Entries :=
  let last (origin : Origin) (entries : Entries) : Option Entries :=
    if (origin == .dotted) == path.isEmpty || (entries.lookup key).isSome then none
    else some (entries.set key value)
  steps false .dotted last path .header entries

/-- A line of a document: the steps before its key, the key and the value. -/
structure Line where
  path : List String
  key : String
  value : Value

/-- A table with lines added. -/
def addLines (lines : List Line) (entries : Entries) : Option Entries :=
  lines.foldlM (fun entries l => insert l.path l.key l.value entries) entries

/-- A header, with double brackets if `repeated`, and the lines under it. -/
structure Section where
  repeated : Bool
  path : List String
  key : String
  lines : List Line

/-- **A header with its lines.** In single brackets it defines a table that no line or header has
defined; in double brackets it adds a table to those under the same header. -/
def addSection (entries : Entries) (s : Section) : Option Entries :=
  let last (_ : Origin) (entries : Entries) : Option Entries :=
    match s.repeated, entries.lookup s.key with
    | false, none => do
        some (entries.set s.key (.table .header (← addLines s.lines [])))
    | false, some (.table .passing inner) => do
        some (entries.set s.key (.table .header (← addLines s.lines inner)))
    | true, none => do
        some (entries.set s.key (.array true [.table .header (← addLines s.lines [])]))
    | true, some (.array true items) => do
        some (entries.set s.key
          (.array true (items ++ [.table .header (← addLines s.lines [])])))
    | _, _ => none
  steps true .passing last s.path .header entries

/-- The table of a document: the lines in front of the first header, then the sections in turn. -/
def ofSections (lines : List Line) (sections : List Section) : Option Entries := do
  sections.foldlM addSection (← addLines lines [])

/-! ## Numbers within bounds -/

/-- Whether an integer fits in 64 bits with a sign. -/
def fitsWord (n : Int) : Bool :=
  Int64.minValue.toInt ≤ n && n ≤ Int64.maxValue.toInt

/-- Whether an integer can be read at all, if only to be ignored: it fits in 128 bits. -/
def fitsDoubleWord (n : Int) : Bool :=
  -n ≤ Nat.pow 2 127 && n < Nat.pow 2 128

mutual

/-- Whether every number in the value can be read and every integer passes the test. -/
def Value.all (test : Int → Bool) : Value → Bool
  | .integer n => test n
  | .unreadable => false
  | .array _ items => allItems test items
  | .table _ entries => allEntries test entries
  | .string _ | .float _ | .boolean _ | .datetime => true

/-- The same for the items of an array. -/
def allItems (test : Int → Bool) : List Value → Bool
  | [] => true
  | v :: vs => v.all test && allItems test vs

/-- The same for the entries of a table. -/
def allEntries (test : Int → Bool) : List (String × Value) → Bool
  | [] => true
  | (_, v) :: es => v.all test && allEntries test es

end

end RunSweep.Toml
