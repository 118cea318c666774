import RunSweep.Disk.Calls
import RunSweep.Shell.Pattern
import RunSweep.Shell.Syntax

/-!
# Fields

A word whose parts are filled in becomes a row of glyphs. `fields` cuts it at separators that were
filled in outside quotes, and `matchingPaths` finds the paths that a field means as a pattern.

This is a part of the machine's shell, of which nothing is claimed.
-/

namespace RunSweep.Shell

/-- A piece of a word that has been filled in. -/
inductive Glyph where
  /-- A character, whether it stands in quotes, and whether it was filled in. -/
  | char (c : Char) (quoted expanded : Bool)
  /-- Quotes, which make a field even where nothing stands between them. -/
  | quotes
  /-- The border between two fields. -/
  | border
  deriving DecidableEq

namespace Glyph

/-- A text as glyphs. -/
def ofText (s : String) (quoted expanded : Bool) : List Glyph :=
  let cs := s.toList.map fun c => Glyph.char c quoted expanded
  if quoted then quotes :: cs else cs

/-- Glyphs as they are when they were filled in. -/
def loosen : Glyph → Glyph
  | char c q _ => char c q true
  | g => g

/-- The character of a glyph, marked. -/
def marked? : Glyph → Option Marked
  | char c q _ => some (c, q)
  | _ => none

end Glyph

/-- The text of a row of marked characters. -/
def textOf (cs : List Marked) : String :=
  String.ofList (cs.map (·.1))

/-- The text of glyphs that are not cut. -/
def plainText (gs : List Glyph) : String :=
  textOf (gs.filterMap Glyph.marked?)

/-- A separator that counts only once however often it is repeated. -/
def isSoft (c : Char) : Bool :=
  c = ' ' || c = '\t' || c = '\n'

/-- Cut glyphs into fields. `current` is the field that is being read, last character first; `ended`
tells that blanks have ended a field, so that a hard separator behind them ends no other. -/
def cut (separators : List Char) :
    Option (List Marked) → Bool → List Glyph → List (List Marked)
  | current, _, [] => (current.map List.reverse).toList
  | current, _, .border :: gs => (current.map List.reverse).toList ++ cut separators none false gs
  | current, _, .quotes :: gs => cut separators (some (current.getD [])) false gs
  | current, ended, .char c quoted expanded :: gs =>
      if !quoted && expanded && separators.contains c then
        match current with
        | some field =>
            field.reverse :: cut separators none (isSoft c) gs
        | none =>
            if isSoft c || ended then cut separators none (ended && isSoft c) gs
            else [] :: cut separators none false gs
      else cut separators (some ((c, quoted) :: current.getD [])) false gs

/-- The fields of a row of glyphs. -/
def fields (separators : List Char) (gs : List Glyph) : List (List Marked) :=
  cut separators none false gs

/-! ## Patterns of paths -/

/-- The segments of a field between its slashes. -/
def segments : List Marked → List (List Marked)
  | [] => [[]]
  | (c, q) :: rest =>
      match c, segments rest with
      | '/', parts => [] :: parts
      | _, part :: parts => ((c, q) :: part) :: parts
      | _, [] => [[(c, q)]]

/-- The names in a directory that a pattern matches. A leading dot must be written out. -/
def matchingNames (d : Disk) (dir : String) (p : List Marked) : List String :=
  let path : Path := ⟨toBytes (if dir.isEmpty then "." else dir)⟩
  let names := ((d.namesIn path).toOption.getD []).map ofBytes
  names.filter fun name =>
    (name.toList.head? ≠ some '.' || (p.head?.map (·.1)) = some '.') && isMatch p name.toList

/-- Continue paths by the segments of a pattern. -/
def matchingBelow (d : Disk) (bases : List String) : List (List Marked) → List String
  | [] => bases
  | [last] => bases.flatMap fun base =>
      if isPattern last then (matchingNames d base last).map (base ++ ·)
      else
        let path := base ++ textOf last
        if d.contains ⟨toBytes path⟩ then [path] else []
  | p :: rest =>
      matchingBelow d
        (bases.flatMap fun base =>
          if isPattern p then (matchingNames d base p).map (base ++ · ++ "/")
          else [base ++ textOf p ++ "/"])
        rest

/-- What a field means: the paths that it matches as a pattern, or itself. -/
def matchingPaths (d : Disk) (field : List Marked) : List String :=
  if isPattern field then
    let paths := matchingBelow d [""] (segments field)
    if paths.isEmpty then [textOf field] else paths.mergeSort (· ≤ ·)
  else [textOf field]

end RunSweep.Shell
