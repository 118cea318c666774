/-!
# UTF-8

Paths, command words and file contents are byte strings; names shown to a reader are text. This module
goes between the two. `pieces` cuts a byte string into its well-formed characters and the ill-formed
stretches between them, where a stretch is a *maximal ill-formed prefix*: the longest start of some
character that the following byte does not continue, and one byte where there is no such start.

* `lossy` shows every ill-formed stretch as one U+FFFD;
* `decode?` reads well-formed bytes only;
* `encode` writes text as bytes.
-/

namespace RunSweep

/-- A string of bytes, first byte first. -/
abbrev Bytes := List UInt8

namespace Utf8

/-- The bytes of a text. -/
def encode (text : String) : Bytes :=
  text.toList.flatMap String.utf8EncodeChar

/-- A cut of a byte string: a character, or bytes that are not the whole of one. -/
inductive Piece where
  | char (c : Char)
  | illFormed (bytes : Bytes)
  deriving DecidableEq

/-- **The bytes that may follow a first byte.** `lowest` and `highest` bound the first of them,
`further` counts the others, and `bits` is what the first byte contributes to the character. -/
structure Continuation where
  bits : Nat
  lowest : UInt8
  highest : UInt8
  further : Nat

/-- What a first byte of 0x80 or above announces. Overlong forms, surrogates and values above
U+10FFFF are excluded by the bounds on the second byte. -/
def continuation? (first : UInt8) : Option Continuation :=
  if first < 0xC2 then none
  else if first < 0xE0 then some ⟨first.toNat % 0x20, 0x80, 0xBF, 0⟩
  else if first = 0xE0 then some ⟨0, 0xA0, 0xBF, 1⟩
  else if first = 0xED then some ⟨0xD, 0x80, 0x9F, 1⟩
  else if first < 0xF0 then some ⟨first.toNat % 0x10, 0x80, 0xBF, 1⟩
  else if first = 0xF0 then some ⟨0, 0x90, 0xBF, 2⟩
  else if first < 0xF4 then some ⟨first.toNat % 0x08, 0x80, 0xBF, 2⟩
  else if first = 0xF4 then some ⟨4, 0x80, 0x8F, 2⟩
  else none

/-- Read the continuation bytes of a character whose leading bits are `bits`; `seen` holds the bytes
read so far, last first, and `remaining` counts those still due. -/
def takeTail (bits : Nat) (seen : Bytes) (lowest highest : UInt8) :
    Nat → Bytes → Piece × Bytes
  | 0, rest => (.char (Char.ofNat bits), rest)
  | _ + 1, [] => (.illFormed seen.reverse, [])
  | remaining + 1, b :: rest =>
      if lowest ≤ b ∧ b ≤ highest then
        takeTail (bits * 0x40 + b.toNat % 0x40) (b :: seen) 0x80 0xBF remaining rest
      else (.illFormed seen.reverse, b :: rest)

/-- The piece that a byte string starts with, and the bytes behind it. -/
def takePiece (first : UInt8) (rest : Bytes) : Piece × Bytes :=
  if first < 0x80 then (.char (Char.ofNat first.toNat), rest)
  else
    match continuation? first with
    | none => (.illFormed [first], rest)
    | some k => takeTail k.bits [first] k.lowest k.highest (k.further + 1) rest

theorem takeTail_length_le (bits : Nat) (seen : Bytes) (lowest highest : UInt8) (n : Nat)
    (bytes : Bytes) : (takeTail bits seen lowest highest n bytes).2.length ≤ bytes.length := by
  induction n generalizing bits seen lowest highest bytes with
  | zero => simp [takeTail]
  | succ n ih =>
    cases bytes with
    | nil => simp [takeTail]
    | cons b rest =>
      simp only [takeTail]
      split
      · exact Nat.le_succ_of_le (ih _ _ _ _ rest)
      · exact Nat.le_refl _

theorem takePiece_length_le (first : UInt8) (rest : Bytes) :
    (takePiece first rest).2.length ≤ rest.length := by
  unfold takePiece
  split
  · exact Nat.le_refl _
  · split
    · exact Nat.le_refl _
    · exact takeTail_length_le ..

/-- A byte string as characters and ill-formed stretches, in order. -/
def pieces : Bytes → List Piece
  | [] => []
  | first :: rest =>
      (takePiece first rest).1 :: pieces (takePiece first rest).2
termination_by bytes => bytes.length
decreasing_by
  exact Nat.lt_succ_of_le (takePiece_length_le first rest)

/-- The character that stands for a piece in lossy text. -/
def Piece.shown : Piece → Char
  | .char c => c
  | .illFormed _ => Char.ofNat 0xFFFD

/-- The character of a well-formed piece. -/
def Piece.char? : Piece → Option Char
  | .char c => some c
  | .illFormed _ => none

/-- Text for a reader: each ill-formed stretch becomes one U+FFFD. -/
def lossy (bytes : Bytes) : String :=
  String.ofList ((pieces bytes).map Piece.shown)

/-- The text that the bytes encode, if they encode one. -/
def decode? (bytes : Bytes) : Option String :=
  ((pieces bytes).mapM Piece.char?).map String.ofList

end Utf8

end RunSweep
