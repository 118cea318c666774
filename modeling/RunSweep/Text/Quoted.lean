import RunSweep.Text.Invisible
import RunSweep.Text.Utf8

/-!
# Quoted text

Messages show paths and strings between double quotes so that every character can be told apart: the
quote, the backslash and the usual controls have short escapes, invisible characters are written as
`\u` with their number in braces, and bytes outside any character as `\x` with two digits.
-/

namespace RunSweep.Quoted

/-- A hexadecimal digit; `ten` is the letter for 10. -/
def hexDigit (ten : Char) (n : Nat) : Char :=
  if n < 10 then Char.ofNat ('0'.toNat + n) else Char.ofNat (ten.toNat + (n - 10))

/-- The hexadecimal digits of a number, at least one, with lower-case letters. -/
def hexDigits (n : Nat) : List Char :=
  Nat.toDigits 16 n

/-- A character as it stands between the quotes. -/
def ofChar (c : Char) : List Char :=
  if c = Char.ofNat 0 then ['\\', '0']
  else if c = '\t' then ['\\', 't']
  else if c = '\r' then ['\\', 'r']
  else if c = '\n' then ['\\', 'n']
  else if c = '\\' then ['\\', '\\']
  else if c = '"' then ['\\', '"']
  else if isInvisible c then ['\\', 'u', '\x7b'] ++ hexDigits c.toNat ++ ['\x7d']
  else [c]

/-- A byte outside any character, as it stands between the quotes. -/
def ofByte (b : UInt8) : List Char :=
  ['\\', 'x', hexDigit 'A' (b.toNat / 16), hexDigit 'A' (b.toNat % 16)]

/-- A piece of a byte string as it stands between the quotes. -/
def ofPiece : Utf8.Piece → List Char
  | .char c => ofChar c
  | .illFormed bytes => bytes.flatMap ofByte

/-- A byte string between quotes. -/
def ofBytes (bytes : Bytes) : String :=
  String.ofList ('"' :: (Utf8.pieces bytes).flatMap ofPiece ++ ['"'])

/-- A text between quotes. -/
def ofText (text : String) : String :=
  String.ofList ('"' :: text.toList.flatMap ofChar ++ ['"'])

end RunSweep.Quoted
