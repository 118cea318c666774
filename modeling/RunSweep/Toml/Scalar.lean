import RunSweep.Decimal.Reading
import RunSweep.Toml.Reader

/-!
# Reading TOML: numbers, booleans and dates

A scalar without quotes is a word. What it is follows from its form; a word that has none of the forms
makes the document malformed. Dates and times must be possible, but no one asks which they are. Like all
of the reader, this serves to run the program, and no theorem is about it.
-/

namespace RunSweep.Toml

/-- A character of a scalar without quotes: any but blanks, line ends and the signs that structure a
document. -/
def isScalar (c : Char) : Bool :=
  !isSpace c && c != '\n' && c != '\r' && !"=,[]\x7b\x7d#".toList.contains c

/-- The digits of a number in which single underscores may stand between two digits. -/
def digits? (isDigit : Char → Bool) : List Char → Option (List Char)
  | [] => none
  | [c] => if isDigit c then some [c] else none
  | c :: '_' :: cs => if isDigit c then (digits? isDigit cs).map (c :: ·) else none
  | c :: cs => if isDigit c then (digits? isDigit cs).map (c :: ·) else none

/-- A word without its underscores, each of which must stand between two digits. -/
def grouped? (isDigit : Char → Bool) : List Char → Option (List Char)
  | [] => some []
  | '_' :: _ => none
  | c :: '_' :: d :: cs =>
      if isDigit c && isDigit d then (grouped? isDigit (d :: cs)).map (c :: ·) else none
  | [_, '_'] => none
  | c :: cs => (grouped? isDigit cs).map (c :: ·)

/-- A hexadecimal digit. -/
def isHexDigit (c : Char) : Bool :=
  (hexValue? c).isSome

/-- The sign of a number, what stands behind it, and the same without the underscore that may follow a
sign. -/
structure Signed where
  negative : Bool
  body : List Char
  digits : List Char

/-- A word as a sign and what stands behind it. -/
def Signed.ofWord (word : List Char) : Signed :=
  let (negative, body) := takeSign word
  let signed := body.length < word.length
  { negative, body, digits := if signed && body.head? == some '_' then body.tail else body }

/-- Whether a number starts with a zero that says nothing. -/
def hasIdleZero : List Char → Bool
  | '0' :: _ :: _ => true
  | _ => false

/-- A natural number in the base that its lead announces: two, eight or sixteen. Without a digit it is
none, which shows only when it is read. -/
def based? (base : Nat) (cs : List Char) : Option Value := do
  if cs.isEmpty then return .unreadable
  let isDigit (c : Char) : Bool := (hexValue? c).any (· < base)
  let ds ← digits? isDigit cs
  return .integer (ds.foldl (fun n c => base * n + (hexValue? c).getD 0) 0)

/-- An integer in base ten, without an idle zero. Digits come first; what follows the first underscore is
only looked at where underscores stand, so that other characters show only when the number is read. A
point or an exponent makes it another kind of number. -/
def decimal? (word : List Char) : Option Value := do
  let s := Signed.ofWord word
  guard (!hasIdleZero s.body && s.digits.head?.any isHexDigit)
  let rest := s.body.dropWhile isDigit
  guard (rest.isEmpty || rest.head? == some '_' && !rest.any ['.', 'e', 'E'].contains)
  let ds ← grouped? isHexDigit s.digits
  if ds.all isDigit then
    return .integer (if s.negative then -(ofDigits ds : Int) else ofDigits ds)
  else return .unreadable

/-- An integer. Only a decimal one has a sign. -/
def integer? (word : List Char) : Option Value :=
  match word with
  | '0' :: 'x' :: cs => based? 16 cs
  | '0' :: 'o' :: cs => based? 8 cs
  | '0' :: 'b' :: cs => based? 2 cs
  | _ => decimal? word

/-- An exponent without its letter. -/
def exponent? (cs : List Char) : Option Int := do
  let (negative, body) := takeSign cs
  let ds ← digits? isDigit body
  return if negative then -(ofDigits ds : Int) else ofDigits ds

/-- Split a word in front of the first character that passes the test. -/
def splitAt (p : Char → Bool) (cs : List Char) : List Char × List Char :=
  (cs.takeWhile (!p ·), cs.dropWhile (!p ·))

/-- A float with digits: a whole part, then a fraction, an exponent, or both. -/
def numeral? (word : List Char) : Option Numeral := do
  let s := Signed.ofWord word
  guard (!hasIdleZero (s.body.takeWhile fun c => isDigit c || c = '_'))
  let (mantissa, exp) := splitAt (fun c => c = 'e' || c = 'E') s.digits
  let (whole, fraction) := splitAt (· = '.') mantissa
  guard (!(exp.isEmpty && fraction.isEmpty))
  let wholeDigits ← digits? isDigit whole
  let fractionDigits ← if fraction.isEmpty then some [] else digits? isDigit fraction.tail
  let power ← if exp.isEmpty then some 0 else exponent? exp.tail
  return ⟨s.negative, ofDigits (wholeDigits ++ fractionDigits), power - fractionDigits.length⟩

/-- A float: the names of an infinity and of no number, with a sign if any, or digits. -/
def float? (word : List Char) : Option Value :=
  let (negative, body) := takeSign word
  if body = ['i', 'n', 'f'] then some (.float (if negative then -1.0 / 0.0 else 1.0 / 0.0))
  else if body = ['n', 'a', 'n'] then some (.float (0.0 / 0.0))
  else
    (numeral? word).map fun n =>
      let x := n.toFloat
      if x.isInf then .unreadable else .float x

/-! ## Dates and times -/

/-- A number of exactly so many digits at the front of a word. -/
def fixed? (width : Nat) (cs : List Char) : Option (Nat × List Char) := do
  let ds := cs.take width
  guard (ds.length = width && ds.all isDigit)
  return (ofDigits ds, cs.drop width)

/-- A character at the front of a word that must be `c`. -/
def lead? (c : Char) : List Char → Option (List Char)
  | d :: cs => if d = c then some cs else none
  | [] => none

/-- The number of days in a month. -/
def daysIn (year month : Nat) : Nat :=
  if month = 2 then
    if year % 4 = 0 && (year % 100 != 0 || year % 400 = 0) then 29 else 28
  else if month = 4 || month = 6 || month = 9 || month = 11 then 30
  else 31

/-- A date at the front of a word, and the rest of it. -/
def date? (cs : List Char) : Option (List Char) := do
  let (year, cs) ← fixed? 4 cs
  let (month, cs) ← fixed? 2 (← lead? '-' cs)
  let (day, cs) ← fixed? 2 (← lead? '-' cs)
  guard (1 ≤ month && month ≤ 12 && 1 ≤ day && day ≤ daysIn year month)
  return cs

/-- Hours and minutes at the front of a word, and the rest of it. -/
def clock? (cs : List Char) : Option (List Char) := do
  let (hour, cs) ← fixed? 2 cs
  let (minute, cs) ← fixed? 2 (← lead? ':' cs)
  guard (hour ≤ 23 && minute ≤ 59)
  return cs

/-- A time at the front of a word, its seconds and their fraction left out as they please, and the rest
of the word. A minute may have a leap second. -/
def time? (cs : List Char) : Option (List Char) := do
  let cs ← clock? cs
  match cs with
  | ':' :: cs =>
      let (second, cs) ← fixed? 2 cs
      guard (second ≤ 60)
      match cs with
      | '.' :: cs =>
          guard (cs.head?.any isDigit)
          return cs.dropWhile isDigit
      | _ => return cs
  | _ => return cs

/-- Whether the rest of a date with a time is a distance from universal time, or nothing. -/
def isOffset : List Char → Bool
  | [] | ['Z'] | ['z'] => true
  | sign :: cs => (sign = '+' || sign = '-') && clock? cs == some []

/-- Whether a word is a date, a time, or a date and a time. -/
def isDatetime (word : List Char) : Bool :=
  match date? word with
  | some [] => true
  | some (c :: cs) => (c = 'T' || c = 't' || c = ' ') && (time? cs).any isOffset
  | none => time? word == some []

/-- The value of a word. -/
def scalar? (word : List Char) : Option Value :=
  if word = ['t', 'r', 'u', 'e'] then some (.boolean true)
  else if word = ['f', 'a', 'l', 's', 'e'] then some (.boolean false)
  else
    integer? word
      <|> float? word
      <|> if isDatetime word then some .datetime else none

/-- A scalar without quotes. A date may be followed by a blank and a time. -/
def scalar : Parse Value := do
  let word ← takeWhile isScalar
  let rest ← get
  match date? word, rest with
  | some [], ' ' :: c :: cs =>
      if isDigit c then
        set (c :: cs)
        let time ← takeWhile isScalar
        scalar? (word ++ ' ' :: time)
      else scalar? word
  | _, _ => scalar? word

end RunSweep.Toml
