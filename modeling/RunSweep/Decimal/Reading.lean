import RunSweep.Text.Utf8

/-!
# Reading decimal numbers

`Numeral` is a decimal number as written: a sign, digits and a power of ten. `Numeral.toFloat` is the
nearest float. `readFloat` reads the free notation of command-line arguments, and `readNatural` a plain
natural number below a bound; both say why a text is refused.
-/

namespace RunSweep

/-- A decimal number `digits * 10 ^ power`, negated if `negative`. -/
structure Numeral where
  negative : Bool
  digits : Nat
  power : Int

namespace Numeral

/-- The nearest float to the number. A power of ten that no digit of a float can reach is cut off
first, so that the work stays within the length of the text. -/
def toFloat (n : Numeral) : Float :=
  let length : Int := (Nat.toDigits 10 n.digits).length
  let size :=
    if n.digits = 0 || length + n.power < -400 then 0.0
    else if length + n.power > 400 then 1.0 / 0.0
    else Float.ofScientific n.digits (n.power < 0) n.power.natAbs
  if n.negative then -size else size

end Numeral

/-- Whether a character is an ASCII digit. -/
def isDigit (c : Char) : Bool :=
  '0' ≤ c && c ≤ '9'

/-- The natural number that a list of digits denotes. -/
def ofDigits (cs : List Char) : Nat :=
  cs.foldl (fun n c => 10 * n + (c.toNat - '0'.toNat)) 0

/-- A leading sign, and what follows it. -/
def takeSign : List Char → Bool × List Char
  | '-' :: cs => (true, cs)
  | '+' :: cs => (false, cs)
  | cs => (false, cs)

/-- Why a text is not a number. -/
inductive NumberFault where
  | emptyFloat
  | invalidFloat
  | emptyInteger
  | invalidDigit
  | tooLarge
  deriving DecidableEq

/-- The wording of a refusal. -/
def NumberFault.message : NumberFault → String
  | emptyFloat => "cannot parse float from empty string"
  | invalidFloat => "invalid float literal"
  | emptyInteger => "cannot parse integer from empty string"
  | invalidDigit => "invalid digit found in string"
  | tooLarge => "number too large to fit in target type"

/-- An exponent: nothing, or a letter `e`, a sign if any and at least one digit. -/
def readExponent? : List Char → Option Int
  | [] => some 0
  | e :: cs =>
      let (negative, digits) := takeSign cs
      if (e = 'e' || e = 'E') && !digits.isEmpty && digits.all isDigit then
        some (if negative then -(ofDigits digits : Int) else ofDigits digits)
      else none

/-- An unsigned decimal with at least one digit, its point anywhere among the digits or at an end. -/
def readUnsigned? (negative : Bool) (cs : List Char) : Option Numeral :=
  let whole := cs.takeWhile isDigit
  let rest := cs.dropWhile isDigit
  let (fraction, rest) :=
    match rest with
    | '.' :: tail => (tail.takeWhile isDigit, tail.dropWhile isDigit)
    | _ => ([], rest)
  if whole.isEmpty && fraction.isEmpty then none
  else
    (readExponent? rest).map fun exponent =>
      ⟨negative, ofDigits (whole ++ fraction), exponent - fraction.length⟩

/-- A float in free notation: a sign, then digits with a point and an exponent as they please, or the
name of an infinity or of no number in any case of its letters. -/
def readFloat (text : String) : Except NumberFault Float :=
  if text.isEmpty then .error .emptyFloat
  else
    let (negative, body) := takeSign text.toList
    let sign (x : Float) : Float := if negative then -x else x
    let name := String.ofList (body.map Char.toLower)
    if name = "inf" || name = "infinity" then .ok (sign (1.0 / 0.0))
    else if name = "nan" then .ok (0.0 / 0.0)
    else
      match readUnsigned? negative body with
      | some n => .ok n.toFloat
      | none => .error .invalidFloat

/-- Read digits onto `value`, from left to right; the first character that is no digit, or that takes
the number to `bound`, decides the refusal. -/
def readDigits (bound : Nat) (value : Nat) : List Char → Except NumberFault Nat
  | [] => .ok value
  | c :: cs =>
      if !isDigit c then .error .invalidDigit
      else
        let next := 10 * value + (c.toNat - '0'.toNat)
        if next < bound then readDigits bound next cs else .error .tooLarge

/-- A natural number below `bound`: digits, with a plus sign in front if any. -/
def readNatural (bound : Nat) (text : String) : Except NumberFault Nat :=
  match text.toList with
  | [] => .error .emptyInteger
  | ['+'] => .error .invalidDigit
  | '+' :: cs => readDigits bound 0 cs
  | cs => readDigits bound 0 cs

end RunSweep
