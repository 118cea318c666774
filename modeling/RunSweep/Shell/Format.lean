import RunSweep.Shell.Arithmetic

/-!
# Escapes and formats

What `echo` and `printf` print. A format is used again as long as it takes arguments and some are left.

This is a part of the machine's shell, of which nothing is claimed.
-/

namespace RunSweep.Shell

/-- An octal digit. -/
def isOctal (c : Char) : Bool :=
  '0' ≤ c && c ≤ '7'

/-- The digits at the front of a text, at most `n`. -/
def leadingDigits (ok : Char → Bool) (n : Nat) (cs : List Char) : List Char :=
  (cs.take n).takeWhile ok

/-- The byte of a number, as a character. -/
def byteChar (n : Nat) : Char :=
  Char.ofNat (n % 256)

/-- The value of digits to a base. -/
def digitsValue (base : Nat) (ds : List Char) : Nat :=
  ds.foldl
    (fun n c =>
      base * n + (if c.isDigit then c.toNat - '0'.toNat else c.toLower.toNat - 'a'.toNat + 10)) 0

/-- The escapes of one character. -/
def simpleEscapes : List (Char × Nat) :=
  [('a', 7), ('b', 8), ('t', 9), ('n', 10), ('v', 11), ('f', 12), ('r', 13), ('\\', 92)]

/-- Further escapes, which only some programs know. -/
def furtherEscapes : List (Char × Nat) :=
  [('e', 27), ('"', 34)]

/-- **The text that escapes stand for**, and whether it was cut off. Octal numbers start with a zero of
their own in an argument, and not in a format. `further` admits hexadecimal numbers and more. -/
def unescape (argument further : Bool) (read : List Char) : Nat → List Char → List Char × Bool
  | 0, _ => (read.reverse, false)
  | _ + 1, [] => (read.reverse, false)
  | fuel + 1, '\\' :: c :: rest =>
      let digits := leadingDigits isOctal 3 (c :: rest)
      if argument && c = 'c' then (read.reverse, true)
      else if argument && c = '0' then
        let digits := leadingDigits isOctal 3 rest
        unescape argument further (byteChar (digitsValue 8 digits) :: read) fuel
          (rest.drop digits.length)
      else if !digits.isEmpty then
        unescape argument further (byteChar (digitsValue 8 digits) :: read) fuel
          ((c :: rest).drop digits.length)
      else if further && c = 'x' then
        let digits := leadingDigits (fun d => d.isDigit || ('a' ≤ d.toLower && d.toLower ≤ 'f')) 2 rest
        if digits.isEmpty then unescape argument further ('x' :: '\\' :: read) fuel rest
        else
          unescape argument further (byteChar (digitsValue 16 digits) :: read) fuel
            (rest.drop digits.length)
      else
        match (simpleEscapes ++ if further then furtherEscapes else []).lookup c with
        | some n => unescape argument further (byteChar n :: read) fuel rest
        | none => unescape argument further ('\\' :: read) fuel (c :: rest)
  | fuel + 1, c :: rest => unescape argument further (c :: read) fuel rest

/-- The text of an argument whose escapes are read, and whether it was cut off. -/
def unescapeArgument (further : Bool) (s : String) : List Char × Bool :=
  unescape true further [] (s.length + 1) s.toList

/-! ## Formats -/

/-- How one argument is printed. -/
structure Directive where
  left : Bool := false
  zeros : Bool := false
  plus : Bool := false
  width : Nat := 0
  precision : Option Nat := none
  conversion : Char

/-- A part of a format. -/
inductive FormatPart where
  | text (cs : List Char)
  | directive (d : Directive)

/-- Read a directive behind its percent sign. -/
def directive? (cs : List Char) : Option (Directive × List Char) :=
  let flags := cs.takeWhile fun c => ['-', '0', '+', ' ', '#'].contains c
  let cs := cs.drop flags.length
  let width := cs.takeWhile Char.isDigit
  let cs := cs.drop width.length
  let (precision, cs) :=
    match cs with
    | '.' :: rest =>
        let digits := rest.takeWhile Char.isDigit
        (some (digitsValue 10 digits), rest.drop digits.length)
    | _ => (none, cs)
  match cs with
  | [] => none
  | conversion :: rest =>
      some
        ({ left := flags.contains '-', zeros := flags.contains '0', plus := flags.contains '+'
           width := digitsValue 10 width, precision, conversion }, rest)

/-- The parts of a format. -/
def formatParts (further : Bool) : Nat → List Char → List FormatPart
  | 0, _ => []
  | _ + 1, [] => []
  | fuel + 1, '%' :: '%' :: rest => .text ['%'] :: formatParts further fuel rest
  | fuel + 1, '%' :: rest =>
      match directive? rest with
      | some (d, rest) => .directive d :: formatParts further fuel rest
      | none => [.text ['%']]
  | fuel + 1, cs =>
      let plain := cs.takeWhile (· != '%')
      .text (unescape false further [] (plain.length + 1) plain).1
        :: formatParts further fuel (cs.drop plain.length)

/-- Fill a text up to a width. -/
def Directive.pad (d : Directive) (cs : List Char) : List Char :=
  let gap := d.width - cs.length
  if d.left then cs ++ List.replicate gap ' '
  else
    match d.zeros && d.precision.isNone, cs with
    | true, '-' :: ds => '-' :: List.replicate gap '0' ++ ds
    | true, ds => List.replicate gap '0' ++ ds
    | false, cs => List.replicate gap ' ' ++ cs

/-- The integer that an argument denotes; a quote in front of a character denotes its number. -/
def argumentNumber? (s : String) : Option Int :=
  match s.toList with
  | [] => some 0
  | '\'' :: c :: _ | '"' :: c :: _ => some c.toNat
  | _ => Arithmetic.ofValue? s

/-- The digits of a number to a base, with at least as many digits as the precision says. -/
def Directive.number (d : Directive) (base : Nat) (upper : Bool) (n : Int) : List Char :=
  let digits := Nat.toDigits base n.natAbs
  let digits := if upper then digits.map Char.toUpper else digits
  let digits := List.replicate ((d.precision.getD 0) - digits.length) '0' ++ digits
  if n < 0 then '-' :: digits else if d.plus then '+' :: digits else digits

/-- A number that no conversion shows as negative. -/
def unsignedValue (n : Int) : Int :=
  n % UInt64.size

/-- **What a directive prints for an argument**, whether that is all, and whether the argument was no
number where one was needed. -/
def Directive.print (d : Directive) (further : Bool) (arg : String) : List Char × Bool × Bool :=
  let number (base : Nat) (upper signed : Bool) : List Char × Bool × Bool :=
    let n := (argumentNumber? arg).getD 0
    (d.pad (d.number base upper (if signed then n else unsignedValue n)), false,
      (argumentNumber? arg).isNone)
  match d.conversion with
  | 'd' | 'i' => number 10 false true
  | 'u' => number 10 false false
  | 'o' => number 8 false false
  | 'x' => number 16 false false
  | 'X' => number 16 true false
  | 'c' => (d.pad (arg.toList.take 1), false, false)
  | 'b' =>
      let (cs, stopped) := unescapeArgument further arg
      (d.pad cs, stopped, false)
  | _ =>
      let shown := arg.toList.take (d.precision.getD arg.length)
      (Directive.pad { d with zeros := false } shown, false, false)

/-- What a format printed. -/
structure Printout where
  text : List Char := []
  /-- The arguments that are left. -/
  args : List String
  /-- The arguments that were no numbers. -/
  bad : List String := []
  stopped : Bool := false

/-- Print the parts of a format once. -/
def printParts (further : Bool) (parts : List FormatPart) (args : List String) : Printout :=
  parts.foldl
    (fun out part =>
      if out.stopped then out
      else
        match part with
        | .text cs => { out with text := out.text ++ cs }
        | .directive d =>
            let arg := out.args.headD ""
            let (cs, stopped, bad) := d.print further arg
            { text := out.text ++ cs, args := out.args.tail, stopped
              bad := if bad then out.bad ++ [arg] else out.bad })
    { args }

/-- Print a format again and again. -/
def printAgain (further : Bool) (parts : List FormatPart) : Nat → Printout → Printout
  | 0, out => out
  | fuel + 1, out =>
      if out.stopped || out.args.isEmpty then out
      else
        let next := printParts further parts out.args
        printAgain further parts fuel
          { next with text := out.text ++ next.text, bad := out.bad ++ next.bad }

/-- Whether a part takes an argument. -/
def FormatPart.takes : FormatPart → Bool
  | directive _ => true
  | text _ => false

/-- **What a format prints for some arguments.** -/
def printFormat (further : Bool) (format : String) (args : List String) : Printout :=
  let parts := formatParts further (format.length + 1) format.toList
  let first := printParts further parts args
  if parts.any FormatPart.takes then printAgain further parts args.length first else first

end RunSweep.Shell
