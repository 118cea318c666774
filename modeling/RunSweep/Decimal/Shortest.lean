import RunSweep.Decimal.Binary64

/-!
# Shortest decimal digits

The reals that round to one float form an interval, with its ends if the float's mantissa is even. The
float is written with the fewest digits that stay inside: on the coarsest grid of multiples of a power
of ten that meets the interval, the multiple nearest to the float, and the larger one at an exact tie.

The notation is positional without an exponent. Both zeros keep their sign, and the values that are not
numbers have names.
-/

namespace RunSweep

namespace Decimal

/-- The interval of reals that round to a positive float, in units that make `low`, `value` and `high`
natural numbers over one denominator: each stands for itself divided by `unit`. -/
structure Interval where
  low : Nat
  value : Nat
  high : Nat
  unit : Nat
  closed : Bool

/-- The interval around `mantissa * 2 ^ exponent`. The lower end is half as far when the mantissa is at
the low edge of its power of two. -/
def Interval.around (mantissa : Nat) (exponent : Int) (lowEdge : Bool) : Interval :=
  let scale := Nat.pow 2 (exponent - 2).toNat
  { low := (4 * mantissa - if lowEdge then 1 else 2) * scale
    value := 4 * mantissa * scale
    high := (4 * mantissa + 2) * scale
    unit := Nat.pow 2 (2 - exponent).toNat
    closed := mantissa % 2 == 0 }

/-- The same interval for values multiplied by `10 ^ -power`, so that the multiples of `10 ^ power`
become the natural numbers. -/
def Interval.inTens (i : Interval) (power : Int) : Interval :=
  let up := Nat.pow 10 (-power).toNat
  { i with low := i.low * up, value := i.value * up, high := i.high * up,
           unit := i.unit * Nat.pow 10 power.toNat }

/-- Whether the natural number `n` lies in the interval. -/
def Interval.holds (i : Interval) (n : Nat) : Bool :=
  if i.closed then i.low ≤ n * i.unit && n * i.unit ≤ i.high
  else i.low < n * i.unit && n * i.unit < i.high

/-- The natural number in the interval that is nearest to its value, the larger one at a tie. Only the
two neighbours of the value can be nearest. -/
def Interval.nearest? (i : Interval) : Option Nat :=
  let below := i.value / i.unit
  let rest := i.value % i.unit
  let above := if rest = 0 then below else below + 1
  match i.holds below, i.holds above with
  | true, true => some (if 2 * rest < i.unit then below else above)
  | true, false => some below
  | false, true => some above
  | false, false => none

/-- A positive decimal number `digits * 10 ^ power`. -/
structure Scaled where
  digits : Nat
  power : Int

/-- Search the grids from `10 ^ power` downwards, at most `steps` of them. -/
def Interval.coarsest (i : Interval) (power : Int) : Nat → Scaled
  | 0 => ⟨0, 0⟩
  | steps + 1 =>
      match (i.inTens power).nearest? with
      | some digits => ⟨digits, power⟩
      | none => i.coarsest (power - 1) steps

/-- A power of ten above every number below `2 ^ bits`: the ratio of the logarithms is a little less
than `30103 / 100000`. -/
def tensAbove (bits : Int) : Int :=
  bits * 30103 / 100000 + 1

/-- The shortest decimal for a positive float. The grids are tried from above the float's magnitude
down to the units of its own binary expansion, on which it lies itself. -/
def shortest (mantissa : Nat) (exponent : Int) (lowEdge : Bool) : Scaled :=
  let bits := (Nat.log2 mantissa + 2 : Nat) + exponent
  (Interval.around mantissa exponent lowEdge).coarsest (tensAbove bits) 1200

/-- The decimal digits of a natural number, at least one. -/
def digitsOf (n : Nat) : List Char :=
  Nat.toDigits 10 n

/-- Positional notation: a point only where digits follow it, and a zero before it if nothing else
stands there. -/
def Scaled.positional (d : Scaled) : List Char :=
  match d.power with
  | .ofNat zeros => digitsOf d.digits ++ List.replicate zeros '0'
  | .negSucc n =>
      let places := n + 1
      let digits := digitsOf d.digits
      let padded := List.replicate (places + 1 - digits.length) '0' ++ digits
      padded.take (padded.length - places) ++ '.' :: padded.drop (padded.length - places)

end Decimal

open Decimal

/-- The digits of a finite value without its sign. -/
def Binary64.magnitude (mantissa : Nat) (exponent : Int) (lowEdge : Bool) : List Char :=
  if mantissa = 0 then ['0'] else (shortest mantissa exponent lowEdge).positional

/-- A float in positional notation with the fewest digits that read back. -/
def Binary64.render : Binary64 → String
  | notANumber => "NaN"
  | infinite negative => if negative then "-inf" else "inf"
  | finite negative mantissa exponent lowEdge =>
      String.ofList ((if negative then ['-'] else []) ++ magnitude mantissa exponent lowEdge)

/-- A float in positional notation with the fewest digits that read back. -/
def renderFloat (x : Float) : String :=
  (Binary64.ofFloat x).render

end RunSweep
