/-!
# Binary floating-point numbers, taken apart

`Binary64.ofFloat` reads the 64 bits of a `Float` as what they denote: not a number, an infinity, or a
sign with a natural number times a power of two. Everything this library decides about a float (whether
it is finite, negative or whole, and how it is written) it decides on that exact value.
-/

namespace RunSweep

/-- What a float denotes. A finite value is `mantissa * 2 ^ exponent` with its sign; `lowEdge` tells
that it is a power of two whose lower neighbour is nearer than its upper one. -/
inductive Binary64 where
  | notANumber
  | infinite (negative : Bool)
  | finite (negative : Bool) (mantissa : Nat) (exponent : Int) (lowEdge : Bool)
  deriving DecidableEq

namespace Binary64

/-- The value of the 64 bits `bits`: a sign bit, 11 bits of exponent and 52 bits of fraction. -/
def ofBits (bits : Nat) : Binary64 :=
  let negative : Bool := bits / Nat.pow 2 63 % 2 == 1
  let biased : Nat := bits / Nat.pow 2 52 % Nat.pow 2 11
  let fraction : Nat := bits % Nat.pow 2 52
  if biased = 2047 then
    if fraction = 0 then .infinite negative else .notANumber
  else if biased = 0 then .finite negative fraction (-1074) false
  else .finite negative (Nat.pow 2 52 + fraction) (biased - 1075) (fraction == 0 && 1 < biased)

/-- What a float denotes. -/
def ofFloat (x : Float) : Binary64 :=
  ofBits x.toBits.toNat

/-- Whether the value is a number, infinities apart. -/
def isFinite : Binary64 → Bool
  | finite .. => true
  | _ => false

/-- Whether the value is below zero; neither zero is. -/
def isNegative : Binary64 → Bool
  | notANumber => false
  | infinite negative => negative
  | finite negative mantissa _ _ => negative && mantissa != 0

/-- Whether the value is an integer. -/
def isWhole : Binary64 → Bool
  | finite _ mantissa exponent _ => mantissa % Nat.pow 2 (-exponent).toNat == 0
  | _ => false

end Binary64

end RunSweep
