/-!
The binary floating-point numbers of 64 bits, in exact integer arithmetic. A finite number is
`significand * 2 ^ exponent`; every operation rounds its exact result to the nearest number, and a
tie to the even significand.
-/

namespace QueryShell

inductive Binary64 where
  | nan
  | infinite (negative : Bool)
  | finite (negative : Bool) (significand : Nat) (exponent : Int)
deriving DecidableEq, Repr

namespace Binary64

def leastExponent : Int := -1074

def greatestExponent : Int := 971

def zero (negative : Bool) : Binary64 := .finite negative 0 leastExponent

def roundQuotient (numerator denominator : Nat) : Nat :=
  let quotient := numerator / denominator
  let doubled := 2 * (numerator % denominator)
  if doubled > denominator || (doubled = denominator && quotient % 2 = 1) then quotient + 1
  else quotient

def reachesPower (numerator denominator : Nat) (power : Int) : Bool :=
  if power ≥ 0 then denominator * Nat.pow 2 power.toNat ≤ numerator
  else denominator ≤ numerator * Nat.pow 2 (-power).toNat

def floorLog2 (numerator denominator : Nat) : Int :=
  let estimate : Int := (Nat.log2 numerator : Int) - (Nat.log2 denominator : Int)
  if reachesPower numerator denominator estimate then estimate else estimate - 1

def significandAt (numerator denominator : Nat) (exponent : Int) : Nat :=
  if exponent ≥ 0 then roundQuotient numerator (denominator * Nat.pow 2 exponent.toNat)
  else roundQuotient (numerator * Nat.pow 2 (-exponent).toNat) denominator

def ofQuotient (negative : Bool) (numerator denominator : Nat) : Binary64 :=
  if numerator = 0 then zero negative
  else
    let exponent := max (floorLog2 numerator denominator - 52) leastExponent
    let significand := significandAt numerator denominator exponent
    let (significand, exponent) :=
      if significand = Nat.pow 2 53 then (Nat.pow 2 52, exponent + 1) else (significand, exponent)
    if exponent > greatestExponent then .infinite negative
    else .finite negative significand exponent

def numerator (significand : Nat) (exponent : Int) : Nat := significand * Nat.pow 2 exponent.toNat

def denominator (exponent : Int) : Nat := Nat.pow 2 (-exponent).toNat

def signed (negative : Bool) (magnitude : Nat) : Int :=
  if negative then -(magnitude : Int) else magnitude

def less : Binary64 → Binary64 → Bool
  | .nan, _ => false
  | _, .nan => false
  | .infinite negative, .infinite otherNegative => negative && !otherNegative
  | .infinite negative, .finite .. => negative
  | .finite .., .infinite negative => !negative
  | .finite negative significand exponent, .finite otherNegative other otherExponent =>
      signed negative (numerator significand exponent * denominator otherExponent) <
        signed otherNegative (numerator other otherExponent * denominator exponent)

def divide : Binary64 → Binary64 → Binary64
  | .nan, _ => .nan
  | _, .nan => .nan
  | .infinite _, .infinite _ => .nan
  | .infinite negative, .finite otherNegative .. => .infinite (negative != otherNegative)
  | .finite negative .., .infinite otherNegative => zero (negative != otherNegative)
  | .finite negative significand exponent, .finite otherNegative other otherExponent =>
      if other = 0 then
        if significand = 0 then .nan else .infinite (negative != otherNegative)
      else
        ofQuotient (negative != otherNegative)
          (numerator significand exponent * denominator otherExponent)
          (numerator other otherExponent * denominator exponent)

def toInt64 : Binary64 → Int
  | .nan => 0
  | .infinite negative => if negative then -0x8000000000000000 else 0x7FFFFFFFFFFFFFFF
  | .finite negative significand exponent =>
      let whole := signed negative (numerator significand exponent / denominator exponent)
      max (-0x8000000000000000) (min 0x7FFFFFFFFFFFFFFF whole)

end Binary64

end QueryShell
