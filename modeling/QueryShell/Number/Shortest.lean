import QueryShell.Number.Binary64

/-!
The shortest decimal text that reads back as the same number: the fewest digits that lie in the
interval of reals which round to the number, and among those the nearest to it. The text is always
positional.
-/

namespace QueryShell.Shortest

/-- The number `4 * significand` in quarter units of the last binary place, with the ends of the
interval of reals that round to it. `closed` tells whether the ends belong to it. -/
structure Interval where
  low : Nat
  middle : Nat
  high : Nat
  unitNumerator : Nat
  unitDenominator : Nat
  closed : Bool

def intervalOf (significand : Nat) (exponent : Int) : Interval :=
  let narrow := significand = Nat.pow 2 52 && exponent > Binary64.leastExponent
  let quarter := exponent - 2
  { low := 4 * significand - (if narrow then 1 else 2)
    middle := 4 * significand
    high := 4 * significand + 2
    unitNumerator := Nat.pow 2 quarter.toNat
    unitDenominator := Nat.pow 2 (-quarter).toNat
    closed := significand % 2 = 0 }

def Interval.contains (interval : Interval) (count : Nat) (place : Int) : Bool :=
  let value := count * Nat.pow 10 place.toNat * interval.unitDenominator
  let scale := interval.unitNumerator * Nat.pow 10 (-place).toNat
  let low := interval.low * scale
  let high := interval.high * scale
  if interval.closed then low ≤ value && value ≤ high else low < value && value < high

def Interval.inPlaces (interval : Interval) (place : Int) : Nat × Nat :=
  (interval.middle * interval.unitNumerator * Nat.pow 10 (-place).toNat,
    interval.unitDenominator * Nat.pow 10 place.toNat)

/-- The point of the grid `10 ^ place` next to the number that lies in the interval: the nearer of
its two neighbours if both do. -/
def Interval.gridPoint? (interval : Interval) (place : Int) : Option Nat :=
  let (numerator, denominator) := interval.inPlaces place
  let below := numerator / denominator
  let nearAbove := denominator ≤ 2 * (numerator % denominator)
  let insideBelow := interval.contains below place
  let insideAbove := interval.contains (below + 1) place
  if insideBelow && insideAbove then some (if nearAbove then below + 1 else below)
  else if insideBelow then some below
  else if insideAbove then some (below + 1)
  else none

def Interval.firstPoint (interval : Interval) : Nat → Int → Nat × Int
  | 0, place => (0, place)
  | steps + 1, place =>
      match interval.gridPoint? place with
      | some count => (count, place)
      | none => interval.firstPoint steps (place - 1)

def topPlace (significand : Nat) (exponent : Int) : Int :=
  ((Nat.log2 significand : Int) + exponent + 1) * 30103 / 100000 + 1

def decimalOf (significand : Nat) (exponent : Int) : Nat × Int :=
  (intervalOf significand exponent).firstPoint 24 (topPlace significand exponent)

def positional (count : Nat) (place : Int) : String :=
  if place ≥ 0 then toString (count * Nat.pow 10 place.toNat)
  else
    let places := (-place).toNat
    let whole := count / Nat.pow 10 places
    let fraction := (Nat.toDigits 10 (count % Nat.pow 10 places))
    let fraction := List.replicate (places - fraction.length) '0' ++ fraction
    let fraction := (fraction.reverse.dropWhile (· = '0')).reverse
    if fraction.isEmpty then toString whole
    else toString whole ++ "." ++ String.ofList fraction

def text : Binary64 → String
  | .nan => "NaN"
  | .infinite negative => if negative then "-inf" else "inf"
  | .finite negative significand exponent =>
      let sign := if negative then "-" else ""
      if significand = 0 then sign ++ "0"
      else
        let (count, place) := decimalOf significand exponent
        sign ++ positional count place

def seconds (milliseconds : Nat) : String := positional milliseconds (-3)

end QueryShell.Shortest
