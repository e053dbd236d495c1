/-
This file finds the fewest decimal digits that read back as a given binary number. The work is
done in natural numbers: a number is a significand times a power of two, the reals that round to
it form an interval, and the answer is the point nearest to it on the coarsest decimal grid that
meets the interval.
-/

namespace PluginHost.Decimal

/-- The number `significand * 2 ^ exponent`. The gap below a power of two is half the gap above. -/
structure Binary where
  significand : Nat
  exponent : Int
  narrowBelow : Bool
deriving Repr

/-- The number `digits * 10 ^ exponent`. -/
structure Digits where
  digits : Nat
  exponent : Int
deriving Repr, DecidableEq

/-- Reads the fields of a finite double without its sign. -/
def Binary.ofBits (bits : UInt64) : Binary :=
  let biased := (bits.toNat / Nat.pow 2 52) % Nat.pow 2 11
  let fraction := bits.toNat % Nat.pow 2 52
  if biased = 0 then ⟨fraction, -1074, false⟩
  else ⟨fraction + Nat.pow 2 52, Int.ofNat biased - 1075, fraction == 0 && biased > 1⟩

/-- A quarter of the last binary place is the common unit of the value and its interval. -/
structure Interval where
  low : Nat
  value : Nat
  high : Nat
  unit : Nat
  closed : Bool

/-- All four numbers stand over the same power of ten, so that a grid point is a multiple of
`unit`. -/
def Binary.interval (number : Binary) (grid : Int) : Interval :=
  let twos := number.exponent - 2
  let up := Nat.pow 2 twos.toNat * Nat.pow 10 (-grid).toNat
  let below := if number.narrowBelow then 1 else 2
  { low := (4 * number.significand - below) * up
    value := 4 * number.significand * up
    high := (4 * number.significand + 2) * up
    unit := Nat.pow 2 (-twos).toNat * Nat.pow 10 grid.toNat
    closed := number.significand % 2 == 0 }

def Interval.holds (interval : Interval) (point : Nat) : Bool :=
  if interval.closed then interval.low ≤ point && point ≤ interval.high
  else interval.low < point && point < interval.high

/-- Of two grid points in the interval the nearer one is taken, and the even one on a tie. -/
def Interval.nearest? (interval : Interval) : Option Nat :=
  let lower := interval.value / interval.unit
  let upper := lower + 1
  let lowerFits := lower ≠ 0 && interval.holds (lower * interval.unit)
  let upperFits := interval.holds (upper * interval.unit)
  let below := interval.value - lower * interval.unit
  let above := upper * interval.unit - interval.value
  if lowerFits && upperFits then
    if below < above || (below == above && lower % 2 == 0) then some lower else some upper
  else if lowerFits then some lower
  else if upperFits then some upper
  else none

/-- Tries ever finer grids. -/
def Binary.search (number : Binary) : Nat → Int → Digits
  | 0, grid => ⟨0, grid⟩
  | steps + 1, grid =>
    match (number.interval grid).nearest? with
    | some point => ⟨point, grid⟩
    | none => number.search steps (grid - 1)

/-- No grid coarser than the first one tried has a point below twice the number. -/
def Binary.shortest (number : Binary) : Digits :=
  if number.significand = 0 then ⟨0, 0⟩
  else
    let bits := Int.ofNat (Nat.log2 number.significand) + 1 + number.exponent
    number.search 22 (bits * 30103 / 100000 + 1)

end PluginHost.Decimal
