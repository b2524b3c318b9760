import RoadWeather.Number.Binary64

/-!
# Decimal numbers

The decimals that stand for a double: the shortest one that reads back as it, and its rounding to
a fixed number of places. Both are exact computations on the value `significand · 2 ^ exponent`.

The shortest decimal is looked for on the grids `10 ^ g`, coarsest first. On each grid only the two
neighbours of the value can be nearest to it, and the first grid on which one of them rounds back
to the double holds the answer, so no grid finer than 17 digits is ever reached.
-/

namespace RoadWeather

/-- The number `digits · 10 ^ exponent`. -/
structure Decimal where
  digits : Nat
  exponent : Int
  deriving DecidableEq, Repr

namespace Decimal

/-! ## Shortest decimals -/

/-- The reals that round to `significand · 2 ^ exponent`, as bounds in quarters of its last place.

The gap below a power of two is half as wide. The bounds themselves round to the value when its
significand is even. -/
structure RoundingInterval where
  low : Nat
  high : Nat
  closed : Bool
  deriving Repr

def RoundingInterval.of (significand : Nat) (exponent : Int) : RoundingInterval where
  low := 4 * significand -
    (if significand = Nat.pow 2 52 ∧ Binary64.leastExponent < exponent then 1 else 2)
  high := 4 * significand + 2
  closed := significand % 2 = 0

/-- Whether the interval, its bounds scaled by `scale`, holds `n`. -/
def RoundingInterval.holds (r : RoundingInterval) (scale n : Nat) : Bool :=
  if r.closed then r.low * scale ≤ n ∧ n ≤ r.high * scale
  else r.low * scale < n ∧ n < r.high * scale

/-- The multiple of `10 ^ grid` nearest to `significand · 2 ^ exponent` among those that round
to it, if there is one. -/
def onGrid (tie : Tie) (significand : Nat) (exponent grid : Int) : Option Decimal :=
  let quarter := exponent - 2
  let scale := Nat.pow 2 quarter.toNat * Nat.pow 10 (-grid).toNat
  let unit := Nat.pow 2 (-quarter).toNat * Nat.pow 10 grid.toNat
  let value := 4 * significand * scale
  let interval := RoundingInterval.of significand exponent
  let below := value / unit
  let above := below + 1
  -- The nearer neighbour comes first; the other one counts only if the nearer is out of reach.
  let candidates :=
    if roundQuotient tie value unit = below then [below, above] else [above, below]
  (candidates.find? fun n ↦ interval.holds scale (n * unit)).map (⟨·, grid⟩)

/-- A power of ten at or above `significand · 2 ^ exponent`, and at most two too large. -/
def coarsestGrid (significand : Nat) (exponent : Int) : Int :=
  (significand.log2 + exponent + 1) * 30103 / 100000 + 1

/-- The shortest decimal that rounds to `significand · 2 ^ exponent`, nearest to it among those. -/
def shortest (tie : Tie) (significand : Nat) (exponent : Int) : Decimal :=
  let start := coarsestGrid significand exponent
  let grids := (List.range 20).map fun i ↦ start - (i : Nat)
  (grids.findSome? (onGrid tie significand exponent)).getD ⟨0, 0⟩

/-! ## Fixed places -/

/-- `significand · 2 ^ exponent` in units of `10 ^ -places`, rounded to the nearest, ties to
even. -/
def inPlaces (places significand : Nat) (exponent : Int) : Nat :=
  roundQuotient .even (significand * Nat.pow 2 exponent.toNat * Nat.pow 10 places)
    (Nat.pow 2 (-exponent).toNat)

end Decimal

end RoadWeather
