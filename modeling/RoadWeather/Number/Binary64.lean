import RoadWeather.Number.Rounding

/-!
# Doubles as exact numbers

A double is read as a sign and `significand · 2 ^ exponent`, and written back as the double
nearest to an exact quotient. Everything the library says about the text of a number goes through
these two directions, so no statement depends on how a machine prints or reads one.

The nearest double is found on the grid `2 ^ e` that its size prescribes: adding the rounded
significand to the exponent field carries into the next binade, and into infinity, by itself.
-/

namespace RoadWeather

/-- What a double stands for. A finite one is `± significand · 2 ^ exponent`, zero included. -/
inductive Binary64 where
  | nan
  | infinite (negative : Bool)
  | finite (negative : Bool) (significand : Nat) (exponent : Int)
  deriving DecidableEq, Repr

namespace Binary64

/-- The least exponent, that of the subnormal numbers. -/
def leastExponent : Int := -1074

/-- The bits of positive infinity, just above those of the greatest finite double. -/
def infinityBits : Nat := 0x7ff0000000000000

/-- The exact value of a double. -/
def ofFloat (x : Float) : Binary64 :=
  let bits := x.toBits.toNat
  let negative := decide (Nat.pow 2 63 ≤ bits)
  let field : Nat := bits / Nat.pow 2 52 % Nat.pow 2 11
  let fraction : Nat := bits % Nat.pow 2 52
  if field = 2047 then
    if fraction = 0 then .infinite negative else .nan
  -- Below the least binade there is no hidden bit.
  else if field = 0 then .finite negative fraction leastExponent
  else .finite negative (Nat.pow 2 52 + fraction) ((field : Int) - 1075)

/-! ## The nearest double -/

/-- `⌊log₂ (num / den)⌋` for positive `num` and `den`. -/
def floorLog2 (num den : Nat) : Int :=
  let estimate : Int := num.log2 - den.log2
  -- The logarithms of the parts give the floor or one more than it.
  if den * Nat.pow 2 estimate.toNat ≤ num * Nat.pow 2 (-estimate).toNat then estimate
  else estimate - 1

/-- The bits of the double nearest to `num / den`, ties going to the even significand. -/
def nearestBits (num den : Nat) : Nat :=
  if num = 0 then 0
  else
    let exponent := max leastExponent (floorLog2 num den - 52)
    let significand :=
      roundQuotient .even (num * Nat.pow 2 (-exponent).toNat) (den * Nat.pow 2 exponent.toNat)
    -- The hidden bit adds one to the exponent field, and so does a carry out of the significand.
    min infinityBits ((exponent - leastExponent).toNat * Nat.pow 2 52 + significand)

/-- The double nearest to `± num / den`, an infinity where that is too large. -/
def nearest (negative : Bool) (num den : Nat) : Float :=
  let magnitude := Float.ofBits (nearestBits num den).toUInt64
  if negative then -magnitude else magnitude

/-- The double nearest to `± n`. -/
def ofNat (negative : Bool) (n : Nat) : Float := nearest negative n 1

/-- The double nearest to `± digits · 10 ^ exponent`.

A decimal far outside the range of the doubles is decided by its size alone, so a huge exponent
costs nothing. -/
def ofDecimal (negative : Bool) (digits : Nat) (exponent : Int) : Float :=
  let size := exponent + (Nat.toDigits 10 digits).length
  if digits = 0 ∨ size < -400 then nearest negative 0 1
  else if 400 < size then nearest negative (Nat.pow 2 1024) 1
  else nearest negative (digits * Nat.pow 10 exponent.toNat) (Nat.pow 10 (-exponent).toNat)

/-! ## Rounding to an integer -/

/-- The integer nearest to a finite double, half way cases going away from zero. -/
def nearestInteger? (x : Float) : Option Int :=
  match ofFloat x with
  | .nan => none
  | .infinite _ => none
  | .finite negative significand exponent =>
    let magnitude := roundQuotient .up (significand * Nat.pow 2 exponent.toNat)
      (Nat.pow 2 (-exponent).toNat)
    some (if negative then -(magnitude : Int) else magnitude)

/-- An integer as the nearest double. -/
def ofInt (n : Int) : Float := ofNat (n < 0) n.natAbs

end Binary64

end RoadWeather
