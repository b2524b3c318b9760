import Mathlib
import RoadWeather.Proofs.DoubleOrder
import RoadWeather.Proofs.NearestDouble

/-!
# Products of doubles

The product of two finite doubles is the double nearest to the exact product
(`Binary64.mul_eq_nearest`). What is read off in the end does not mention bits: a product is finite
just if the exact product is below the overflow (`Binary64.isFinite_mul_iff`), and of numbers that
are not negative it is not negative either.

## Residual bits

The logical model multiplies the significands and shifts the product right until it fits. Of the
digits lost, two bits are kept: the first one, and whether any of the others is not zero. They are
what rounding needs. That a mantissa with its two bits keeps a number in this sense
(`Binary64.Represents`) is the invariant of a shift (`Binary64.Represents.shiftRightOne`), and at
the end of all shifts it tells which integer is nearest and which way a tie goes
(`Binary64.Represents.isNearest`).

## Rounding to the format

The mantissa is shifted to the grid that its digits prescribe, which is the grid of the number
itself (`Binary64.grid_of_represents`). Only if all digits are lost do they prescribe nothing, and
then the grid is the finest one anyway. A carry out of the rounded significand shifts once more, and
as nothing but a zero is lost in that, no second rounding happens
(`Binary64.shiftToTargetExponent_carry`). The parts that come of it are on a grid of doubles, but
their exponent may be too large (`Binary64.OnGrid`). These are packed into the bits of an infinity.

## The overflow

It lies half a last place above the greatest finite double (`Binary64.overflow`). A number there is
half way between that double and what would be the next one, and goes to the even one, which is the
infinity.
-/

namespace RoadWeather.Binary64

open Float.Model UnpackedFloat

variable {x y : Float} {negative negative' : Bool} {significand significand' num den : Nat}
  {exponent exponent' : Int}

/-! ## Residual bits -/

/-- The number up to its first binary place, as an extended mantissa keeps it. -/
def halves (em : ExtendedMantissa) : ℚ := em.mantissa + if em.roundBit then 1 / 2 else 0

/-- An extended mantissa keeps a number up to its first binary place, and of the places after it
whether any is left. -/
def Represents (em : ExtendedMantissa) (y : ℚ) : Prop :=
  if em.stickyBit then halves em < y ∧ y < halves em + 1 / 2 else y = halves em

theorem represents_exact (m : Nat) : Represents (.ofMantissaAndAccuracy m .exact) m :=
  (add_zero (m : ℚ)).symm

theorem halves_shiftRightOne (em : ExtendedMantissa) :
    halves em.shiftRightOne = (em.mantissa : ℚ) / 2 := by
  have hsplit : ((em.mantissa % 2 : ℕ) : ℚ) + 2 * (em.mantissa / 2 : ℕ) = em.mantissa := by
    exact_mod_cast Nat.mod_add_div em.mantissa 2
  rw [halves, ExtendedMantissa.shiftRightOne, ← hsplit]
  rcases Nat.mod_two_eq_zero_or_one em.mantissa with hdigit | hdigit
  · rw [hdigit]
    norm_num
  · rw [hdigit]
    norm_num
    ring

/-- One digit less leaves half of the number, and the residual bits keep up with it. -/
theorem Represents.shiftRightOne {em : ExtendedMantissa} {y : ℚ} (h : Represents em y) :
    Represents em.shiftRightOne (y / 2) := by
  rw [Represents, halves_shiftRightOne]
  obtain ⟨m, roundBit, stickyBit⟩ := em
  cases roundBit with
  | false =>
    cases stickyBit with
    | false =>
      obtain rfl : y = m + 0 := h
      exact congrArg (· / 2) (add_zero (m : ℚ))
    | true =>
      obtain ⟨hlow, hhigh⟩ : (m : ℚ) + 0 < y ∧ y < m + 0 + 1 / 2 := h
      exact ⟨by linarith, by linarith⟩
  | true =>
    cases stickyBit with
    | false =>
      obtain rfl : y = m + 1 / 2 := h
      exact ⟨by linarith, by linarith⟩
    | true =>
      obtain ⟨hlow, hhigh⟩ : (m : ℚ) + 1 / 2 < y ∧ y < m + 1 / 2 + 1 / 2 := h
      exact ⟨by linarith, by linarith⟩

theorem Represents.shiftRight {em : ExtendedMantissa} {y : ℚ} (h : Represents em y) (n : Nat) :
    Represents (em >>> n) (y / 2 ^ n) := by
  change Represents (n.repeat ExtendedMantissa.shiftRightOne em) _
  induction n with
  | zero =>
    rw [pow_zero, div_one]
    exact h
  | succ n ih =>
    rw [pow_succ, div_mul_eq_div_div]
    exact ih.shiftRightOne

theorem mantissa_ofMantissaAndAccuracy (m : Nat) (accuracy : Accuracy) :
    (ExtendedMantissa.ofMantissaAndAccuracy m accuracy).mantissa = m := by
  cases accuracy with
  | exact => rfl
  | inexact order => cases order <;> rfl

theorem Represents.between {em : ExtendedMantissa} {y : ℚ} (h : Represents em y) :
    (em.mantissa : ℚ) ≤ y ∧ y < em.mantissa + 1 := by
  have hhalves : (em.mantissa : ℚ) ≤ halves em ∧ halves em ≤ em.mantissa + 1 / 2 := by
    rw [halves]
    split <;> norm_num
  obtain ⟨hlow, hhigh⟩ := hhalves
  rw [Represents] at h
  split at h
  · exact ⟨by linarith, by linarith⟩
  · exact ⟨by linarith, by linarith⟩

/-- Residual bits tell which integer is nearest, and which one is even. -/
theorem Represents.isNearest {em : ExtendedMantissa} {y : ℚ} (h : Represents em y) :
    IsNearest em.roundedMantissa y := by
  obtain ⟨m, roundBit, stickyBit⟩ := em
  cases roundBit with
  | false =>
    have hrounded : (ExtendedMantissa.mk m false stickyBit).roundedMantissa = m := by
      cases stickyBit <;> rfl
    rw [hrounded]
    cases stickyBit with
    | false =>
      obtain rfl : y = m + 0 := h
      exact ⟨by linarith, by linarith, fun _ ↦ ⟨by linarith, by linarith⟩⟩
    | true =>
      obtain ⟨hlow, hhigh⟩ : (m : ℚ) + 0 < y ∧ y < m + 0 + 1 / 2 := h
      exact ⟨by linarith, by linarith, fun _ ↦ ⟨by linarith, by linarith⟩⟩
  | true =>
    cases stickyBit with
    | false =>
      -- Half way: to `m` if that is even, else to the number after it.
      obtain rfl : y = m + 1 / 2 := h
      change IsNearest (m + m % 2) _
      rcases Nat.mod_two_eq_zero_or_one m with heven | hodd
      · rw [heven]
        exact ⟨by push_cast; linarith, by push_cast; linarith, fun h ↦ by omega⟩
      · rw [hodd]
        exact ⟨by push_cast; linarith, by push_cast; linarith, fun h ↦ by omega⟩
    | true =>
      obtain ⟨hlow, hhigh⟩ : (m : ℚ) + 1 / 2 < y ∧ y < m + 1 / 2 + 1 / 2 := h
      change IsNearest (m + 1) _
      exact ⟨by push_cast; linarith, by push_cast; linarith,
        fun _ ↦ ⟨by push_cast; linarith, by push_cast; linarith⟩⟩

/-! ## The grid of a rounded number -/

theorem floorLog2_eq (hnum : num ≠ 0) (hden : den ≠ 0)
    (hlow : (2 : ℚ) ^ exponent ≤ num / den) (hhigh : (num : ℚ) / den < 2 ^ (exponent + 1)) :
    floorLog2 num den = exponent := by
  obtain ⟨hle, hlt⟩ := floorLog2_spec hnum hden
  have habove := (zpow_lt_zpow_iff_right₀ (one_lt_two : (1 : ℚ) < 2)).mp (hlow.trans_lt hlt)
  have hbelow := (zpow_lt_zpow_iff_right₀ (one_lt_two : (1 : ℚ) < 2)).mp (hle.trans_lt hhigh)
  omega

theorem floorLog2_of_value (hsignificand : significand ≠ 0) (hnum : num ≠ 0) (hden : den ≠ 0)
    (hvalue : (num : ℚ) / den = significand * 2 ^ exponent) :
    floorLog2 num den = significand.log2 + exponent := by
  have hlow : (2 : ℚ) ^ (significand.log2 : ℤ) ≤ significand := by
    exact_mod_cast Nat.log2_self_le hsignificand
  have hhigh : (significand : ℚ) < 2 ^ ((significand.log2 : ℤ) + 1) := by
    exact_mod_cast Nat.lt_log2_self
  refine floorLog2_eq hnum hden ?_ ?_
  · rw [hvalue, zpow_add₀ two_ne_zero]
    gcongr
  · rw [hvalue, add_right_comm, zpow_add₀ two_ne_zero]
    gcongr

/-- On its grid, a number has no more than the digits of a significand, and it has all of them
unless the grid is the finest one. -/
theorem grid_bounds (hnum : num ≠ 0) (hden : den ≠ 0)
    (hgrid : max leastExponent (floorLog2 num den - 52) = exponent) :
    (num : ℚ) / den / 2 ^ exponent < 2 ^ 53 ∧
      (exponent = -1074 ∨ (2 : ℚ) ^ 52 ≤ num / den / 2 ^ exponent) := by
  obtain ⟨hle, hlt⟩ := floorLog2_spec hnum hden
  have hunit : (0 : ℚ) < 2 ^ exponent := by positivity
  constructor
  · rw [div_lt_iff₀ hunit, ← zpow_natCast, ← zpow_add₀ two_ne_zero]
    refine hlt.trans_le (zpow_le_zpow_right₀ one_le_two ?_)
    omega
  · rw [or_iff_not_imp_left]
    intro hleast
    rw [le_div_iff₀ hunit, ← zpow_natCast, ← zpow_add₀ two_ne_zero]
    refine (zpow_le_zpow_right₀ one_le_two ?_).trans hle
    simp only [leastExponent] at hgrid
    omega

/-! ## Rounding to the format -/

/-- Parts on the grid of the doubles, of which the exponent may be too large. -/
structure OnGrid (significand : Nat) (exponent : Int) : Prop where
  significand_lt : significand < 2 ^ 53
  le_exponent : -1074 ≤ exponent
  hidden : exponent = -1074 ∨ 2 ^ 52 ≤ significand

theorem OnGrid.isCanonical (h : OnGrid significand exponent)
    (hsize : sizeBits significand exponent < infinityBits) :
    IsCanonical significand exponent := by
  obtain ⟨hlt, hle, hhidden⟩ := h
  simp only [sizeBits, leastExponent, infinityBits] at hsize
  exact ⟨hlt, hle, by omega, hhidden⟩

theorem targetExponent_eq (significand : Nat) (exponent : Int) :
    Format.binary64.targetExponent (totalExponent significand exponent)
      = max leastExponent (significand.log2 + exponent - 52) := by
  change max (((significand.log2 : Int) + 1 + exponent) - 53) (-1074) = _
  simp only [leastExponent]
  omega

theorem shiftToTargetExponent_of_grid {n : Nat} (accuracy : Accuracy)
    (hgrid : max leastExponent (significand.log2 + exponent - 52) = exponent + n) :
    shiftToTargetExponent .binary64 significand exponent accuracy
      = (ExtendedMantissa.ofMantissaAndAccuracy significand accuracy >>> n, exponent + n) := by
  rw [shiftToTargetExponent, shiftToExponent, targetExponent_eq, hgrid, add_sub_cancel_left,
    Int.toNat_natCast]

theorem shiftToTargetExponent_of_lt (hlt : significand < 2 ^ 53) (hle : -1074 ≤ exponent) :
    shiftToTargetExponent .binary64 significand exponent .exact
      = (⟨significand, false, false⟩, exponent) := by
  have hlog : significand.log2 ≤ 52 := by
    rcases eq_or_ne significand 0 with rfl | hne
    · exact Nat.zero_le 52
    · exact Nat.lt_succ_iff.mp ((Nat.log2_lt hne).mpr hlt)
  have hshift : (Format.binary64.targetExponent (totalExponent significand exponent)
      - exponent).toNat = 0 := by
    rw [targetExponent_eq, leastExponent]
    omega
  rw [shiftToTargetExponent, shiftToExponent, hshift]
  exact Prod.ext rfl (add_zero exponent)

/-- A carry out of the significand is shifted back. -/
theorem shiftToTargetExponent_carry (hle : -1074 ≤ exponent) :
    shiftToTargetExponent .binary64 (2 ^ 53) exponent .exact
      = (⟨2 ^ 52, false, false⟩, exponent + 1) := by
  have hshift : (Format.binary64.targetExponent (totalExponent (2 ^ 53) exponent)
      - exponent).toNat = 1 := by
    rw [targetExponent_eq, Nat.log2_two_pow, leastExponent]
    omega
  rw [shiftToTargetExponent, shiftToExponent, hshift]
  rfl

/-- The digits that are left prescribe the grid of the number, unless they are on it already. -/
theorem grid_of_represents {accuracy : Accuracy} {y : ℚ} (hnum : num ≠ 0) (hden : den ≠ 0)
    (hrepresents : Represents (.ofMantissaAndAccuracy significand accuracy) y)
    (hvalue : (num : ℚ) / den = y * 2 ^ exponent)
    (hfine : exponent ≤ max leastExponent (floorLog2 num den - 52)) :
    max leastExponent (significand.log2 + exponent - 52)
      = max leastExponent (floorLog2 num den - 52) := by
  obtain ⟨hlow, hhigh⟩ := hrepresents.between
  rw [mantissa_ofMantissaAndAccuracy] at hlow hhigh
  have hunit : (0 : ℚ) < 2 ^ exponent := by positivity
  by_cases hsignificand : significand = 0
  · -- All digits are lost, which happens on the finest grid only.
    have hsmall : (num : ℚ) / den < 2 ^ exponent := by
      rw [hvalue]
      refine mul_lt_of_lt_one_left hunit ?_
      rwa [hsignificand, Nat.cast_zero, zero_add] at hhigh
    have hpower := (floorLog2_spec hnum hden).1.trans_lt hsmall
    have hfloor := (zpow_lt_zpow_iff_right₀ (one_lt_two : (1 : ℚ) < 2)).mp hpower
    rw [hsignificand, Nat.log2_zero]
    simp only [leastExponent] at hfine ⊢
    omega
  · congr 2
    refine (floorLog2_eq hnum hden ?_ ?_).symm
    · rw [hvalue, zpow_add₀ two_ne_zero]
      have hdigits : (2 : ℚ) ^ (significand.log2 : ℤ) ≤ significand := by
        exact_mod_cast Nat.log2_self_le hsignificand
      exact mul_le_mul_of_nonneg_right (hdigits.trans hlow) hunit.le
    · rw [hvalue, add_right_comm, zpow_add₀ two_ne_zero]
      have hdigits : (significand : ℚ) + 1 ≤ 2 ^ ((significand.log2 : ℤ) + 1) := by
        exact_mod_cast (Nat.lt_log2_self : significand < 2 ^ (significand.log2 + 1))
      exact mul_lt_mul_of_pos_right (hhigh.trans_le hdigits) hunit

/-- **Rounding leads to the nearest bits.** The parts that a number is rounded to are on the grid,
and their bits are the nearest ones unless the exponent is too large. -/
theorem exists_roundWithAccuracy (negative : Bool) {accuracy : Accuracy} {y : ℚ} (hnum : num ≠ 0)
    (hden : den ≠ 0) (hrepresents : Represents (.ofMantissaAndAccuracy significand accuracy) y)
    (hvalue : (num : ℚ) / den = y * 2 ^ exponent)
    (hfine : exponent ≤ max leastExponent (floorLog2 num den - 52)) :
    ∃ m e, roundWithAccuracy .binary64 (sign negative) significand exponent accuracy
        = unpacked negative m e ∧
      OnGrid m e ∧ nearestBits num den = min infinityBits (sizeBits m e) := by
  have hsame := grid_of_represents hnum hden hrepresents hvalue hfine
  obtain ⟨n, hgrid⟩ : ∃ n : ℕ, max leastExponent (floorLog2 num den - 52) = exponent + n := by
    generalize max leastExponent (floorLog2 num den - 52) = grid at hfine
    exact ⟨(grid - exponent).toNat, by omega⟩
  -- The first shift reaches the grid, and rounding there is rounding to the nearest integer.
  have hratio : (num : ℚ) / den / 2 ^ (exponent + n) = y / 2 ^ n := by
    rw [hvalue, zpow_add₀ two_ne_zero, zpow_natCast]
    field_simp
  have hnearest := (hrepresents.shiftRight n).isNearest
  rw [← hratio] at hnearest
  obtain ⟨hbelow, habove⟩ := grid_bounds hnum hden hgrid
  have hle := hnearest.le_of_lt (n := 2 ^ 53) (by exact_mod_cast hbelow)
  have hhidden := habove.imp_right fun h ↦ hnearest.ge_of_le (n := 2 ^ 52) (by exact_mod_cast h)
  have hleast : -1074 ≤ exponent + n := by
    rw [← hgrid]
    exact le_max_left _ _
  rw [roundWithAccuracy, shiftToTargetExponent_of_grid accuracy (hsame.trans hgrid),
    nearestBits_of_exponent hnum hden hgrid hnearest]
  dsimp only
  rcases hle.lt_or_eq with hlt | hcarry
  · rw [shiftToTargetExponent_of_lt hlt hleast]
    exact ⟨_, _, rfl, ⟨hlt, hleast, hhidden⟩, rfl⟩
  · rw [hcarry, shiftToTargetExponent_carry hleast]
    refine ⟨2 ^ 52, exponent + n + 1, rfl, ⟨by decide, by omega, Or.inr le_rfl⟩, ?_⟩
    rw [← sizeBits_power (by omega), add_sub_cancel_right]

/-! ## Bits with a sign

The sign bit is set beside the bits of the size, which never reach it: they are at most those of an
infinity. -/

/-- The bits of a number with a sign. -/
def signedBits (negative : Bool) (size : Nat) : UInt64 :=
  ((if negative then 2 ^ 63 else 0) + size).toUInt64

theorem toNat_signedBits (negative : Bool) {size : Nat} (hsize : size ≤ infinityBits) :
    (signedBits negative size).toNat = (if negative then 2 ^ 63 else 0) + size := by
  refine UInt64.toNat_ofNat_of_lt ?_
  simp only [infinityBits] at hsize
  change _ < 2 ^ 64
  split <;> omega

theorem nearestBits_zero (den : Nat) : nearestBits 0 den = 0 := if_pos rfl

theorem nearestBits_le (num den : Nat) : nearestBits num den ≤ infinityBits := by
  unfold nearestBits
  split
  · exact Nat.zero_le _
  · exact Nat.min_le_left _ _

theorem nearest_eq_ofBits (negative : Bool) (num den : Nat) :
    nearest negative num den = Float.ofBits (signedBits negative (nearestBits num den)) := by
  have hle := nearestBits_le num den
  cases negative with
  | false =>
    rw [nearest, if_neg Bool.false_ne_true, signedBits, if_neg Bool.false_ne_true, zero_add]
  | true =>
    rw [nearest, if_pos rfl]
    rcases hle.lt_or_eq with hlt | heq
    · have hbits : (nearestBits num den).toUInt64.toNat = nearestBits num den :=
        UInt64.toNat_ofNat_of_lt (hlt.trans (by decide))
      refine neg_ofBits (by rw [hbits]; exact hlt) ?_
      rw [toNat_signedBits true hle, hbits]
      rfl
    · rw [heq]
      rfl

theorem ofModel_pack_unpacked (negative : Bool) (h : OnGrid significand exponent) :
    Float.ofModel (.pack (unpacked negative significand exponent))
      = Float.ofBits (signedBits negative (min infinityBits (sizeBits significand exponent))) := by
  rcases Nat.lt_or_ge (sizeBits significand exponent) infinityBits with hlt | hge
  · rw [min_eq_right hlt.le, ← unpack_eq (h.isCanonical hlt) (toNat_signedBits negative hlt.le)]
    rfl
  · have hlarge : 972 ≤ exponent := by
      have hbound := h.significand_lt
      simp only [infinityBits, sizeBits, leastExponent] at hge
      omega
    have hne : significand ≠ 0 := by
      have hhidden := h.hidden
      omega
    have hpack : UnpackedFloat.pack .binary64 (.finite (sign negative) significand exponent
        (Nat.pos_of_ne_zero hne)) = UnpackedFloat.pack .binary64 (.infinity (sign negative)) := by
      rw [UnpackedFloat.pack]
      refine if_pos ?_
      change 2048 ≤ (exponent + 1023 + 52).toNat + 1
      omega
    rw [min_eq_left hge, unpacked, dif_neg hne]
    simp only [Float.Model.pack, hpack]
    cases negative <;> rfl

theorem ofModel_pack_zero (negative : Bool) (den : Nat) :
    Float.ofModel (.pack (.zero (sign negative))) = nearest negative 0 den := by
  rw [nearest_eq_ofBits, nearestBits_zero]
  cases negative <;> rfl

/-- **What a number is rounded to is packed into the nearest double.** -/
theorem ofModel_pack_rounded (negative : Bool) {accuracy : Accuracy} {y : ℚ} (hnum : num ≠ 0)
    (hden : den ≠ 0) (hrepresents : Represents (.ofMantissaAndAccuracy significand accuracy) y)
    (hvalue : (num : ℚ) / den = y * 2 ^ exponent)
    (hfine : exponent ≤ max leastExponent (floorLog2 num den - 52)) :
    Float.ofModel (.pack
        (roundWithAccuracy .binary64 (sign negative) significand exponent accuracy))
      = nearest negative num den := by
  obtain ⟨m, e, hround, hgrid, hbits⟩ :=
    exists_roundWithAccuracy negative hnum hden hrepresents hvalue hfine
  rw [hround, ofModel_pack_unpacked negative hgrid, ← hbits, ← nearest_eq_ofBits]

theorem ratio_eq_zero_iff (hden : den ≠ 0) : (num : ℚ) / den = 0 ↔ num = 0 := by
  simp [hden]

/-! ## Products -/

theorem sign_mul_sign (negative negative' : Bool) :
    sign negative * sign negative' = sign (negative ^^ negative') := by
  cases negative <;> cases negative' <;> rfl

/-- Of two doubles with a digit, the exact product is on a grid as fine as that of the doubles. -/
theorem IsCanonical.mul_fine (h : IsCanonical significand exponent)
    (h' : IsCanonical significand' exponent') (hne : significand ≠ 0) (hne' : significand' ≠ 0) :
    exponent + exponent' ≤ max leastExponent
      ((significand * significand').log2 + (exponent + exponent') - 52) := by
  by_cases hlarge : 2 ^ 52 ≤ significand * significand'
  · have hlog := (Nat.le_log2 (Nat.mul_ne_zero hne hne')).mpr hlarge
    omega
  · -- A small product has small factors, and these have the least exponent.
    have hsmall : significand < 2 ^ 52 :=
      lt_of_le_of_lt (Nat.le_mul_of_pos_right _ (Nat.pos_of_ne_zero hne')) (not_le.mp hlarge)
    have hsmall' : significand' < 2 ^ 52 :=
      lt_of_le_of_lt (Nat.le_mul_of_pos_left _ (Nat.pos_of_ne_zero hne)) (not_le.mp hlarge)
    have hleast := h.hidden.resolve_right (not_le.mpr hsmall)
    have hleast' := h'.hidden.resolve_right (not_le.mpr hsmall')
    simp only [leastExponent]
    omega

/-- **The product of two finite doubles is the double nearest to the exact product.** -/
theorem mul_eq_nearest (hx : ofFloat x = .finite negative significand exponent)
    (hy : ofFloat y = .finite negative' significand' exponent') (hden : den ≠ 0)
    (hvalue : (num : ℚ) / den = (significand * 2 ^ exponent) * (significand' * 2 ^ exponent')) :
    x * y = nearest (negative ^^ negative') num den := by
  have hmul : x * y = .ofModel (.pack (UnpackedFloat.mul .binary64 x.toModel.unpack
    y.toModel.unpack)) := rfl
  rw [hmul, unpack_of_ofFloat hx, unpack_of_ofFloat hy]
  by_cases hzero : significand = 0 ∨ significand' = 0
  · have hnum : num = 0 := by
      rw [← ratio_eq_zero_iff hden, hvalue]
      rcases hzero with rfl | rfl <;> simp
    have hzeros : UnpackedFloat.mul .binary64 (unpacked negative significand exponent)
        (unpacked negative' significand' exponent') = .zero (sign (negative ^^ negative')) := by
      rw [← sign_mul_sign, unpacked, unpacked]
      rcases hzero with rfl | rfl
      · rw [dif_pos rfl]
        split <;> rfl
      · rw [dif_pos rfl]
        split <;> rfl
    rw [hzeros, hnum]
    exact ofModel_pack_zero _ den
  · obtain ⟨hne, hne'⟩ := not_or.mp hzero
    have hexact : (num : ℚ) / den
        = (significand * significand' : ℕ) * 2 ^ (exponent + exponent') := by
      rw [hvalue, zpow_add₀ two_ne_zero]
      push_cast
      ring
    have hproduct := Nat.mul_ne_zero hne hne'
    have hnum : num ≠ 0 := by
      rw [Ne, ← ratio_eq_zero_iff hden, hexact]
      exact (size_pos hproduct _).ne'
    have hfine := (isCanonical_of_ofFloat hx).mul_fine (isCanonical_of_ofFloat hy) hne hne'
    rw [← floorLog2_of_value hproduct hnum hden hexact] at hfine
    have hround : UnpackedFloat.mul .binary64 (unpacked negative significand exponent)
        (unpacked negative' significand' exponent')
          = roundWithAccuracy .binary64 (sign (negative ^^ negative'))
            (significand * significand') (exponent + exponent') .exact := by
      rw [← sign_mul_sign, unpacked, unpacked, dif_neg hne, dif_neg hne']
      rfl
    rw [hround]
    exact ofModel_pack_rounded _ hnum hden (represents_exact _) hexact hfine

/-! ## Finite products -/

/-- The least number that is too large for a finite double to be nearest to it. It is above the
greatest one by half of its last place. -/
def overflow : ℚ := (2 ^ 53 - 1 / 2) * 2 ^ (971 : ℤ)

theorem overflow_pos : 0 < overflow := by
  refine mul_pos ?_ (by positivity)
  norm_num

/-- The overflow is above the numbers of all grids but the coarsest one. -/
theorem le_overflow : (2 : ℚ) ^ 53 * 2 ^ (970 : ℤ) ≤ overflow := by
  rw [overflow, show (971 : ℤ) = 970 + 1 from rfl, zpow_add_one₀ two_ne_zero]
  have hpos : (0 : ℚ) < 2 ^ (970 : ℤ) := by positivity
  generalize (2 : ℚ) ^ (970 : ℤ) = u at hpos
  linarith

theorem overflow_le : overflow ≤ (2 : ℚ) ^ 52 * 2 ^ (972 : ℤ) := by
  rw [overflow, show (972 : ℤ) = 971 + 1 from rfl, zpow_add_one₀ two_ne_zero]
  have hpos : (0 : ℚ) < 2 ^ (971 : ℤ) := by positivity
  generalize (2 : ℚ) ^ (971 : ℤ) = u at hpos
  linarith

theorem nearestBits_lt_iff (hden : den ≠ 0) :
    nearestBits num den < infinityBits ↔ (num : ℚ) / den < overflow := by
  rcases eq_or_ne num 0 with rfl | hnum
  · rw [nearestBits_zero, Nat.cast_zero, zero_div]
    exact iff_of_true (by decide) overflow_pos
  obtain ⟨grid, hgrid⟩ : ∃ grid, max leastExponent (floorLog2 num den - 52) = grid := ⟨_, rfl⟩
  obtain ⟨s, hnearest⟩ := exists_isNearest num hden grid
  obtain ⟨hbelow, habove⟩ := grid_bounds hnum hden hgrid
  have hle := hnearest.le_of_lt (n := 2 ^ 53) (by exact_mod_cast hbelow)
  have hunit : (0 : ℚ) < 2 ^ grid := by positivity
  rw [nearestBits_of_exponent hnum hden hgrid hnearest, min_lt_iff, or_iff_right (lt_irrefl _)]
  simp only [sizeBits, leastExponent, infinityBits]
  rcases lt_trichotomy grid 971 with hlt | rfl | hgt
  · refine iff_of_true (by omega) ?_
    calc (num : ℚ) / den < 2 ^ 53 * 2 ^ grid := (div_lt_iff₀ hunit).mp hbelow
      _ ≤ 2 ^ 53 * 2 ^ (970 : ℤ) := by
        gcongr
        · exact one_le_two
        · omega
      _ ≤ overflow := le_overflow
  · -- On the coarsest grid the power after the last significand has the bits of infinity.
    rw [overflow, ← div_lt_iff₀ hunit]
    rcases hle.lt_or_eq with hfits | hcarry
    · refine iff_of_true (by omega) ?_
      rcases (Nat.le_sub_one_of_lt hfits).lt_or_eq with hless | hlast
      · have hs : (s : ℚ) + 2 ≤ 2 ^ 53 := by exact_mod_cast (by omega : s + 2 ≤ 2 ^ 53)
        linarith [hnearest.high]
      · have hs : (s : ℚ) + 1 = 2 ^ 53 := by exact_mod_cast (by omega : s + 1 = 2 ^ 53)
        linarith [(hnearest.odd (by omega)).2]
    · refine iff_of_false (by omega) (not_lt.mpr ?_)
      have hs : (s : ℚ) = 2 ^ 53 := by exact_mod_cast hcarry
      linarith [hnearest.low]
  · have hlarge := habove.resolve_left (by omega)
    have hs := hnearest.ge_of_le (n := 2 ^ 52) (by exact_mod_cast hlarge)
    refine iff_of_false (by omega) (not_lt.mpr ?_)
    calc overflow ≤ 2 ^ 52 * 2 ^ (972 : ℤ) := overflow_le
      _ ≤ 2 ^ 52 * 2 ^ grid := by
        gcongr
        · exact one_le_two
        · omega
      _ ≤ num / den := (le_div_iff₀ hunit).mp hlarge

theorem toBits_ofBits_signedBits (negative : Bool) {size : Nat} (hsize : size < infinityBits) :
    (Float.ofBits (signedBits negative size)).toBits.toNat
      = (if negative then 2 ^ 63 else 0) + size := by
  have hbits := toNat_signedBits negative hsize.le
  rw [toBits_ofBits, hbits]
  rw [hbits]
  simp only [infinityBits] at hsize
  split <;> omega

theorem isFinite_nearest_iff (negative : Bool) (hden : den ≠ 0) :
    (nearest negative num den).isFinite = true ↔ (num : ℚ) / den < overflow := by
  rw [← nearestBits_lt_iff hden, nearest_eq_ofBits]
  rcases (nearestBits_le num den).lt_or_eq with hlt | heq
  · refine iff_of_true ?_ hlt
    rw [isFinite_iff_field, toBits_ofBits_signedBits negative hlt]
    simp only [infinityBits] at hlt
    split <;> omega
  · rw [heq]
    refine iff_of_false ?_ (lt_irrefl _)
    cases negative <;> decide

theorem zero_le_nearest (num den : Nat) : 0 ≤ nearest false num den := by
  rw [nearest_eq_ofBits]
  rcases (nearestBits_le num den).lt_or_eq with hlt | heq
  · have hbits := toBits_ofBits_signedBits false hlt
    rw [if_neg Bool.false_ne_true, zero_add] at hbits
    have hfinite : (Float.ofBits (signedBits false (nearestBits num den))).isFinite = true := by
      rw [isFinite_iff_field, hbits]
      simp only [infinityBits] at hlt
      omega
    obtain ⟨negative, significand, exponent, hparts⟩ := isFinite_iff.mp hfinite
    rw [zero_le_iff hfinite, exact_of_ofFloat hparts]
    have hsign := toNat_toBits_of_ofFloat hparts
    rw [hbits] at hsign
    cases negative with
    | false =>
      rw [signed_false]
      positivity
    | true =>
      rw [if_pos rfl] at hsign
      simp only [infinityBits] at hlt
      omega
  · rw [heq]
    decide

theorem abs_signed (negative : Bool) (significand : Nat) (exponent : Int) :
    |signed negative significand exponent| = significand * 2 ^ exponent := by
  have hsize : (0 : ℚ) ≤ significand * 2 ^ exponent := by positivity
  cases negative with
  | false => rw [signed_false, abs_of_nonneg hsize]
  | true => rw [signed_true, abs_neg, abs_of_nonneg hsize]

theorem exists_mul_eq_nearest (hx : ofFloat x = .finite negative significand exponent)
    (hy : ofFloat y = .finite negative' significand' exponent') :
    ∃ num den : ℕ, den ≠ 0 ∧ (num : ℚ) / den = |exact x * exact y| ∧
      x * y = nearest (negative ^^ negative') num den := by
  have hvalue : ((significand * significand' * 2 ^ (exponent + exponent').toNat : ℕ) : ℚ)
      / (2 ^ (-(exponent + exponent')).toNat : ℕ)
      = (significand * 2 ^ exponent) * (significand' * 2 ^ exponent') := by
    have hpower := zpow_eq_pow_div_pow (b := (2 : ℚ)) two_ne_zero (exponent + exponent')
    rw [zpow_add₀ two_ne_zero] at hpower
    push_cast
    rw [mul_div_assoc, ← hpower]
    ring
  have hden : 2 ^ (-(exponent + exponent')).toNat ≠ 0 := by positivity
  refine ⟨_, _, hden, ?_, mul_eq_nearest hx hy hden hvalue⟩
  rw [hvalue, abs_mul, exact_of_ofFloat hx, exact_of_ofFloat hy, abs_signed, abs_signed]

/-- **A product is finite just if the exact one is below the overflow.** -/
theorem isFinite_mul_iff (hx : x.isFinite = true) (hy : y.isFinite = true) :
    (x * y).isFinite = true ↔ |exact x * exact y| < overflow := by
  obtain ⟨negative, significand, exponent, hx⟩ := isFinite_iff.mp hx
  obtain ⟨negative', significand', exponent', hy⟩ := isFinite_iff.mp hy
  obtain ⟨num, den, hden, hvalue, hmul⟩ := exists_mul_eq_nearest hx hy
  rw [hmul, isFinite_nearest_iff _ hden, hvalue]

theorem exact_nonpos (h : ofFloat x = .finite true significand exponent) : exact x ≤ 0 := by
  rw [exact_of_ofFloat h, signed_true, neg_nonpos]
  positivity

/-- **A product of numbers that are not negative is not negative**, be it finite or not. -/
theorem zero_le_mul (hx : x.isFinite = true) (hy : y.isFinite = true) (hx0 : 0 ≤ x) (hy0 : 0 ≤ y) :
    0 ≤ x * y := by
  rw [zero_le_iff hx] at hx0
  rw [zero_le_iff hy] at hy0
  obtain ⟨negative, significand, exponent, hx⟩ := isFinite_iff.mp hx
  obtain ⟨negative', significand', exponent', hy⟩ := isFinite_iff.mp hy
  obtain ⟨num, den, hden, hvalue, hmul⟩ := exists_mul_eq_nearest hx hy
  rw [hmul]
  cases hsign : (negative ^^ negative') with
  | false => exact zero_le_nearest num den
  | true =>
    -- One of the two has a sign, and is zero nevertheless.
    have hzero : exact x * exact y = 0 := by
      cases negative with
      | true => rw [le_antisymm (exact_nonpos hx) hx0, zero_mul]
      | false =>
        cases negative' with
        | true => rw [le_antisymm (exact_nonpos hy) hy0, mul_zero]
        | false => cases hsign
    rw [hzero, abs_zero, div_eq_zero_iff, or_iff_left (by exact_mod_cast hden), Nat.cast_eq_zero]
      at hvalue
    rw [hvalue, nearest_eq_ofBits, nearestBits_zero]
    decide

theorem isFinite_mul_of_between {low high factor : Float} (hlow : low.isFinite = true)
    (hhigh : high.isFinite = true) (hfactor : factor.isFinite = true)
    (hlowProduct : (low * factor).isFinite = true) (hhighProduct : (high * factor).isFinite = true)
    (hle : low ≤ x) (hge : x ≤ high) : (x * factor).isFinite = true := by
  have hx : x.isFinite = true := isFinite_of_le_of_le hlow hhigh hle hge
  rw [isFinite_mul_iff hlow hfactor, abs_mul] at hlowProduct
  rw [isFinite_mul_iff hhigh hfactor, abs_mul] at hhighProduct
  rw [isFinite_mul_iff hx hfactor, abs_mul]
  have hbetween : |exact x| ≤ max |exact low| |exact high| :=
    abs_le_max_abs_abs ((le_iff hlow hx).mp hle) ((le_iff hx hhigh).mp hge)
  calc |exact x| * |exact factor| ≤ max |exact low| |exact high| * |exact factor| := by gcongr
    _ = max (|exact low| * |exact factor|) (|exact high| * |exact factor|) :=
      max_mul_of_nonneg _ _ (abs_nonneg _)
    _ < overflow := max_lt hlowProduct hhighProduct

end RoadWeather.Binary64
