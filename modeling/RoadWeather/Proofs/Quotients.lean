import Mathlib
import RoadWeather.Proofs.RoundingOrder

/-!
# Quotients of doubles

The quotient of two finite doubles is the double nearest to the exact quotient, unless the divisor
is zero (`Binary64.div_eq_nearest`). The logical model divides the significands with as many digits
as are needed, and the remainder tells where between two integers the quotient is
(`Binary64.represents_quotient`). From there on a quotient is rounded as a product is.
-/

namespace RoadWeather.Binary64

open Float.Model UnpackedFloat

variable {x y : Float} {negative negative' : Bool} {significand significand' num den : Nat}
  {exponent exponent' k : Int}

/-- An integer quotient keeps of the exact one what rounding needs, if the remainder is compared
with half of the divisor. -/
theorem represents_quotient (num : Nat) (hden : den ≠ 0) :
    Represents (.ofMantissaAndAccuracy (num / den) (accuracyOfFraction (num % den) den))
      ((num : ℚ) / den) := by
  have hd : (0 : ℚ) < den := by exact_mod_cast Nat.pos_of_ne_zero hden
  have hless : (num % den : ℕ) < den := Nat.mod_lt _ (Nat.pos_of_ne_zero hden)
  have hsplit : (num : ℚ) / den = (num / den : ℕ) + (num % den : ℕ) / den := by
    rw [div_eq_iff hd.ne', add_mul, div_mul_cancel₀ _ hd.ne']
    exact_mod_cast (Nat.div_add_mod' num den).symm
  rw [hsplit]
  generalize num / den = floor
  generalize num % den = rest at hless
  have hbelow : (rest : ℚ) / den < 1 := by
    rw [div_lt_one hd]
    exact_mod_cast hless
  by_cases hzero : rest = 0
  · rw [hzero, Nat.cast_zero, zero_div, add_zero]
    exact represents_exact floor
  have hpos : (0 : ℚ) < rest / den := by
    have hr : (0 : ℚ) < rest := by exact_mod_cast Nat.pos_of_ne_zero hzero
    positivity
  rw [accuracyOfFraction, if_neg hzero]
  rcases lt_trichotomy (2 * rest) den with hlt | heq | hgt
  · have hhalf : (rest : ℚ) / den < 1 / 2 := by
      rw [div_lt_div_iff₀ hd two_pos]
      exact_mod_cast (by omega : rest * 2 < 1 * den)
    rw [compare_lt_iff_lt.mpr hlt]
    change (floor : ℚ) + 0 < _ ∧ _ < (floor : ℚ) + 0 + 1 / 2
    exact ⟨by linarith, by linarith⟩
  · have hhalf : (rest : ℚ) / den = 1 / 2 := by
      rw [div_eq_div_iff hd.ne' two_ne_zero]
      exact_mod_cast (by omega : rest * 2 = 1 * den)
    rw [compare_eq_iff_eq.mpr heq, hhalf]
    rfl
  · have hhalf : 1 / 2 < (rest : ℚ) / den := by
      rw [div_lt_div_iff₀ two_pos hd]
      exact_mod_cast (by omega : 1 * den < rest * 2)
    rw [compare_gt_iff_gt.mpr hgt]
    change (floor : ℚ) + 1 / 2 < _ ∧ _ < (floor : ℚ) + 1 / 2 + 1 / 2
    exact ⟨by linarith, by linarith⟩

/-- The exponent that a quotient is computed with. -/
def quotientExponent (significand : Nat) (exponent : Int) (significand' : Nat) (exponent' : Int) :
    Int :=
  min (exponent - exponent')
    (Format.binary64.targetExponent
      (totalExponent significand exponent - totalExponent significand' exponent'))

/-- It is fine enough for the grid of the quotient. -/
theorem quotientExponent_le (hne : significand ≠ 0) (hne' : significand' ≠ 0) (hnum : num ≠ 0)
    (hden : den ≠ 0)
    (hvalue : (num : ℚ) / den = (significand * 2 ^ exponent) / (significand' * 2 ^ exponent')) :
    quotientExponent significand exponent significand' exponent'
      ≤ max leastExponent (floorLog2 num den - 52) := by
  have hlow : (2 : ℚ) ^ (significand.log2 + exponent - (significand'.log2 + 1 + exponent'))
      < num / den := by
    have hdigits : (2 : ℚ) ^ (significand.log2 : ℤ) ≤ significand := by
      exact_mod_cast Nat.log2_self_le hne
    have hdigits' : (significand' : ℚ) < 2 ^ ((significand'.log2 : ℤ) + 1) := by
      exact_mod_cast Nat.lt_log2_self
    rw [hvalue, zpow_sub₀ two_ne_zero, zpow_add₀ two_ne_zero, zpow_add₀ two_ne_zero _ exponent']
    refine div_lt_div₀' ?_ ?_ (size_pos hne exponent) (size_pos hne' exponent')
    · gcongr
    · gcongr
  have hpower := hlow.trans (floorLog2_spec hnum hden).2
  have hfloor := (zpow_lt_zpow_iff_right₀ (one_lt_two : (1 : ℚ) < 2)).mp hpower
  refine (min_le_right _ _).trans ?_
  change max (((significand.log2 : Int) + 1 + exponent - (significand'.log2 + 1 + exponent')) - 53)
    (-1074) ≤ _
  simp only [leastExponent]
  omega

/-- **The quotient of two finite doubles is the double nearest to the exact quotient**, as long as
the divisor is not zero. -/
theorem div_eq_nearest (hx : ofFloat x = .finite negative significand exponent)
    (hy : ofFloat y = .finite negative' significand' exponent') (hne' : significand' ≠ 0)
    (hden : den ≠ 0)
    (hvalue : (num : ℚ) / den = (significand * 2 ^ exponent) / (significand' * 2 ^ exponent')) :
    x / y = nearest (negative ^^ negative') num den := by
  have hdiv : x / y = .ofModel (.pack (UnpackedFloat.div .binary64 x.toModel.unpack
    y.toModel.unpack)) := rfl
  have hsign : sign negative / sign negative' = sign (negative ^^ negative') := by
    cases negative <;> cases negative' <;> rfl
  rw [hdiv, unpack_of_ofFloat hx, unpack_of_ofFloat hy]
  by_cases hne : significand = 0
  · have hnum : num = 0 := by
      rw [← ratio_eq_zero_iff hden, hvalue, hne, Nat.cast_zero, zero_mul, zero_div]
    have hzero : UnpackedFloat.div .binary64 (unpacked negative significand exponent)
        (unpacked negative' significand' exponent') = .zero (sign (negative ^^ negative')) := by
      rw [← hsign, unpacked, unpacked, dif_pos hne, dif_neg hne']
      rfl
    rw [hzero, hnum]
    exact ofModel_pack_zero _ den
  · have hnum : num ≠ 0 := by
      rw [Ne, ← ratio_eq_zero_iff hden, hvalue]
      exact (div_pos (size_pos hne exponent) (size_pos hne' exponent')).ne'
    -- The dividend is shifted left until the quotient has enough digits.
    let target := quotientExponent significand exponent significand' exponent'
    obtain ⟨shift, hshift⟩ : ∃ shift : ℕ, exponent - exponent' - target = shift := by
      have hle : target ≤ exponent - exponent' := min_le_left _ _
      exact ⟨(exponent - exponent' - target).toNat, by omega⟩
    have hexact : (num : ℚ) / den
        = ((significand <<< shift : ℕ) : ℚ) / significand' * 2 ^ target := by
      have hne'' : (significand' : ℚ) ≠ 0 := by exact_mod_cast hne'
      rw [hvalue, Nat.shiftLeft_eq, show exponent = shift + target + exponent' by omega,
        zpow_add₀ two_ne_zero, zpow_add₀ two_ne_zero, zpow_natCast]
      push_cast
      field_simp
    have hround := ofModel_pack_rounded (negative ^^ negative') hnum hden
      (represents_quotient _ hne') hexact (quotientExponent_le hne hne' hnum hden hvalue)
    have hamount : (exponent - exponent' - target).toNat = shift := by omega
    rw [← hround, ← hsign, unpacked, unpacked, dif_neg hne, dif_neg hne', ← hamount]
    rfl

/-- **A quotient is close to the exact one**, and it has a sign just if one of the two numbers has
one. -/
theorem exists_ofFloat_div (hx : ofFloat x = .finite negative significand exponent)
    (hy : ofFloat y = .finite negative' significand' exponent') (hne : exact y ≠ 0)
    (hlt : |exact x / exact y| < 2 ^ k) (hlow : -1021 ≤ k) (hhigh : k ≤ 1023) :
    ∃ m e, ofFloat (x / y) = .finite (negative ^^ negative') m e ∧
      |(m : ℚ) * 2 ^ e - (|exact x / exact y|)| ≤ 2 ^ (k - 54) := by
  have hne' : significand' ≠ 0 := by
    rintro rfl
    rw [exact_of_ofFloat hy, signed_zero] at hne
    exact hne rfl
  have hsize : |exact x / exact y|
      = (significand * 2 ^ exponent) / (significand' * 2 ^ exponent') := by
    rw [abs_div, exact_of_ofFloat hx, exact_of_ofFloat hy, abs_signed, abs_signed]
  have hvalue : ((significand * 2 ^ (exponent - exponent').toNat : ℕ) : ℚ)
      / (significand' * 2 ^ (-(exponent - exponent')).toNat : ℕ) = |exact x / exact y| := by
    have hpower := zpow_eq_pow_div_pow (b := (2 : ℚ)) two_ne_zero (exponent - exponent')
    rw [zpow_sub₀ two_ne_zero] at hpower
    rw [hsize]
    push_cast
    rw [mul_div_mul_comm, ← hpower, mul_div_mul_comm]
  have hden : significand' * 2 ^ (-(exponent - exponent')).toNat ≠ 0 :=
    Nat.mul_ne_zero hne' (by positivity)
  rw [div_eq_nearest hx hy hne' hden (hvalue.trans hsize), ← hvalue]
  rw [← hvalue] at hlt
  exact exists_ofFloat_nearest_of_lt _ hden hlt hlow hhigh

end RoadWeather.Binary64
