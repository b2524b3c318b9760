import Mathlib
import RoadWeather.Number.Binary64
import RoadWeather.Proofs.Doubles

/-!
# The nearest double

A number within half a last place of a finite double rounds to it (`Binary64.RoundsTo`). Doubles are
computed from a quotient on the grid that the size of the quotient prescribes. So whatever rounds to
a double has it as the nearest one, and a decimal that rounds to a double is read as it.

## Grids

A grid is the set of the multiples of a power of two. The size of a quotient prescribes the one on
which it has 53 binary digits before the point, or the finest one that doubles have. A quotient that
rounds to a double is on the grid of that double or on the one that is twice as fine
(`Binary64.RoundsTo.power_of_grid_lt`).

The second happens just below a power of two. There the double is the power, and the quotient has
not reached it. On its own grid the quotient rounds up to the power, which has one digit too many
for this grid and the same bits on both (`Binary64.sizeBits_power`). This is also where the numbers
that round to a double reach only half as far on its lower side.

## Decimals

A decimal is turned into a quotient of two natural numbers before it is rounded. If its exponent is
far beyond those of doubles, it is taken for zero or for an infinity without that. The bounds are
such that no decimal that rounds to a positive finite double is concerned
(`Binary64.decimal_lt_half`, `Binary64.le_decimal`).
-/

namespace RoadWeather

theorem zpow_eq_pow_div_pow {b : ℚ} (hb : b ≠ 0) (e : ℤ) :
    b ^ e = b ^ e.toNat / b ^ (-e).toNat := by
  rw [← zpow_natCast, ← zpow_natCast, ← zpow_sub₀ hb]
  congr 1
  omega

/-! ## The nearest integer -/

/-- `s` is an integer nearest to `y`, and the even one if there are two. -/
structure IsNearest (s : Nat) (y : ℚ) : Prop where
  low : (s : ℚ) - 1 / 2 ≤ y
  high : y ≤ s + 1 / 2
  odd : s % 2 = 1 → (s : ℚ) - 1 / 2 < y ∧ y < s + 1 / 2

theorem IsNearest.eq_zero {s : Nat} {y : ℚ} (h : IsNearest s y) (hy : y < 1 / 2) : s = 0 := by
  have hlow := h.low
  have hone : (s : ℚ) < 1 := by linarith
  exact Nat.lt_one_iff.mp (by exact_mod_cast hone)

theorem IsNearest.le_of_lt {s n : Nat} {y : ℚ} (h : IsNearest s y) (hy : y < n) : s ≤ n := by
  have hlow := h.low
  have hlt : (s : ℚ) < n + 1 := by linarith
  exact Nat.lt_succ_iff.mp (by exact_mod_cast hlt)

theorem IsNearest.ge_of_le {s n : Nat} {y : ℚ} (h : IsNearest s y) (hy : (n : ℚ) ≤ y) :
    n ≤ s := by
  have hhigh := h.high
  have hlt : (n : ℚ) < s + 1 := by linarith
  exact Nat.lt_succ_iff.mp (by exact_mod_cast hlt)

/-- Half way between two integers the even one is taken. -/
theorem ne_half_of_odd_roundQuotient (num : Nat) {den : Nat} (hden : 0 < den)
    (h : roundQuotient .even num den % 2 = 1) :
    2 * (roundQuotient .even num den * den) ≠ 2 * num + den ∧
      2 * num ≠ 2 * (roundQuotient .even num den * den) + den := by
  have hsplit : num / den * den + num % den = num := Nat.div_add_mod' num den
  have hmod : num % den < den := Nat.mod_lt num hden
  by_contra htie
  unfold roundQuotient at h htie
  dsimp only at h htie
  split at h
  · next hless =>
    rw [if_pos hless] at htie
    omega
  · next hless =>
    rw [if_neg hless] at htie
    split at h
    · next hmore =>
      rw [if_pos hmore, Nat.add_mul, Nat.one_mul] at htie
      omega
    · omega

theorem isNearest_roundQuotient_even (num : Nat) {den : Nat} (hden : 0 < den) :
    IsNearest (roundQuotient .even num den) (num / den) := by
  have hq : (0 : ℚ) < den := by exact_mod_cast hden
  have hlow := two_mul_roundQuotient_mul_le .even num hden
  have hhigh := le_two_mul_roundQuotient_mul .even num hden
  have hodd := ne_half_of_odd_roundQuotient num hden
  refine ⟨?_, ?_, fun h ↦ ⟨?_, ?_⟩⟩
  · rw [le_div_iff₀ hq]
    have hlow' : (2 * (roundQuotient .even num den * den) : ℚ) ≤ 2 * num + den := by
      exact_mod_cast hlow
    linarith
  · rw [div_le_iff₀ hq]
    have hhigh' : (2 * num : ℚ) ≤ 2 * (roundQuotient .even num den * den) + den := by
      exact_mod_cast hhigh
    linarith
  · rw [lt_div_iff₀ hq]
    have hlow' : (2 * (roundQuotient .even num den * den) : ℚ) < 2 * num + den := by
      exact_mod_cast lt_of_le_of_ne hlow (hodd h).1
    linarith
  · rw [div_lt_iff₀ hq]
    have hhigh' : (2 * num : ℚ) < 2 * (roundQuotient .even num den * den) + den := by
      exact_mod_cast lt_of_le_of_ne hhigh (hodd h).2
    linarith

/-- The bounds of a rounded quotient, with both sides multiplied by twice the denominator, allow
one number only. -/
theorem roundQuotient_even_of_bounds {num den s : Nat} (hden : 0 < den)
    (hlow : 2 * (s * den) ≤ 2 * num + den) (hhigh : 2 * num ≤ 2 * (s * den) + den)
    (hodd : s % 2 = 1 → 2 * (s * den) < 2 * num + den ∧ 2 * num < 2 * (s * den) + den) :
    roundQuotient .even num den = s := by
  have hsplit : num / den * den + num % den = num := Nat.div_add_mod' num den
  have hmod : num % den < den := Nat.mod_lt num hden
  have hle : s < num / den + 2 := by
    refine Nat.lt_of_mul_lt_mul_right (a := den) ?_
    rw [Nat.add_mul]
    omega
  have hge : num / den < s + 1 := by
    refine Nat.lt_of_mul_lt_mul_right (a := den) ?_
    rw [Nat.add_mul, Nat.one_mul]
    omega
  unfold roundQuotient
  dsimp only
  rcases (by omega : s = num / den ∨ s = num / den + 1) with hs | hs
  · have hprod : s * den = num / den * den := by rw [hs]
    split
    · exact hs.symm
    · rw [if_neg (by omega)]
      omega
  · have hprod : s * den = num / den * den + den := by rw [hs, Nat.add_mul, Nat.one_mul]
    rw [if_neg (by omega)]
    split
    · exact hs.symm
    · omega

theorem IsNearest.roundQuotient_even {num den s : Nat} (hden : 0 < den)
    (h : IsNearest s (num / den)) : roundQuotient .even num den = s := by
  have hq : (0 : ℚ) < den := by exact_mod_cast hden
  obtain ⟨hlow, hhigh, hodd⟩ := h
  rw [sub_le_iff_le_add, ← sub_le_iff_le_add, le_div_iff₀ hq] at hlow
  rw [div_le_iff₀ hq] at hhigh
  rw [lt_div_iff₀ hq, div_lt_iff₀ hq] at hodd
  have hlow' : (2 * (s * den) : ℚ) ≤ 2 * num + den := by linarith
  have hhigh' : (2 * num : ℚ) ≤ 2 * (s * den) + den := by linarith
  refine roundQuotient_even_of_bounds hden (by exact_mod_cast hlow') (by exact_mod_cast hhigh') ?_
  intro hs
  obtain ⟨habove, hbelow⟩ := hodd hs
  have habove' : (2 * (s * den) : ℚ) < 2 * num + den := by linarith
  have hbelow' : (2 * num : ℚ) < 2 * (s * den) + den := by linarith
  exact ⟨by exact_mod_cast habove', by exact_mod_cast hbelow'⟩

namespace Binary64

variable {x : Float} {negative : Bool} {num den significand : Nat} {exponent : Int}

/-! ## The grid of a quotient -/

theorem floorLog2_spec (hnum : num ≠ 0) (hden : den ≠ 0) :
    (2 : ℚ) ^ floorLog2 num den ≤ num / den ∧ (num : ℚ) / den < 2 ^ (floorLog2 num den + 1) := by
  have hd : (0 : ℚ) < den := by exact_mod_cast Nat.pos_of_ne_zero hden
  have hn : (2 : ℚ) ^ (num.log2 : ℤ) ≤ num ∧ (num : ℚ) < 2 ^ ((num.log2 : ℤ) + 1) :=
    ⟨by exact_mod_cast Nat.log2_self_le hnum, by exact_mod_cast Nat.lt_log2_self⟩
  have hm : (2 : ℚ) ^ (den.log2 : ℤ) ≤ den ∧ (den : ℚ) < 2 ^ ((den.log2 : ℤ) + 1) :=
    ⟨by exact_mod_cast Nat.log2_self_le hden, by exact_mod_cast Nat.lt_log2_self⟩
  set estimate : ℤ := num.log2 - den.log2 with hestimate
  -- The test compares the quotient with the power of the estimate.
  have htest : den * Nat.pow 2 estimate.toNat ≤ num * Nat.pow 2 (-estimate).toNat ↔
      (2 : ℚ) ^ estimate ≤ num / den := by
    rw [zpow_eq_pow_div_pow two_ne_zero, div_le_div_iff₀ (by positivity) hd, Nat.pow_eq, Nat.pow_eq,
      mul_comm]
    exact_mod_cast Iff.rfl
  have hlow : (2 : ℚ) ^ (estimate - 1) ≤ num / den := by
    rw [le_div_iff₀ hd]
    calc (2 : ℚ) ^ (estimate - 1) * den
        ≤ 2 ^ (estimate - 1) * 2 ^ ((den.log2 : ℤ) + 1) := by gcongr; exact hm.2.le
      _ = 2 ^ (num.log2 : ℤ) := by rw [← zpow_add₀ two_ne_zero]; congr 1; omega
      _ ≤ num := hn.1
  have hhigh : (num : ℚ) / den < 2 ^ (estimate + 1) := by
    rw [div_lt_iff₀ hd]
    calc (num : ℚ) < 2 ^ ((num.log2 : ℤ) + 1) := hn.2
      _ = 2 ^ (estimate + 1) * 2 ^ (den.log2 : ℤ) := by
        rw [← zpow_add₀ two_ne_zero]; congr 1; omega
      _ ≤ 2 ^ (estimate + 1) * den := by gcongr; exact hm.1
  unfold floorLog2
  rw [← hestimate]
  dsimp only
  split
  · next h => exact ⟨htest.mp h, hhigh⟩
  · next h =>
    rw [sub_add_cancel]
    exact ⟨hlow, not_le.mp (htest.not.mp h)⟩

theorem ratio_grid (num den : Nat) (exponent : Int) :
    ((num * Nat.pow 2 (-exponent).toNat : ℕ) : ℚ) / (den * Nat.pow 2 exponent.toNat : ℕ)
      = num / den / 2 ^ exponent := by
  rw [zpow_eq_pow_div_pow two_ne_zero exponent, Nat.pow_eq, Nat.pow_eq]
  push_cast
  field_simp

theorem exists_isNearest (num : Nat) (hden : den ≠ 0) (exponent : Int) :
    ∃ s, IsNearest s ((num : ℚ) / den / 2 ^ exponent) := by
  have hpos : 0 < den * Nat.pow 2 exponent.toNat := by
    rw [Nat.pow_eq]
    positivity
  have hnearest := isNearest_roundQuotient_even (num * Nat.pow 2 (-exponent).toNat) hpos
  rw [ratio_grid] at hnearest
  exact ⟨_, hnearest⟩

theorem nearestBits_of_exponent (hnum : num ≠ 0) (hden : den ≠ 0)
    (hexponent : max leastExponent (floorLog2 num den - 52) = exponent)
    (hnearest : IsNearest significand (num / den / 2 ^ exponent)) :
    nearestBits num den = min infinityBits (sizeBits significand exponent) := by
  have hpos : 0 < den * Nat.pow 2 exponent.toNat := by
    rw [Nat.pow_eq]
    positivity
  rw [← ratio_grid] at hnearest
  unfold nearestBits sizeBits
  rw [if_neg hnum]
  dsimp only
  rw [hexponent, hnearest.roundQuotient_even hpos, Nat.pow_eq]

/-- The grid is no coarser than that of the double: otherwise the quotient would be too large. -/
theorem grid_le (hnum : num ≠ 0) (hden : den ≠ 0) (hcanonical : IsCanonical significand exponent)
    (hnearest : IsNearest significand (num / den / 2 ^ exponent)) :
    max leastExponent (floorLog2 num den - 52) ≤ exponent := by
  by_contra hgt
  have hleast := hcanonical.le_exponent
  have hfloor : exponent + 53 ≤ floorLog2 num den := by
    simp only [leastExponent] at hgt
    omega
  have hbig : (2 : ℚ) ^ 53 ≤ num / den / 2 ^ exponent := by
    rw [le_div_iff₀ (by positivity), ← zpow_natCast, ← zpow_add₀ two_ne_zero]
    exact (zpow_le_zpow_right₀ one_le_two (by omega)).trans (floorLog2_spec hnum hden).1
  have hhigh := hnearest.high
  have hlt : (significand : ℚ) + 1 ≤ 2 ^ 53 := by exact_mod_cast hcanonical.significand_lt
  linarith

/-! ## What rounds to a double -/

/-- The numbers that round to `significand · 2 ^ exponent`, in units of its last place: those at
most half a unit away, an odd significand being left to its neighbours half way between them. Below
a power of two the next double is only half a unit away. -/
structure RoundsTo (significand : Nat) (exponent : Int) (y : ℚ) : Prop
    extends IsNearest significand y where
  power : significand = 2 ^ 52 → -1074 < exponent → (significand : ℚ) - 1 / 4 ≤ y

theorem roundsTo_zero (exponent : Int) : RoundsTo 0 exponent 0 :=
  ⟨⟨by norm_num, by norm_num, by norm_num⟩, by norm_num⟩

/-- On a finer grid than that of the double it rounds to, a quotient is found only just below a
power of two, and there the grid is twice as fine. -/
theorem RoundsTo.power_of_grid_lt (hnum : num ≠ 0) (hden : den ≠ 0)
    (hcanonical : IsCanonical significand exponent)
    (hrounds : RoundsTo significand exponent (num / den / 2 ^ exponent))
    (hfiner : max leastExponent (floorLog2 num den - 52) < exponent) :
    significand = 2 ^ 52 ∧ (num : ℚ) / den / 2 ^ exponent < 2 ^ 52 ∧
      max leastExponent (floorLog2 num den - 52) = exponent - 1 := by
  obtain ⟨⟨hlow, -, -⟩, hpower⟩ := hrounds
  have hceil := (floorLog2_spec hnum hden).2
  have hunit : (0 : ℚ) < 2 ^ exponent := by positivity
  have hleast : -1074 < exponent := (le_max_left _ _).trans_lt hfiner
  have hfloor : floorLog2 num den + 1 ≤ exponent + 52 := by
    have := (le_max_right _ _).trans_lt hfiner
    omega
  have hsmall : (num : ℚ) / den / 2 ^ exponent < 2 ^ 52 := by
    rw [div_lt_iff₀ hunit, ← zpow_natCast, ← zpow_add₀ two_ne_zero]
    exact hceil.trans_le (zpow_le_zpow_right₀ one_le_two (by omega))
  have hsignificand : significand = 2 ^ 52 := by
    have hup : (significand : ℚ) < 2 ^ 52 + 1 := by linarith
    have hup' : significand < 2 ^ 52 + 1 := by exact_mod_cast hup
    have hhidden := hcanonical.hidden
    omega
  refine ⟨hsignificand, hsmall, ?_⟩
  have hquarter := hpower hsignificand hleast
  have hlarge : (2 : ℚ) ^ (exponent + 51) < 2 ^ (floorLog2 num den + 1) := by
    refine lt_of_le_of_lt ?_ hceil
    rw [add_comm, zpow_add₀ two_ne_zero, ← le_div_iff₀ hunit]
    rw [hsignificand] at hquarter
    norm_num at hquarter ⊢
    linarith
  have hfloor' := (zpow_lt_zpow_iff_right₀ one_lt_two).mp hlarge
  simp only [leastExponent] at hfiner ⊢
  omega

/-- On the grid twice as fine, a number just below a power of two rounds up to the power. -/
theorem RoundsTo.isNearest_two_mul {y : ℚ} (hrounds : RoundsTo (2 ^ 52) exponent y)
    (hleast : -1074 < exponent) (hsmall : y < 2 ^ 52) : IsNearest (2 ^ 53) (2 * y) := by
  have hquarter := hrounds.power rfl hleast
  push_cast at hquarter
  refine ⟨?_, ?_, fun hodd ↦ absurd hodd (by decide)⟩
  · push_cast
    linarith
  · push_cast
    linarith

/-- The power of two has the same bits on both grids. -/
theorem sizeBits_power (hleast : -1074 < exponent) :
    sizeBits (2 ^ 53) (exponent - 1) = sizeBits (2 ^ 52) exponent := by
  simp only [sizeBits, leastExponent]
  omega

/-- **The nearest double.** Whatever rounds to a finite double has its bits as the nearest ones. -/
theorem nearestBits_eq (hden : den ≠ 0) (hcanonical : IsCanonical significand exponent)
    (hrounds : RoundsTo significand exponent (num / den / 2 ^ exponent)) :
    nearestBits num den = sizeBits significand exponent := by
  have hfinite : min infinityBits (sizeBits significand exponent) = sizeBits significand exponent :=
    min_eq_right hcanonical.sizeBits_lt.le
  rcases eq_or_ne num 0 with rfl | hnum
  · obtain rfl : significand = 0 := hrounds.eq_zero (by norm_num)
    obtain rfl : exponent = leastExponent := hcanonical.hidden.resolve_right (by decide)
    rfl
  rcases (grid_le hnum hden hcanonical hrounds.toIsNearest).eq_or_lt with hgrid | hfiner
  · rw [nearestBits_of_exponent hnum hden hgrid hrounds.toIsNearest, hfinite]
  · obtain ⟨rfl, hsmall, hgrid⟩ := hrounds.power_of_grid_lt hnum hden hcanonical hfiner
    have hleast : -1074 < exponent := (le_max_left _ _).trans_lt hfiner
    have htwice : (num : ℚ) / den / 2 ^ (exponent - 1) = 2 * (num / den / 2 ^ exponent) := by
      rw [zpow_sub_one₀ two_ne_zero]
      field_simp
    rw [nearestBits_of_exponent hnum hden hgrid, sizeBits_power hleast, hfinite]
    rw [htwice]
    exact hrounds.isNearest_two_mul hleast hsmall

theorem nearest_eq (hden : den ≠ 0) (hparts : ofFloat x = .finite negative significand exponent)
    (hrounds : RoundsTo significand exponent (num / den / 2 ^ exponent)) :
    nearest negative num den = x := by
  rw [nearest, nearestBits_eq hden (isCanonical_of_ofFloat hparts) hrounds]
  exact eq_of_ofFloat hparts

/-! ## Decimals

A decimal is compared with doubles by the number of its digits: three binary places are taken up by
one decimal place at most. -/

theorem decimal_size {digits : Nat} (tens : Int) (hdigits : digits ≠ 0) :
    (10 : ℚ) ^ (tens + (Nat.toDigits 10 digits).length - 1) ≤ digits * 10 ^ tens ∧
      (digits : ℚ) * 10 ^ tens < 10 ^ (tens + (Nat.toDigits 10 digits).length) := by
  have hpos : 0 < (Nat.toDigits 10 digits).length := Nat.length_toDigits_pos
  have hhigh : digits < 10 ^ (Nat.toDigits 10 digits).length :=
    (Nat.length_toDigits_le_iff (by decide) hpos).mp le_rfl
  have hlow : 10 ^ ((Nat.toDigits 10 digits).length - 1) ≤ digits := by
    rcases Nat.eq_zero_or_pos ((Nat.toDigits 10 digits).length - 1) with hone | hmore
    · rw [hone, pow_zero]
      omega
    · rw [← not_lt, ← Nat.length_toDigits_le_iff (by decide) hmore]
      omega
  constructor
  · rw [show tens + (Nat.toDigits 10 digits).length - 1
        = (((Nat.toDigits 10 digits).length - 1 : ℕ) : ℤ) + tens by omega,
      zpow_add₀ (by norm_num), zpow_natCast]
    gcongr
    exact_mod_cast hlow
  · rw [add_comm tens, zpow_add₀ (by norm_num), zpow_natCast]
    gcongr
    exact_mod_cast hhigh

theorem two_zpow_le_ten_zpow (n : Nat) : (2 : ℚ) ^ (3 * (n : ℤ)) ≤ 10 ^ (n : ℤ) := by
  rw [zpow_mul, zpow_natCast, zpow_natCast]
  gcongr
  norm_num

/-- A decimal that is taken for zero is less than half of any last place. -/
theorem decimal_lt_half {digits : Nat} {tens : Int} (hleast : -1074 ≤ exponent)
    (hsmall : digits = 0 ∨ tens + (Nat.toDigits 10 digits).length < -400) :
    (digits : ℚ) * 10 ^ tens / 2 ^ exponent < 1 / 2 := by
  rcases eq_or_ne digits 0 with rfl | hdigits
  · norm_num
  have hsize := hsmall.resolve_left hdigits
  rw [div_lt_iff₀ (by positivity)]
  calc (digits : ℚ) * 10 ^ tens
      < 10 ^ (tens + (Nat.toDigits 10 digits).length) := (decimal_size tens hdigits).2
    _ ≤ 10 ^ (-((400 : ℕ) : ℤ)) := zpow_le_zpow_right₀ (by norm_num) (by omega)
    _ ≤ 2 ^ (-(3 * ((400 : ℕ) : ℤ))) := by
      rw [zpow_neg, zpow_neg]
      exact inv_anti₀ (by positivity) (two_zpow_le_ten_zpow 400)
    _ ≤ 2 ^ (exponent - 1) := zpow_le_zpow_right₀ one_le_two (by omega)
    _ = 1 / 2 * 2 ^ exponent := by
      rw [zpow_sub_one₀ two_ne_zero]
      ring

/-- A decimal that is taken for an infinity is beyond the greatest finite double. -/
theorem le_decimal {digits : Nat} {tens : Int} (hgreatest : exponent ≤ 971) (hdigits : digits ≠ 0)
    (hlarge : 400 < tens + (Nat.toDigits 10 digits).length) :
    (2 : ℚ) ^ 53 ≤ digits * 10 ^ tens / 2 ^ exponent := by
  rw [le_div_iff₀ (by positivity)]
  calc (2 : ℚ) ^ 53 * 2 ^ exponent
      = 2 ^ (53 + exponent) := by rw [zpow_add₀ two_ne_zero, zpow_ofNat]
    _ ≤ 2 ^ (3 * ((400 : ℕ) : ℤ)) := zpow_le_zpow_right₀ one_le_two (by omega)
    _ ≤ 10 ^ ((400 : ℕ) : ℤ) := two_zpow_le_ten_zpow 400
    _ ≤ 10 ^ (tens + (Nat.toDigits 10 digits).length - 1) :=
      zpow_le_zpow_right₀ (by norm_num) (by omega)
    _ ≤ digits * 10 ^ tens := (decimal_size tens hdigits).1

theorem ofDecimal_eq {digits : Nat} {tens : Int}
    (hparts : ofFloat x = .finite negative significand exponent)
    (hrounds : RoundsTo significand exponent (digits * 10 ^ tens / 2 ^ exponent)) :
    ofDecimal negative digits tens = x := by
  have hcanonical := isCanonical_of_ofFloat hparts
  unfold ofDecimal
  dsimp only
  split
  · next hsmall =>
    obtain rfl : significand = 0 :=
      hrounds.eq_zero (decimal_lt_half hcanonical.le_exponent hsmall)
    refine nearest_eq one_ne_zero hparts ?_
    rw [Nat.cast_zero, zero_div, zero_div]
    exact roundsTo_zero exponent
  · next hsmall =>
    rw [not_or] at hsmall
    rw [if_neg]
    · have hvalue : ((digits * Nat.pow 10 tens.toNat : ℕ) : ℚ) / (Nat.pow 10 (-tens).toNat : ℕ)
          = digits * 10 ^ tens := by
        rw [zpow_eq_pow_div_pow (by norm_num) tens, Nat.pow_eq, Nat.pow_eq]
        push_cast
        field_simp
      refine nearest_eq (by rw [Nat.pow_eq]; positivity) hparts ?_
      rw [hvalue]
      exact hrounds
    · intro hlarge
      have hbeyond := le_decimal hcanonical.exponent_le hsmall.1 hlarge
      have hhigh := hrounds.high
      have hlt : (significand : ℚ) + 1 ≤ 2 ^ 53 := by exact_mod_cast hcanonical.significand_lt
      linarith

end Binary64

end RoadWeather
