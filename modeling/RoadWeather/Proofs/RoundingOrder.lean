import Mathlib
import RoadWeather.Proofs.Products

/-!
# Rounding keeps the order

A smaller number has no greater nearest double (`Binary64.nearestBits_mono`), and the nearest double
of a number below `2 ^ k` is off by no more than half of the last place that such numbers have
(`Binary64.exists_ofFloat_nearest_of_lt`). Whole numbers of up to 53 binary digits are not off at
all (`Binary64.exact_nearest_natCast`).

## The argument

It goes through the grid that the size of a number prescribes, and through the number of its units
that is nearest (`Binary64.Rounded`). On one grid both statements are about nearest integers. A
coarser grid has greater numbers only: its significands have all their digits, as it is not the
finest grid, and a carry on the finer one at most reaches the first of them. So the bits never
decrease, whether the grid changes or not.

## Products

A product of doubles is the double nearest to the exact product, so what is said of nearest doubles
is said of products (`Binary64.abs_exact_mul_le`, `Binary64.abs_exact_mul_sub_le`). The order is
kept among those that are finite. Signs come in last, since they are of no account for the size of
what is rounded.
-/

namespace RoadWeather

variable {s t : Nat} {y z : ℚ}

theorem IsNearest.mono (hs : IsNearest s y) (ht : IsNearest t z) (hle : y ≤ z) : s ≤ t := by
  by_contra hgt
  -- Only half way between the two can they be apart, and there both go to the even one.
  have hsucc : (t : ℚ) + 1 ≤ s := by exact_mod_cast not_le.mp hgt
  have hlow := hs.low
  have hhigh := ht.high
  have hs_eq : s = t + 1 := by
    have hupper : (s : ℚ) ≤ t + 1 := by linarith
    have hupper' : s ≤ t + 1 := by exact_mod_cast hupper
    omega
  rcases Nat.mod_two_eq_zero_or_one t with heven | hodd
  · linarith [(hs.odd (by omega)).1]
  · linarith [(ht.odd hodd).2]

theorem IsNearest.eq_of_natCast (h : IsNearest s (t : ℚ)) : s = t := by
  refine le_antisymm ?_ (h.ge_of_le le_rfl)
  have hlow := h.low
  have hlt : (s : ℚ) < t + 1 := by linarith
  exact Nat.lt_succ_iff.mp (by exact_mod_cast hlt)

namespace Binary64

variable {x y x' y' : Float} {negative negative' : Bool}
  {num den num' den' significand significand' : Nat} {exponent exponent' k : Int}

/-! ## Grids

A number prescribes its grid by its size. The bits of the nearest double are put together from the
grid and from the number of units on it, with a carry if there is one digit too many. -/

/-- The grid of a quotient. -/
def grid (num den : Nat) : Int := max leastExponent (floorLog2 num den - 52)

/-- The number of units of its grid that is nearest to a quotient. It may have one digit too many,
and it is the significand of the nearest double otherwise. -/
structure Rounded (num den significand : Nat) : Prop where
  nearest : IsNearest significand ((num : ℚ) / den / 2 ^ grid num den)
  significand_le : significand ≤ 2 ^ 53
  hidden : grid num den = -1074 ∨ 2 ^ 52 ≤ significand
  bits : nearestBits num den = min infinityBits (sizeBits significand (grid num den))

theorem leastExponent_le_grid (num den : Nat) : -1074 ≤ grid num den := le_max_left _ _

theorem exists_rounded (hnum : num ≠ 0) (hden : den ≠ 0) : ∃ s, Rounded num den s := by
  obtain ⟨s, hnearest⟩ := exists_isNearest num hden (grid num den)
  obtain ⟨hbelow, habove⟩ := grid_bounds hnum hden rfl
  refine ⟨s, hnearest, hnearest.le_of_lt (by exact_mod_cast hbelow), ?_,
    nearestBits_of_exponent hnum hden rfl hnearest⟩
  exact habove.imp_right fun h ↦ hnearest.ge_of_le (by exact_mod_cast h)

theorem floorLog2_mono (hnum : num ≠ 0) (hden : den ≠ 0) (hnum' : num' ≠ 0) (hden' : den' ≠ 0)
    (hle : (num : ℚ) / den ≤ num' / den') : floorLog2 num den ≤ floorLog2 num' den' := by
  have hpower := ((floorLog2_spec hnum hden).1.trans hle).trans_lt (floorLog2_spec hnum' hden').2
  exact Int.lt_add_one_iff.mp ((zpow_lt_zpow_iff_right₀ one_lt_two).mp hpower)

theorem grid_mono (hnum : num ≠ 0) (hden : den ≠ 0) (hnum' : num' ≠ 0) (hden' : den' ≠ 0)
    (hle : (num : ℚ) / den ≤ num' / den') : grid num den ≤ grid num' den' :=
  max_le_max_left _ (sub_le_sub_right (floorLog2_mono hnum hden hnum' hden' hle) 52)

/-- Numbers below a power of two have its grid or a finer one. -/
theorem grid_le_of_lt (hnum : num ≠ 0) (hden : den ≠ 0) (hlt : (num : ℚ) / den < 2 ^ k)
    (hk : -1021 ≤ k) : grid num den ≤ k - 53 := by
  have hpower := (floorLog2_spec hnum hden).1.trans_lt hlt
  have hfloor := (zpow_lt_zpow_iff_right₀ (one_lt_two : (1 : ℚ) < 2)).mp hpower
  simp only [grid, leastExponent]
  omega

/-! ## Order -/

/-- **Rounding keeps the order.** -/
theorem nearestBits_mono (hden : den ≠ 0) (hden' : den' ≠ 0)
    (hle : (num : ℚ) / den ≤ num' / den') : nearestBits num den ≤ nearestBits num' den' := by
  by_cases hnum : num = 0
  · rw [hnum, nearestBits_zero]
    exact Nat.zero_le _
  have hpos : (0 : ℚ) < num / den := by
    have hn : (0 : ℚ) < num := by exact_mod_cast Nat.pos_of_ne_zero hnum
    have hd : (0 : ℚ) < den := by exact_mod_cast Nat.pos_of_ne_zero hden
    positivity
  have hnum' : num' ≠ 0 := by
    rintro rfl
    rw [Nat.cast_zero, zero_div] at hle
    exact absurd hle (not_le.mpr hpos)
  obtain ⟨s, hs⟩ := exists_rounded hnum hden
  obtain ⟨t, ht⟩ := exists_rounded hnum' hden'
  rw [hs.bits, ht.bits]
  refine min_le_min_left _ ?_
  have hleast := leastExponent_le_grid num den
  rcases (grid_mono hnum hden hnum' hden' hle).eq_or_lt with heq | hlt
  · have hunits : s ≤ t := by
      refine hs.nearest.mono ht.nearest ?_
      rw [heq]
      gcongr
    rw [heq]
    exact Nat.add_le_add_left hunits _
  · -- The coarser grid is not the finest one.
    have hall := ht.hidden.resolve_left (by omega)
    have hmost := hs.significand_le
    simp only [sizeBits, leastExponent]
    omega

theorem IsCanonical.size_le_of_sizeBits_le (h : IsCanonical significand exponent)
    (h' : IsCanonical significand' exponent')
    (hle : sizeBits significand exponent ≤ sizeBits significand' exponent') :
    (significand : ℚ) * 2 ^ exponent ≤ significand' * 2 ^ exponent' := by
  rcases lt_trichotomy exponent exponent' with hlt | rfl | hgt
  · exact (h.size_lt h' hlt).le
  · have hsignificand : significand ≤ significand' := Nat.le_of_add_le_add_left hle
    gcongr
  · -- The greater exponent has the greater bits.
    obtain ⟨hlt, hexponent, -, hhidden⟩ := h
    obtain ⟨hlt', hexponent', -, -⟩ := h'
    simp only [sizeBits, leastExponent] at hle
    omega

/-- What is on a grid has the bits of one number only. -/
theorem IsCanonical.size_eq_of_sizeBits_eq (h : IsCanonical significand exponent)
    (hsignificand : significand' ≤ 2 ^ 53) (hexponent : -1074 ≤ exponent')
    (hhidden : exponent' = -1074 ∨ 2 ^ 52 ≤ significand')
    (hbits : sizeBits significand' exponent' = sizeBits significand exponent) :
    (significand' : ℚ) * 2 ^ exponent' = significand * 2 ^ exponent := by
  obtain ⟨hlt, hleast, -, hhidden'⟩ := h
  rcases hsignificand.eq_or_lt with rfl | hlt'
  · -- A carry leads to the power of two on the next grid.
    rw [← add_sub_cancel_right exponent' 1, sizeBits_power (by omega)] at hbits
    simp only [sizeBits, leastExponent] at hbits
    obtain rfl : exponent = exponent' + 1 := by omega
    obtain rfl : significand = 2 ^ 52 := by omega
    rw [zpow_add_one₀ two_ne_zero]
    push_cast
    ring
  · simp only [sizeBits, leastExponent] at hbits
    obtain rfl : exponent = exponent' := by omega
    obtain rfl : significand = significand' := by omega
    rfl

/-! ## The nearest double -/

theorem exists_ofFloat_nearest (negative : Bool) (hden : den ≠ 0)
    (hlt : (num : ℚ) / den < overflow) :
    ∃ significand exponent, ofFloat (nearest negative num den)
        = .finite negative significand exponent ∧
      nearestBits num den = sizeBits significand exponent := by
  have hbits := (nearestBits_lt_iff hden).mpr hlt
  obtain ⟨negative', significand, exponent, hparts⟩ :=
    isFinite_iff.mp ((isFinite_nearest_iff negative hden).mpr hlt)
  have hsize := (isCanonical_of_ofFloat hparts).sizeBits_lt
  have hwords := toNat_toBits_of_ofFloat hparts
  rw [nearest_eq_ofBits, toBits_ofBits_signedBits negative hbits] at hwords
  simp only [infinityBits] at hbits hsize
  obtain rfl : negative' = negative := by
    cases negative with
    | false =>
      cases negative' with
      | false => rfl
      | true =>
        simp only [Bool.false_eq_true, if_false, if_true] at hwords
        omega
    | true =>
      cases negative' with
      | false =>
        simp only [Bool.false_eq_true, if_false, if_true] at hwords
        omega
      | true => rfl
  exact ⟨significand, exponent, hparts, Nat.add_left_cancel hwords⟩

/-- The size of the nearest bits is that of the number of units on the grid. -/
theorem Rounded.size_eq (h : Rounded num den significand')
    (hcanonical : IsCanonical significand exponent)
    (hbits : nearestBits num den = sizeBits significand exponent) :
    (significand' : ℚ) * 2 ^ grid num den = significand * 2 ^ exponent := by
  have hfinite := hcanonical.sizeBits_lt
  rw [h.bits] at hbits
  refine hcanonical.size_eq_of_sizeBits_eq h.significand_le (leastExponent_le_grid num den)
    h.hidden ?_
  omega

/-- **The nearest double is close.** Its size differs from a number below a power of two by no more
than half of the last place there. -/
theorem exists_ofFloat_nearest_of_lt (negative : Bool) (hden : den ≠ 0)
    (hlt : (num : ℚ) / den < 2 ^ k) (hlow : -1021 ≤ k) (hhigh : k ≤ 1023) :
    ∃ significand exponent, ofFloat (nearest negative num den)
        = .finite negative significand exponent ∧
      |(significand : ℚ) * 2 ^ exponent - num / den| ≤ 2 ^ (k - 54) := by
  have hoverflow : (2 : ℚ) ^ k ≤ overflow := by
    refine le_trans ?_ le_overflow
    rw [← zpow_natCast, ← zpow_add₀ two_ne_zero]
    exact zpow_le_zpow_right₀ one_le_two (by omega)
  obtain ⟨significand, exponent, hparts, hbits⟩ :=
    exists_ofFloat_nearest negative hden (hlt.trans_le hoverflow)
  refine ⟨significand, exponent, hparts, ?_⟩
  by_cases hnum : num = 0
  · obtain rfl : significand = 0 := by
      rw [hnum, nearestBits_zero, sizeBits] at hbits
      omega
    rw [hnum, Nat.cast_zero, zero_mul, zero_div, sub_zero, abs_zero]
    positivity
  obtain ⟨s, hs⟩ := exists_rounded hnum hden
  have hunit : (0 : ℚ) < 2 ^ grid num den := by positivity
  have hhalf : |(s : ℚ) - num / den / 2 ^ grid num den| ≤ 1 / 2 := by
    rw [abs_le]
    exact ⟨by linarith [hs.nearest.high], by linarith [hs.nearest.low]⟩
  calc |(significand : ℚ) * 2 ^ exponent - num / den|
      = |(s : ℚ) - num / den / 2 ^ grid num den| * 2 ^ grid num den := by
        rw [← hs.size_eq (isCanonical_of_ofFloat hparts) hbits, ← abs_of_pos hunit, ← abs_mul,
          abs_of_pos hunit, sub_mul, div_mul_cancel₀ _ hunit.ne']
    _ ≤ 1 / 2 * 2 ^ grid num den := by gcongr
    _ ≤ 1 / 2 * 2 ^ (k - 53) := by
        gcongr
        · exact one_le_two
        · exact grid_le_of_lt hnum hden hlt hlow
    _ = 2 ^ (k - 54) := by
        rw [show k - 53 = k - 54 + 1 by ring, zpow_add_one₀ two_ne_zero]
        ring

theorem natCast_lt_overflow {n : Nat} (hn : n < 2 ^ 53) : (n : ℚ) / (1 : ℕ) < overflow := by
  rw [Nat.cast_one, div_one]
  calc (n : ℚ) < 2 ^ 53 := by exact_mod_cast hn
    _ ≤ 2 ^ 53 * 2 ^ (970 : ℤ) :=
      le_mul_of_one_le_right (by positivity) (one_le_zpow₀ one_le_two (by decide))
    _ ≤ overflow := le_overflow

/-- **Whole numbers are doubles**, as long as they have no more digits than a significand. -/
theorem exact_nearest_natCast (negative : Bool) {n : Nat} (hn : n < 2 ^ 53) :
    exact (nearest negative n 1) = (if negative then -1 else 1) * n := by
  have hbelow : (n : ℚ) / (1 : ℕ) < 2 ^ (53 : ℤ) := by
    rw [Nat.cast_one, div_one]
    exact_mod_cast hn
  obtain ⟨significand, exponent, hparts, hbits⟩ :=
    exists_ofFloat_nearest negative one_ne_zero (natCast_lt_overflow hn)
  have hcanonical := isCanonical_of_ofFloat hparts
  rw [exact_of_ofFloat hparts, signed]
  congr 1
  by_cases hzero : n = 0
  · obtain rfl : significand = 0 := by
      rw [hzero, nearestBits_zero, sizeBits] at hbits
      omega
    rw [hzero, Nat.cast_zero, zero_mul]
  obtain ⟨s, hs⟩ := exists_rounded hzero one_ne_zero
  have hfine : grid n 1 ≤ 0 := grid_le_of_lt hzero one_ne_zero hbelow (by decide)
  -- On a grid of fractions a whole number is whole.
  obtain ⟨places, hplaces⟩ : ∃ places : ℕ, grid n 1 = -places := ⟨(-grid n 1).toNat, by omega⟩
  have hwhole : (n : ℚ) / (1 : ℕ) / 2 ^ grid n 1 = (n * 2 ^ places : ℕ) := by
    rw [hplaces, zpow_neg, zpow_natCast, div_inv_eq_mul]
    push_cast
    rw [div_one]
  have hnearest := hs.nearest
  rw [hwhole] at hnearest
  rw [← hs.size_eq hcanonical hbits, hnearest.eq_of_natCast, ← hwhole, Nat.cast_one, div_one,
    div_mul_cancel₀ _ (by positivity)]

theorem isFinite_ofInt {n : Int} (hn : n.natAbs < 2 ^ 53) : (ofInt n).isFinite = true := by
  rw [ofInt, ofNat, isFinite_nearest_iff _ one_ne_zero]
  exact natCast_lt_overflow hn

theorem exact_ofInt {n : Int} (hn : n.natAbs < 2 ^ 53) : exact (ofInt n) = n := by
  rw [ofInt, ofNat, exact_nearest_natCast _ hn]
  by_cases hneg : n < 0
  · rw [decide_eq_true hneg, if_pos rfl, neg_one_mul, Nat.cast_natAbs, abs_of_neg hneg]
    push_cast
    ring
  · rw [decide_eq_false hneg, if_neg Bool.false_ne_true, one_mul, Nat.cast_natAbs,
      abs_of_nonneg (not_lt.mp hneg)]

theorem between_iff {low high : Int} (hlow : low.natAbs < 2 ^ 53) (hhigh : high.natAbs < 2 ^ 53)
    (x : Float) :
    (ofInt low ≤ x ∧ x ≤ ofInt high) ↔ x.isFinite = true ∧ low ≤ exact x ∧ exact x ≤ high := by
  have hlowFinite := isFinite_ofInt hlow
  have hhighFinite := isFinite_ofInt hhigh
  constructor
  · rintro ⟨hle, hge⟩
    have hx := isFinite_of_le_of_le hlowFinite hhighFinite hle hge
    rw [le_iff hlowFinite hx, exact_ofInt hlow] at hle
    rw [le_iff hx hhighFinite, exact_ofInt hhigh] at hge
    exact ⟨hx, hle, hge⟩
  · rintro ⟨hx, hle, hge⟩
    rw [le_iff hlowFinite hx, le_iff hx hhighFinite, exact_ofInt hlow, exact_ofInt hhigh]
    exact ⟨hle, hge⟩

/-! ## Products -/

/-- A smaller number has no greater nearest double, whatever the signs. -/
theorem abs_exact_nearest_le (hden : den ≠ 0) (hden' : den' ≠ 0)
    (hlt : (num' : ℚ) / den' < overflow) (hle : (num : ℚ) / den ≤ num' / den') :
    |exact (nearest negative num den)| ≤ |exact (nearest negative' num' den')| := by
  obtain ⟨significand, exponent, hparts, hbits⟩ :=
    exists_ofFloat_nearest negative hden (hle.trans_lt hlt)
  obtain ⟨significand', exponent', hparts', hbits'⟩ :=
    exists_ofFloat_nearest negative' hden' hlt
  rw [exact_of_ofFloat hparts, exact_of_ofFloat hparts', abs_signed, abs_signed]
  refine (isCanonical_of_ofFloat hparts).size_le_of_sizeBits_le (isCanonical_of_ofFloat hparts') ?_
  rw [← hbits, ← hbits']
  exact nearestBits_mono hden hden' hle

/-- **Products keep the order in size**, as long as the greater one is finite. -/
theorem abs_exact_mul_le (hx : x.isFinite = true) (hy : y.isFinite = true)
    (hx' : x'.isFinite = true) (hy' : y'.isFinite = true) (hfinite : (x' * y').isFinite = true)
    (hle : |exact x * exact y| ≤ |exact x' * exact y'|) :
    |exact (x * y)| ≤ |exact (x' * y')| := by
  have hlt := (isFinite_mul_iff hx' hy').mp hfinite
  obtain ⟨_, _, _, hx⟩ := isFinite_iff.mp hx
  obtain ⟨_, _, _, hy⟩ := isFinite_iff.mp hy
  obtain ⟨_, _, _, hx'⟩ := isFinite_iff.mp hx'
  obtain ⟨_, _, _, hy'⟩ := isFinite_iff.mp hy'
  obtain ⟨num, den, hden, hvalue, hmul⟩ := exists_mul_eq_nearest hx hy
  obtain ⟨num', den', hden', hvalue', hmul'⟩ := exists_mul_eq_nearest hx' hy'
  rw [← hvalue, ← hvalue'] at hle
  rw [← hvalue'] at hlt
  rw [hmul, hmul']
  exact abs_exact_nearest_le hden hden' hlt hle

theorem mul_le_mul_of_le {factor : Float} (hx : x.isFinite = true) (hy : y.isFinite = true)
    (hfactor : factor.isFinite = true) (hfinite : (y * factor).isFinite = true) (hx0 : 0 ≤ x)
    (hfactor0 : 0 ≤ factor) (hle : x ≤ y) : x * factor ≤ y * factor := by
  have hy0 : 0 ≤ y := le_trans_of_isFinite (by rfl) hx hy hx0 hle
  have hprod0 := zero_le_mul hx hfactor hx0 hfactor0
  have hprod0' := zero_le_mul hy hfactor hy0 hfactor0
  rw [zero_le_iff hx] at hx0
  rw [zero_le_iff hy] at hy0
  rw [zero_le_iff hfactor] at hfactor0
  have hsize : |exact x * exact factor| ≤ |exact y * exact factor| := by
    rw [abs_of_nonneg (mul_nonneg hx0 hfactor0), abs_of_nonneg (mul_nonneg hy0 hfactor0)]
    exact mul_le_mul_of_nonneg_right ((le_iff hx hy).mp hle) hfactor0
  have hfinite' : (x * factor).isFinite = true :=
    (isFinite_mul_iff hx hfactor).mpr (hsize.trans_lt ((isFinite_mul_iff hy hfactor).mp hfinite))
  rw [zero_le_iff hfinite'] at hprod0
  rw [zero_le_iff hfinite] at hprod0'
  rw [le_iff hfinite' hfinite, ← abs_of_nonneg hprod0, ← abs_of_nonneg hprod0']
  exact abs_exact_mul_le hx hfactor hy hfactor hfinite hsize

theorem exact_mul_exact (hx : ofFloat x = .finite negative significand exponent)
    (hy : ofFloat y = .finite negative' significand' exponent') :
    exact x * exact y
      = (if negative ^^ negative' then -1 else 1) * |exact x * exact y| := by
  rw [exact_of_ofFloat hx, exact_of_ofFloat hy, abs_mul, abs_signed, abs_signed]
  cases negative <;> cases negative' <;> simp

/-- **A product is close to the exact one.** -/
theorem abs_exact_mul_sub_le (hx : x.isFinite = true) (hy : y.isFinite = true)
    (hlt : |exact x * exact y| < 2 ^ k) (hlow : -1021 ≤ k) (hhigh : k ≤ 1023) :
    (x * y).isFinite = true ∧ |exact (x * y) - exact x * exact y| ≤ 2 ^ (k - 54) := by
  obtain ⟨negative, _, _, hx⟩ := isFinite_iff.mp hx
  obtain ⟨negative', _, _, hy⟩ := isFinite_iff.mp hy
  obtain ⟨num, den, hden, hvalue, hmul⟩ := exists_mul_eq_nearest hx hy
  rw [← hvalue] at hlt
  obtain ⟨significand, exponent, hparts, hclose⟩ :=
    exists_ofFloat_nearest_of_lt (negative ^^ negative') hden hlt hlow hhigh
  rw [← hmul] at hparts
  refine ⟨isFinite_iff.mpr ⟨_, _, _, hparts⟩, ?_⟩
  rw [exact_mul_exact hx hy, ← hvalue, exact_of_ofFloat hparts, signed, ← mul_sub, abs_mul]
  cases (negative ^^ negative') <;> simpa using hclose

end Binary64

end RoadWeather
