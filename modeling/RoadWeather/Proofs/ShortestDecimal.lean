import RoadWeather.Number.Decimal
import RoadWeather.Proofs.NearestDouble

/-!
# The shortest decimal reads back

The text of a double is that of the shortest decimal that rounds to it. The search for it goes from
coarse decimal grids to fine ones and ends at the first one with a multiple that rounds to the
double.

## There always is one

A decimal grid that is finer than half a last place has such a multiple: the first one above the
double is less than half a last place away (`isSome_onGrid`). The last of the grids that are tried,
nineteen places below the coarsest one, is so fine (`last_grid_lt`). The estimate is one between
powers of ten and of two, for which the logarithm is between 28/93 and 3/10
(`ten_zpow_lt_two_zpow`).

## It rounds to the double

The search works with whole numbers, the bounds of the interval being scaled to quarters of a last
place. What the interval holds rounds to the double (`roundsTo_of_holds`), and what rounds to a
double is read as it.
-/

namespace RoadWeather

open Binary64

variable {significand : Nat} {exponent grid : Int} {tie : Tie}

/-! ## Powers of ten and of two -/

/-- A power of ten is below a power of two if both exponents are far enough apart, on either side
of one. The logarithm of ten lies between `93 / 28` and `10 / 3`. -/
theorem ten_zpow_lt_two_zpow {p q : Int} (hlarge : 10 * p < 3 * q) (hsmall : 93 * p < 28 * q) :
    (10 : ℚ) ^ p < 2 ^ q := by
  have hcomm : ∀ (b : ℚ) (n : Nat) (e : Int), (b ^ e) ^ n = (b ^ n) ^ e := fun b n e ↦ by
    rw [← zpow_natCast, ← zpow_natCast, zpow_comm]
  rcases le_total 0 p with hp | hp
  · refine lt_of_pow_lt_pow_left₀ 3 (by positivity) ?_
    calc ((10 : ℚ) ^ p) ^ 3 = (10 ^ 3) ^ p := hcomm 10 3 p
      _ ≤ (2 ^ 10) ^ p := zpow_le_zpow_left₀ hp (by norm_num) (by norm_num)
      _ = 2 ^ (10 * p) := by rw [zpow_mul]; rfl
      _ < 2 ^ (q * 3) := zpow_lt_zpow_right₀ one_lt_two (by omega)
      _ = (2 ^ q) ^ 3 := by rw [zpow_mul]; rfl
  · refine lt_of_pow_lt_pow_left₀ 28 (by positivity) ?_
    calc ((10 : ℚ) ^ p) ^ 28 = (10 ^ 28) ^ p := hcomm 10 28 p
      _ = ((10 ^ 28) ^ (-p))⁻¹ := by rw [zpow_neg, inv_inv]
      _ ≤ ((2 ^ 93) ^ (-p))⁻¹ :=
        inv_anti₀ (by positivity) (zpow_le_zpow_left₀ (by omega) (by norm_num) (by norm_num))
      _ = (2 ^ 93) ^ p := by rw [zpow_neg, inv_inv]
      _ = 2 ^ (93 * p) := by rw [zpow_mul]; rfl
      _ < 2 ^ (q * 28) := zpow_lt_zpow_right₀ one_lt_two (by omega)
      _ = (2 ^ q) ^ 28 := by rw [zpow_mul]; rfl

namespace Decimal

/-- The last grid that is tried is finer than half a last place. -/
theorem last_grid_lt (hcanonical : IsCanonical significand exponent) (hpos : 0 < significand) :
    (10 : ℚ) ^ (coarsestGrid significand exponent - 19) < 2 ^ (exponent - 1) := by
  obtain ⟨hlt, hleast, hgreatest, -⟩ := hcanonical
  have hlog : significand.log2 < 53 := (Nat.log2_lt hpos.ne').mpr hlt
  have hgrid := Int.ediv_mul_le ((significand.log2 + exponent + 1) * 30103)
    (by decide : (100000 : Int) ≠ 0)
  apply ten_zpow_lt_two_zpow
  · unfold coarsestGrid
    omega
  · unfold coarsestGrid
    omega

/-! ## One grid -/

/-- The quotient of the unit of a grid by the scale of the bounds, in quarters of a last place. -/
theorem unit_div_scale (exponent grid : Int) :
    ((Nat.pow 2 (-(exponent - 2)).toNat * Nat.pow 10 grid.toNat : ℕ) : ℚ)
      / (Nat.pow 2 (exponent - 2).toNat * Nat.pow 10 (-grid).toNat : ℕ)
      = 4 * (10 ^ grid / 2 ^ exponent) := by
  have hquarter : (4 : ℚ) * (10 ^ grid / 2 ^ exponent) = 10 ^ grid / 2 ^ (exponent - 2) := by
    rw [zpow_sub₀ two_ne_zero]
    field_simp
    norm_num
  rw [hquarter, zpow_eq_pow_div_pow (by norm_num) grid,
    zpow_eq_pow_div_pow two_ne_zero (exponent - 2)]
  simp only [Nat.pow_eq]
  push_cast
  field_simp

theorem RoundingInterval.le_low_add (significand : Nat) (exponent : Int) :
    4 * significand ≤ (RoundingInterval.of significand exponent).low + 2 := by
  unfold RoundingInterval.of
  dsimp only
  split <;> omega

theorem RoundingInterval.le_low_add_of_power (hpower : significand = 2 ^ 52)
    (hleast : -1074 < exponent) :
    4 * significand ≤ (RoundingInterval.of significand exponent).low + 1 := by
  unfold RoundingInterval.of
  dsimp only
  rw [if_pos ⟨hpower, hleast⟩]
  omega

/-- What the rounding interval of a double holds rounds to it. -/
theorem roundsTo_of_holds {scale n : Nat} {y : ℚ} (hscale : 0 < scale)
    (hy : (n : ℚ) / scale = 4 * y)
    (hholds : (RoundingInterval.of significand exponent).holds scale n = true) :
    RoundsTo significand exponent y := by
  have hscale' : (0 : ℚ) < scale := by exact_mod_cast hscale
  have hlow : 4 * (significand : ℚ) ≤ (RoundingInterval.of significand exponent).low + 2 := by
    exact_mod_cast RoundingInterval.le_low_add significand exponent
  have hpower : significand = 2 ^ 52 → -1074 < exponent →
      4 * (significand : ℚ) ≤ (RoundingInterval.of significand exponent).low + 1 :=
    fun hpow hleast ↦ by exact_mod_cast RoundingInterval.le_low_add_of_power hpow hleast
  have hhigh : ((RoundingInterval.of significand exponent).high : ℚ) = 4 * significand + 2 := by
    simp [RoundingInterval.of]
  have hclosed : (RoundingInterval.of significand exponent).closed = decide (significand % 2 = 0) :=
    rfl
  generalize RoundingInterval.of significand exponent = r at *
  have hle : (r.low : ℚ) ≤ 4 * y ∧ 4 * y ≤ r.high := by
    rw [← hy, le_div_iff₀ hscale', div_le_iff₀ hscale']
    unfold RoundingInterval.holds at hholds
    split at hholds
    · exact_mod_cast of_decide_eq_true hholds
    · have hholds := of_decide_eq_true hholds
      exact ⟨by exact_mod_cast hholds.1.le, by exact_mod_cast hholds.2.le⟩
  have hlt : significand % 2 = 1 → (r.low : ℚ) < 4 * y ∧ 4 * y < r.high := by
    intro hodd
    rw [← hy, lt_div_iff₀ hscale', div_lt_iff₀ hscale']
    rw [RoundingInterval.holds, hclosed, if_neg (by simp [hodd])] at hholds
    exact_mod_cast of_decide_eq_true hholds
  refine ⟨⟨by linarith, by linarith, fun hodd ↦ ?_⟩, fun hpow hleast ↦ ?_⟩
  · obtain ⟨hlt, hgt⟩ := hlt hodd
    exact ⟨by linarith, by linarith⟩
  · have := hpower hpow hleast
    linarith

theorem RoundingInterval.holds_of_lt {scale n : Nat} (habove : 4 * significand * scale < n)
    (hnear : n < (4 * significand + 2) * scale) :
    (RoundingInterval.of significand exponent).holds scale n = true := by
  have hlow : (RoundingInterval.of significand exponent).low * scale < n :=
    (Nat.mul_le_mul_right scale (Nat.sub_le _ _)).trans_lt habove
  have hhigh : n < (RoundingInterval.of significand exponent).high * scale := hnear
  unfold RoundingInterval.holds
  split
  · exact decide_eq_true ⟨hlow.le, hhigh.le⟩
  · exact decide_eq_true ⟨hlow, hhigh⟩

theorem roundsTo_of_onGrid {d : Decimal} (h : onGrid tie significand exponent grid = some d) :
    RoundsTo significand exponent (d.digits * 10 ^ d.exponent / 2 ^ exponent) := by
  unfold onGrid at h
  obtain ⟨n, hfind, rfl⟩ := Option.map_eq_some_iff.mp h
  have hscale : 0 < Nat.pow 2 (exponent - 2).toNat * Nat.pow 10 (-grid).toNat :=
    Nat.mul_pos (Nat.pow_pos (by decide)) (Nat.pow_pos (by decide))
  refine roundsTo_of_holds hscale ?_ (List.find?_some hfind :)
  rw [Nat.cast_mul, mul_div_assoc, unit_div_scale]
  ring

/-- A grid finer than half a last place has a multiple that rounds to the double: the first one
above it. -/
theorem isSome_onGrid (hfine : (10 : ℚ) ^ grid < 2 ^ (exponent - 1)) :
    (onGrid tie significand exponent grid).isSome := by
  have hratio := unit_div_scale exponent grid
  unfold onGrid
  dsimp only
  have hscale : 0 < Nat.pow 2 (exponent - 2).toNat * Nat.pow 10 (-grid).toNat :=
    Nat.mul_pos (Nat.pow_pos (by decide)) (Nat.pow_pos (by decide))
  have hunit : 0 < Nat.pow 2 (-(exponent - 2)).toNat * Nat.pow 10 grid.toNat :=
    Nat.mul_pos (Nat.pow_pos (by decide)) (Nat.pow_pos (by decide))
  generalize Nat.pow 2 (exponent - 2).toNat * Nat.pow 10 (-grid).toNat = scale at *
  generalize Nat.pow 2 (-(exponent - 2)).toNat * Nat.pow 10 grid.toNat = unit at *
  have hsmall : unit < 2 * scale := by
    have hscale' : (0 : ℚ) < scale := by exact_mod_cast hscale
    have hlt : (unit : ℚ) / scale < 2 := by
      rw [hratio, ← lt_div_iff₀' (by norm_num), div_lt_iff₀ (by positivity)]
      rw [zpow_sub_one₀ two_ne_zero] at hfine
      linarith
    rw [div_lt_iff₀ hscale'] at hlt
    exact_mod_cast hlt
  rw [Option.isSome_map, List.find?_isSome]
  refine ⟨4 * significand * scale / unit + 1, by split <;> simp, ?_⟩
  apply RoundingInterval.holds_of_lt
  · rw [Nat.add_mul, Nat.one_mul]
    exact Nat.lt_div_mul_add hunit
  · have hfloor := Nat.div_mul_le_self (4 * significand * scale) unit
    rw [Nat.add_mul, Nat.one_mul, Nat.add_mul]
    omega

/-! ## All grids -/

/-- **The shortest decimal reads back.** The search ends with a decimal that rounds to the
double. -/
theorem roundsTo_shortest (tie : Tie) (hcanonical : IsCanonical significand exponent)
    (hpos : 0 < significand) :
    RoundsTo significand exponent ((shortest tie significand exponent).digits
      * 10 ^ (shortest tie significand exponent).exponent / 2 ^ exponent) := by
  set grids := (List.range 20).map fun i ↦ coarsestGrid significand exponent - (i : Nat) with hgrids
  have hfound : (grids.findSome? (onGrid tie significand exponent)).isSome := by
    rw [List.findSome?_isSome_iff]
    refine ⟨coarsestGrid significand exponent - 19, ?_,
      isSome_onGrid (last_grid_lt hcanonical hpos)⟩
    exact List.mem_map.mpr ⟨19, by decide, rfl⟩
  obtain ⟨d, hd⟩ := Option.isSome_iff_exists.mp hfound
  have hshortest : shortest tie significand exponent = d := by
    rw [shortest, ← hgrids, hd, Option.getD_some]
  obtain ⟨grid, -, hgrid⟩ := List.exists_of_findSome?_eq_some hd
  rw [hshortest]
  exact roundsTo_of_onGrid hgrid

theorem digits_shortest_ne_zero (tie : Tie) (hcanonical : IsCanonical significand exponent)
    (hpos : 0 < significand) : (shortest tie significand exponent).digits ≠ 0 := by
  intro hzero
  have hlow := (roundsTo_shortest tie hcanonical hpos).low
  have hone : (1 : ℚ) ≤ significand := by exact_mod_cast hpos
  rw [hzero, Nat.cast_zero, zero_mul, zero_div] at hlow
  linarith

end Decimal

end RoadWeather
