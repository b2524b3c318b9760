import Mathlib
import RoadWeather.Proofs.Doubles

/-!
# The order of doubles

A finite double is compared by the number it stands for (`Binary64.le_iff`). The logical model of
doubles compares signs, then exponents, and significands only between equal exponents. This is right
because the parts are canonical: the greater of two exponents belongs to the greater number
(`Binary64.IsCanonical.size_lt`).

## Zeros

There are two zeros, and they stand for one number. The model has a case of its own for them, which
is why the unpacked form sets zero apart (`Binary64.unpacked`), and why doubles that compare as
equal need not be the same. They compare alike with all others, though (`Binary64.beq_congr`), and
that is all that validity by a list of codes asks for.

A comparison with a NaN is false either way, so `x < 0` and `0 ≤ x` are no opposites in general.
They are for finite doubles, and what is said here is said of these.
-/

namespace RoadWeather.Binary64

open Float.Model UnpackedFloat

variable {x y : Float} {negative negative' : Bool} {significand significand' : Nat}
  {exponent exponent' : Int}

/-! ## Exact values -/

/-- The number `± significand · 2 ^ exponent`. -/
def signed (negative : Bool) (significand : Nat) (exponent : Int) : ℚ :=
  (if negative then -1 else 1) * (significand * 2 ^ exponent)

/-- The number that a finite double stands for. -/
def exact (x : Float) : ℚ :=
  match ofFloat x with
  | .finite negative significand exponent => signed negative significand exponent
  | .infinite _ => 0
  | .nan => 0

theorem exact_of_ofFloat (h : ofFloat x = .finite negative significand exponent) :
    exact x = signed negative significand exponent := by
  rw [exact, h]

/-! ## The unpacked form -/

def sign (negative : Bool) : Sign := if negative then .negative else .positive

/-- The unpacked form of a finite double. It has zero apart from the others. -/
def unpacked (negative : Bool) (significand : Nat) (exponent : Int) : UnpackedFloat :=
  if h : significand = 0 then .zero (sign negative)
  else .finite (sign negative) significand exponent (Nat.pos_of_ne_zero h)

theorem ofBitVec_unpackSign {b : BitVec 64} {size : Nat}
    (hb : b.toNat = (if negative then 2 ^ 63 else 0) + size) (hsize : size < 2 ^ 63) :
    Sign.ofBitVec (@unpackSign Format.binary64 b) = sign negative := by
  have hsign := toNat_unpackSign b
  rw [hb] at hsign
  cases negative with
  | false =>
    have hzero : @unpackSign Format.binary64 b = 0#1 := by
      apply BitVec.eq_of_toNat_eq
      rw [hsign, BitVec.toNat_ofNat]
      simp only [Bool.false_eq_true, if_false]
      omega
    rw [hzero]
    rfl
  | true =>
    have hone : @unpackSign Format.binary64 b = 1#1 := by
      apply BitVec.eq_of_toNat_eq
      rw [hsign, BitVec.toNat_ofNat]
      simp only [if_true]
      omega
    rw [hone]
    rfl

theorem toNat_hidden_append (v : BitVec 52) : (1#1 ++ v).toNat = 2 ^ 52 + v.toNat := by
  rw [BitVec.toNat_append, ← Nat.shiftLeft_add_eq_or_of_lt v.isLt]
  rfl

/-- Where the exponent field is neither the least nor the greatest one, there is a hidden bit. -/
theorem unpack_of_normal {b : BitVec 64}
    (hsign : Sign.ofBitVec (@unpackSign Format.binary64 b) = sign negative)
    (hexponent : (@unpackExponent Format.binary64 b).toNat = (exponent + 1075).toNat)
    (hmantissa : (@unpackMantissa Format.binary64 b).toNat = significand - 2 ^ 52)
    (hle : -1074 ≤ exponent) (hge : exponent ≤ 971) (hnormal : 2 ^ 52 ≤ significand) :
    UnpackedFloat.unpack .binary64 b = unpacked negative significand exponent := by
  rw [UnpackedFloat.unpack]
  dsimp only
  rw [hsign, if_neg, if_neg, unpacked, dif_neg (by omega), UnpackedFloat.finite.injEq]
  · refine ⟨rfl, ?_, ?_⟩
    · exact (toNat_hidden_append _).trans (by omega)
    · rw [hexponent]
      change _ - (1023 + 52 : Int) = _
      omega
  · intro hzero
    rw [hzero] at hexponent
    change 0 = _ at hexponent
    omega
  · intro hones
    rw [hones] at hexponent
    change 2047 = _ at hexponent
    omega

theorem unpack_of_subnormal {b : BitVec 64}
    (hsign : Sign.ofBitVec (@unpackSign Format.binary64 b) = sign negative)
    (hexponent : @unpackExponent Format.binary64 b = 0#11)
    (hmantissa : (@unpackMantissa Format.binary64 b).toNat = significand) :
    UnpackedFloat.unpack .binary64 b = unpacked negative significand (-1074) := by
  have hones : (0#11 : BitVec 11) ≠ -1#11 := by decide
  rw [UnpackedFloat.unpack]
  dsimp only
  rw [hsign, if_neg (hexponent ▸ hones), if_pos hexponent, unpacked]
  by_cases hzero : significand = 0
  · rw [dif_pos hzero, dif_pos]
    apply BitVec.eq_of_toNat_eq
    rw [hmantissa, hzero]
    rfl
  · rw [dif_neg hzero, dif_neg, UnpackedFloat.finite.injEq]
    · refine ⟨rfl, hmantissa, ?_⟩
      rw [hexponent]
      rfl
    · intro hfractionZero
      rw [hfractionZero] at hmantissa
      exact hzero hmantissa.symm

theorem unpack_eq {b : BitVec 64} (h : IsCanonical significand exponent)
    (hb : b.toNat = (if negative then 2 ^ 63 else 0) + sizeBits significand exponent) :
    UnpackedFloat.unpack .binary64 b = unpacked negative significand exponent := by
  have hsign := ofBitVec_unpackSign hb (h.sizeBits_lt.trans (by decide))
  have hfield := toNat_unpackExponent b
  have hfraction := toNat_unpackMantissa b
  obtain ⟨hlt, hle, hge, hhidden⟩ := h
  simp only [sizeBits, leastExponent] at hb
  have hbits : b.toNat % 2 ^ 63 = (exponent + 1074).toNat * 2 ^ 52 + significand := by
    split at hb <;> omega
  clear hb
  by_cases hnormal : 2 ^ 52 ≤ significand
  · exact unpack_of_normal hsign (by omega) (by omega) hle hge hnormal
  · obtain rfl : exponent = -1074 := hhidden.resolve_right hnormal
    refine unpack_of_subnormal hsign ?_ (by omega)
    apply BitVec.eq_of_toNat_eq
    change _ = 0
    omega

theorem unpack_of_ofFloat (h : ofFloat x = .finite negative significand exponent) :
    x.toModel.unpack = unpacked negative significand exponent :=
  unpack_eq (isCanonical_of_ofFloat h) (toNat_toBits_of_ofFloat h)

/-! ## Order -/

/-- Of two doubles without a sign, the one with the greater exponent is the greater one. -/
theorem IsCanonical.size_lt (h : IsCanonical significand exponent)
    (h' : IsCanonical significand' exponent') (hlt : exponent < exponent') :
    (significand : ℚ) * 2 ^ exponent < significand' * 2 ^ exponent' := by
  have hhidden : 2 ^ 52 ≤ significand' := by
    have hle := h.le_exponent
    exact h'.hidden.resolve_left (by omega)
  have hbound : (significand : ℚ) < 2 ^ 53 := by exact_mod_cast h.significand_lt
  calc (significand : ℚ) * 2 ^ exponent
      < 2 ^ 53 * 2 ^ exponent := by gcongr
    _ = 2 ^ 52 * 2 ^ (exponent + 1) := by rw [zpow_add_one₀ two_ne_zero]; ring
    _ ≤ 2 ^ 52 * 2 ^ exponent' := by
      gcongr
      · exact one_le_two
      · omega
    _ ≤ significand' * 2 ^ exponent' := by
      gcongr
      exact_mod_cast hhidden

/-- Exponents before significands is the order of the numbers. -/
theorem isLE_compare_iff (h : IsCanonical significand exponent)
    (h' : IsCanonical significand' exponent') :
    ((compare exponent exponent').then (compare significand significand')).isLE = true ↔
      (significand : ℚ) * 2 ^ exponent ≤ significand' * 2 ^ exponent' := by
  rcases lt_trichotomy exponent exponent' with hlt | rfl | hgt
  · rw [compare_lt_iff_lt.mpr hlt]
    exact iff_of_true rfl (h.size_lt h' hlt).le
  · rw [compare_eq_iff_eq.mpr rfl, Ordering.eq_then, Nat.isLE_compare,
      mul_le_mul_iff_left₀ (by positivity), Nat.cast_le]
  · rw [compare_gt_iff_gt.mpr hgt]
    exact iff_of_false Bool.false_ne_true (h'.size_lt h hgt).not_ge

theorem size_pos (hsignificand : significand ≠ 0) (exponent : Int) :
    (0 : ℚ) < significand * 2 ^ exponent := by
  have hpos : (0 : ℚ) < significand := by exact_mod_cast Nat.pos_of_ne_zero hsignificand
  positivity

@[simp] theorem signed_false (significand : Nat) (exponent : Int) :
    signed false significand exponent = significand * 2 ^ exponent := one_mul _

@[simp] theorem signed_true (significand : Nat) (exponent : Int) :
    signed true significand exponent = -(significand * 2 ^ exponent) := neg_one_mul _

@[simp] theorem signed_zero (negative : Bool) (exponent : Int) :
    signed negative 0 exponent = 0 := by
  rw [signed, Nat.cast_zero, zero_mul, mul_zero]

theorem zero_le_unpacked_iff (s : Sign) (negative : Bool) (significand : Nat) (exponent : Int) :
    (UnpackedFloat.zero s).le (unpacked negative significand exponent) = true ↔
      0 ≤ signed negative significand exponent := by
  rw [UnpackedFloat.le, unpacked]
  by_cases hzero : significand = 0
  · subst hzero
    rw [dif_pos rfl, signed_zero]
    exact iff_of_true rfl le_rfl
  · have hpos := size_pos hzero exponent
    rw [dif_neg hzero]
    cases negative with
    | false =>
      rw [signed_false]
      exact iff_of_true rfl hpos.le
    | true =>
      rw [signed_true]
      exact iff_of_false Bool.false_ne_true (by linarith)

theorem unpacked_le_zero_iff (s : Sign) (negative : Bool) {significand : Nat}
    (hne : significand ≠ 0) (exponent : Int) :
    (unpacked negative significand exponent).le (UnpackedFloat.zero s) = true ↔
      signed negative significand exponent ≤ 0 := by
  have hpos := size_pos hne exponent
  rw [UnpackedFloat.le, unpacked, dif_neg hne]
  cases negative with
  | false =>
    rw [signed_false]
    exact iff_of_false Bool.false_ne_true hpos.not_ge
  | true =>
    rw [signed_true]
    exact iff_of_true rfl (by linarith)

/-- The order of the unpacked forms. Two numbers with one sign are compared by their size, and the
other way round below zero. -/
theorem le_unpacked_iff (h : IsCanonical significand exponent)
    (h' : IsCanonical significand' exponent') :
    (unpacked negative significand exponent).le (unpacked negative' significand' exponent') = true ↔
      signed negative significand exponent ≤ signed negative' significand' exponent' := by
  by_cases hzero : significand = 0
  · subst hzero
    rw [unpacked, dif_pos rfl, signed_zero]
    exact zero_le_unpacked_iff _ _ _ _
  by_cases hzero' : significand' = 0
  · subst hzero'
    rw [unpacked.eq_1 negative' 0, dif_pos rfl, signed_zero]
    exact unpacked_le_zero_iff _ _ hzero _
  have hpos := size_pos hzero exponent
  have hpos' := size_pos hzero' exponent'
  rw [UnpackedFloat.le, unpacked, unpacked, dif_neg hzero, dif_neg hzero']
  cases negative with
  | false =>
    rw [signed_false]
    cases negative' with
    | false =>
      rw [signed_false]
      exact isLE_compare_iff h h'
    | true =>
      rw [signed_true]
      exact iff_of_false Bool.false_ne_true (by linarith)
  | true =>
    rw [signed_true]
    cases negative' with
    | false =>
      rw [signed_false]
      exact iff_of_true rfl (by linarith)
    | true =>
      rw [signed_true, neg_le_neg_iff, ← isLE_compare_iff h' h, ← Int.compare_swap,
        ← Nat.compare_swap, ← Ordering.swap_then]
      exact Iff.rfl

/-- **Finite doubles are compared by the numbers they stand for.** -/
theorem le_iff (hx : x.isFinite = true) (hy : y.isFinite = true) : x ≤ y ↔ exact x ≤ exact y := by
  obtain ⟨negative, significand, exponent, hx⟩ := isFinite_iff.mp hx
  obtain ⟨negative', significand', exponent', hy⟩ := isFinite_iff.mp hy
  have hle : x ≤ y ↔ x.toModel.unpack.le y.toModel.unpack = true := decide_eq_true_iff
  rw [hle, unpack_of_ofFloat hx, unpack_of_ofFloat hy, exact_of_ofFloat hx, exact_of_ofFloat hy]
  exact le_unpacked_iff (isCanonical_of_ofFloat hx) (isCanonical_of_ofFloat hy)

theorem le_trans_of_isFinite {z : Float} (hx : x.isFinite = true) (hy : y.isFinite = true)
    (hz : z.isFinite = true) (hxy : x ≤ y) (hyz : y ≤ z) : x ≤ z :=
  (le_iff hx hz).mpr (((le_iff hx hy).mp hxy).trans ((le_iff hy hz).mp hyz))

theorem zero_le_iff (hx : x.isFinite = true) : 0 ≤ x ↔ 0 ≤ exact x := by
  have hzero : exact 0 = 0 := (exact_of_ofFloat (by rfl)).trans (signed_zero false leastExponent)
  rw [le_iff (by rfl) hx, hzero]

theorem zero_le_of_not_lt (hx : x.isFinite = true) (h : ¬ x < 0) : 0 ≤ x := by
  have hle : 0 ≤ x ↔ (UnpackedFloat.zero .positive).le x.toModel.unpack = true :=
    decide_eq_true_iff
  have hlt : x < 0 ↔ x.toModel.unpack.lt (.zero .positive) = true := decide_eq_true_iff
  change x.toModel.unpack.isFinite = true at hx
  rw [hle]
  rw [hlt] at h
  cases hunpack : x.toModel.unpack with
  | notANumber =>
    rw [hunpack] at hx
    cases hx
  | infinity s =>
    rw [hunpack] at hx
    cases hx
  | zero s => rfl
  | finite s m e hm =>
    cases s with
    | positive => rfl
    | negative =>
      rw [hunpack] at h
      exact absurd rfl h

theorem lt_zero_iff (hx : x.isFinite = true) : x < 0 ↔ exact x < 0 := by
  rw [← not_le, ← zero_le_iff hx, iff_not_comm]
  refine ⟨fun hle hlt ↦ ?_, zero_le_of_not_lt hx⟩
  have hle' : (UnpackedFloat.zero .positive).le x.toModel.unpack = true := of_decide_eq_true hle
  have hlt' : x.toModel.unpack.lt (.zero .positive) = true := of_decide_eq_true hlt
  change x.toModel.unpack.isFinite = true at hx
  cases hunpack : x.toModel.unpack with
  | notANumber =>
    rw [hunpack] at hx
    cases hx
  | infinity s =>
    rw [hunpack] at hx
    cases hx
  | zero s =>
    rw [hunpack] at hlt'
    exact Bool.false_ne_true hlt'
  | finite s m e hm =>
    rw [hunpack] at hle' hlt'
    cases s with
    | positive => exact Bool.false_ne_true hlt'
    | negative => exact Bool.false_ne_true hle'

/-! ## Equality -/

theorem beq_comm (x y : Float) : (x == y) = (y == x) := by
  rw [Bool.eq_iff_iff, Float.beq_iff_ne_nan_and_eq, Float.beq_iff_ne_nan_and_eq]
  tauto

/-- Doubles that compare as equal compare alike with all others. -/
theorem beq_congr (h : (x == y) = true) (z : Float) : (z == x) = (z == y) := by
  rw [Float.beq_iff_ne_nan_and_eq] at h
  rw [Bool.eq_iff_iff, Float.beq_iff_ne_nan_and_eq, Float.beq_iff_ne_nan_and_eq]
  grind

theorem le_of_beq (h : (x == y) = true) : x ≤ y ∧ y ≤ x := by
  have hle : ∀ {a b : Float}, (a == b) = true → a ≤ b := by
    intro a b hab
    have hcompare : a.toModel.unpack.compare b.toModel.unpack = some .eq := eq_of_beq hab
    have hmodel : a.toModel.unpack.le b.toModel.unpack = true := by
      rw [UnpackedFloat.le, hcompare]
      rfl
    exact decide_eq_true hmodel
  exact ⟨hle h, hle ((beq_comm y x).trans h)⟩

end RoadWeather.Binary64
