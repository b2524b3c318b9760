import Mathlib
import RoadWeather.Number.Binary64

/-!
# The parts of a double

A finite double is written in one way as `± significand · 2 ^ exponent` within the bounds of its
format (`Binary64.IsCanonical`), and its bits are put together from the three. So a double is
found again from the bits of its size and its sign, which is how the nearest one is built.
-/

namespace RoadWeather.Binary64

open Float.Model UnpackedFloat

variable {x : Float} {negative : Bool} {significand : Nat} {exponent : Int}

/-! ## Canonical parts -/

/-- The significands and exponents of finite doubles: only the least exponent has significands
without the hidden bit. -/
structure IsCanonical (significand : Nat) (exponent : Int) : Prop where
  significand_lt : significand < 2 ^ 53
  le_exponent : -1074 ≤ exponent
  exponent_le : exponent ≤ 971
  hidden : exponent = -1074 ∨ 2 ^ 52 ≤ significand

/-- The bits of `significand · 2 ^ exponent`. The hidden bit adds one to the exponent field. -/
def sizeBits (significand : Nat) (exponent : Int) : Nat :=
  (exponent - leastExponent).toNat * 2 ^ 52 + significand

theorem IsCanonical.sizeBits_lt (h : IsCanonical significand exponent) :
    sizeBits significand exponent < infinityBits := by
  obtain ⟨hlt, hle, hge, -⟩ := h
  simp only [sizeBits, infinityBits, leastExponent]
  omega

theorem isCanonical_of_ofFloat (h : ofFloat x = .finite negative significand exponent) :
    IsCanonical significand exponent := by
  simp only [ofFloat, Nat.pow_eq, leastExponent] at h
  have hfraction : x.toBits.toNat % 2 ^ 52 < 2 ^ 52 := Nat.mod_lt _ (by decide)
  have hfield : x.toBits.toNat / 2 ^ 52 % 2 ^ 11 < 2 ^ 11 := Nat.mod_lt _ (by decide)
  split at h
  · split at h <;> cases h
  · split at h
    · obtain ⟨-, rfl, rfl⟩ := Binary64.finite.inj h
      exact ⟨by omega, by omega, by omega, Or.inl rfl⟩
    · obtain ⟨-, rfl, rfl⟩ := Binary64.finite.inj h
      exact ⟨by omega, by omega, by omega, Or.inr (by omega)⟩

/-- The bits of a finite double are those of its size, below that of its sign. -/
theorem toNat_toBits_of_ofFloat (h : ofFloat x = .finite negative significand exponent) :
    x.toBits.toNat = (if negative then 2 ^ 63 else 0) + sizeBits significand exponent := by
  have hlt : x.toBits.toNat < 2 ^ 64 := x.toBits.toNat_lt
  simp only [ofFloat, Nat.pow_eq, leastExponent] at h
  simp only [sizeBits, leastExponent]
  split at h
  · split at h <;> cases h
  · split at h
    · obtain ⟨rfl, rfl, rfl⟩ := Binary64.finite.inj h
      simp only [decide_eq_true_eq]
      split <;> omega
    · obtain ⟨rfl, rfl, rfl⟩ := Binary64.finite.inj h
      simp only [decide_eq_true_eq]
      split <;> omega

/-! ## The fields of the bits

The logical model cuts the fields out of a bit vector. As natural numbers they are quotients and
remainders of the bits. -/

theorem toNat_unpackExponent (b : BitVec 64) :
    (@unpackExponent Format.binary64 b).toNat = b.toNat / 2 ^ 52 % 2 ^ 11 := by
  rw [unpackExponent_def, BitVec.extractLsb'_toNat, Nat.shiftRight_eq_div_pow]

theorem toNat_unpackMantissa (b : BitVec 64) :
    (@unpackMantissa Format.binary64 b).toNat = b.toNat % 2 ^ 52 := by
  rw [unpackMantissa_def, BitVec.extractLsb'_toNat, Nat.shiftRight_zero]

theorem toNat_unpackSign (b : BitVec 64) :
    (@unpackSign Format.binary64 b).toNat = b.toNat / 2 ^ 63 % 2 := by
  rw [unpackSign_def, BitVec.extractLsb'_toNat, Nat.shiftRight_eq_div_pow]
  rfl

theorem isFinite_iff_field : x.isFinite = true ↔ x.toBits.toNat / 2 ^ 52 % 2 ^ 11 ≠ 2047 := by
  have hunpack : x.isFinite = (UnpackedFloat.unpack .binary64 x.toBits.toBitVec).isFinite := rfl
  have hones : (-1#11 : BitVec 11).toNat = 2047 := by decide
  rw [← x.toBits.toNat_toBitVec, ← toNat_unpackExponent, ← hones, ne_eq, BitVec.toNat_inj, hunpack,
    UnpackedFloat.unpack]
  dsimp only
  split
  · next h => split <;> exact iff_of_false Bool.false_ne_true fun hne ↦ hne h
  · next h =>
    refine iff_of_true ?_ h
    split
    · split <;> rfl
    · rfl

theorem isFinite_iff : x.isFinite = true ↔
    ∃ negative significand exponent, ofFloat x = .finite negative significand exponent := by
  rw [isFinite_iff_field]
  simp only [ofFloat, Nat.pow_eq]
  split
  · next h =>
    refine ⟨fun hne ↦ absurd h hne, ?_⟩
    rintro ⟨_, _, _, heq⟩
    split at heq <;> cases heq
  · next h =>
    refine ⟨fun _ ↦ ?_, fun _ ↦ h⟩
    split
    · exact ⟨_, _, _, rfl⟩
    · exact ⟨_, _, _, rfl⟩

theorem le_eq_false_left {u : UnpackedFloat} (hu : u.isFinite = true) :
    UnpackedFloat.notANumber.le u = false ∧ (UnpackedFloat.infinity .positive).le u = false := by
  cases u with
  | infinity s => cases hu
  | notANumber => cases hu
  | zero s => exact ⟨rfl, rfl⟩
  | finite s m e h => exact ⟨rfl, rfl⟩

theorem le_eq_false_right {l : UnpackedFloat} (hl : l.isFinite = true) :
    l.le (.infinity .negative) = false := by
  cases l with
  | infinity s => cases hl
  | notANumber => cases hl
  | zero s => rfl
  | finite s m e h => rfl

theorem isFinite_of_le_of_le {low high : Float} (hlow : low.isFinite = true)
    (hhigh : high.isFinite = true) (hle : low ≤ x) (hge : x ≤ high) : x.isFinite = true := by
  have hle : low.toModel.unpack.le x.toModel.unpack = true := of_decide_eq_true hle
  have hge : x.toModel.unpack.le high.toModel.unpack = true := of_decide_eq_true hge
  obtain ⟨hnan, hinfinity⟩ := le_eq_false_left (u := high.toModel.unpack) hhigh
  change x.toModel.unpack.isFinite = true
  cases hx : x.toModel.unpack with
  | finite => rfl
  | zero => rfl
  | notANumber =>
    rw [hx, hnan] at hge
    cases hge
  | infinity s =>
    rw [hx] at hle hge
    cases s with
    | positive =>
      rw [hinfinity] at hge
      cases hge
    | negative =>
      rw [le_eq_false_right (l := low.toModel.unpack) hlow] at hle
      cases hle

/-! ## Doubles from their bits

Bits of a finite double are kept as they are when a double is made of them. Those of a NaN need not
be, and so the exponent field has to be looked at first. -/

theorem neg_unpack {b b' : BitVec 64} (hb : b.toNat < 2 ^ 63) (hb' : b'.toNat = 2 ^ 63 + b.toNat) :
    (UnpackedFloat.unpack .binary64 b).neg = UnpackedFloat.unpack .binary64 b' := by
  have hexponent : @unpackExponent .binary64 b' = @unpackExponent .binary64 b := by
    apply BitVec.eq_of_toNat_eq
    rw [toNat_unpackExponent, toNat_unpackExponent, hb']
    omega
  have hmantissa : @unpackMantissa .binary64 b' = @unpackMantissa .binary64 b := by
    apply BitVec.eq_of_toNat_eq
    rw [toNat_unpackMantissa, toNat_unpackMantissa, hb']
    omega
  have hpositive : @unpackSign .binary64 b = 0#1 := by
    apply BitVec.eq_of_toNat_eq
    rw [toNat_unpackSign, BitVec.toNat_ofNat]
    omega
  have hnegative : @unpackSign .binary64 b' = 1#1 := by
    apply BitVec.eq_of_toNat_eq
    rw [toNat_unpackSign, hb', BitVec.toNat_ofNat]
    omega
  -- Each kind of unpacked float is negated by its sign alone.
  simp only [UnpackedFloat.unpack, hexponent, hmantissa, hpositive, hnegative]
  split
  · split <;> rfl
  · split
    · split <;> rfl
    · rfl

/-- Bits of a number are no NaN, and so are kept as they are. -/
theorem pack_unpack_of_field {b : BitVec 64} (hb : b.toNat / 2 ^ 52 % 2 ^ 11 ≠ 2047) :
    UnpackedFloat.pack .binary64 (UnpackedFloat.unpack .binary64 b) = b := by
  have hexponent : @unpackExponent .binary64 b ≠ -1#11 := by
    have hones : (-1#11 : BitVec 11).toNat = 2047 := by decide
    rw [ne_eq, ← BitVec.toNat_inj, toNat_unpackExponent, hones]
    exact hb
  have hnumber : @isNaNBits .binary64 b = false := by
    simp only [isNaNBits, hexponent, false_and, decide_false]
  rw [@pack_unpack .binary64 b (by decide), hnumber, if_neg Bool.false_ne_true]

theorem pack_unpack_of_lt {b : BitVec 64} (hb : b.toNat < infinityBits) :
    UnpackedFloat.pack .binary64 (UnpackedFloat.unpack .binary64 b) = b := by
  refine pack_unpack_of_field ?_
  simp only [infinityBits] at hb
  omega

theorem toBits_ofBits {w : UInt64} (hw : w.toNat / 2 ^ 52 % 2 ^ 11 ≠ 2047) :
    (Float.ofBits w).toBits = w := by
  have hbits : (Float.ofBits w).toBits = .ofBitVec (UnpackedFloat.pack .binary64
    (UnpackedFloat.unpack .binary64 w.toBitVec)) := rfl
  rw [hbits, pack_unpack_of_field hw]

theorem neg_ofBits {w w' : UInt64} (h : w.toNat < infinityBits)
    (hw' : w'.toNat = 2 ^ 63 + w.toNat) : -(Float.ofBits w) = Float.ofBits w' := by
  have hbound : w.toNat < 2 ^ 63 := h.trans (by decide)
  calc -(Float.ofBits w)
      = .ofModel (.pack (UnpackedFloat.unpack .binary64 (UnpackedFloat.pack .binary64
          (UnpackedFloat.unpack .binary64 w.toBitVec))).neg) := rfl
    _ = .ofModel (.pack (UnpackedFloat.unpack .binary64 w'.toBitVec)) := by
      rw [pack_unpack_of_lt h, neg_unpack hbound hw']
    _ = Float.ofBits w' := rfl

/-- A finite double is put together from the bits of its size and its sign. -/
theorem eq_of_ofFloat (h : ofFloat x = .finite negative significand exponent) :
    (if negative then -(Float.ofBits (sizeBits significand exponent).toUInt64)
      else Float.ofBits (sizeBits significand exponent).toUInt64) = x := by
  have hbits := toNat_toBits_of_ofFloat h
  have hlt := (isCanonical_of_ofFloat h).sizeBits_lt
  have hsize : (sizeBits significand exponent).toUInt64.toNat = sizeBits significand exponent :=
    UInt64.toNat_ofNat_of_lt (hlt.trans (by decide))
  cases negative with
  | false =>
    rw [if_neg Bool.false_ne_true, Nat.zero_add, ← hsize, UInt64.toNat_inj] at hbits
    rw [if_neg Bool.false_ne_true, ← hbits, Float.ofBits_toBits]
  | true =>
    rw [if_pos rfl, ← hsize] at hbits
    rw [if_pos rfl, neg_ofBits (by rw [hsize]; exact hlt) hbits, Float.ofBits_toBits]

end RoadWeather.Binary64
