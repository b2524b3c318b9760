import Mathlib
import RoadWeather.Proofs.NumberText
import RoadWeather.Proofs.Quotients
import RoadWeather.Proofs.Validation

/-!
# Location keys

The key of a point holds its coordinates in whole hundred-thousandths of a degree
(`Location.units`). So two points with the same key differ by hardly more than one unit in each
coordinate, which is about a metre, and by anything at all in their elevation.

## Three roundings

Three roundings lead to the text of a coordinate: the product with a hundred thousand, which is
rounded to an integer; the division that undoes the product; and the five places of the text. Only
the first loses anything that can be seen. The product is off by less than a millionth
(`Location.abs_units_sub_le`), and the quotient is so close to the number of hundred-thousandths
that its text has exactly these as its digits.

## Texts

The text is described from the whole number alone (`IsRendering`): a sign just if the number is
negative, digits before the point of which a leading zero stands alone, and five digits after it.
A zero has no sign, and so there is none in the text of points just south of the equator. That is
owed to the integer in the middle of the three roundings. A double would have kept the sign.

A text renders one number only (`IsRendering.unique`), and there is no comma in it. So the two
numbers are found again from a key (`joined_inj`), and keys are equal just if the numbers are.
-/

namespace RoadWeather

open Binary64

/-! ## Half away from zero -/

/-- The nearest integer, half way cases going away from zero. -/
def roundAway (y : ℚ) : ℤ := if 0 ≤ y then ⌊y + 1 / 2⌋ else ⌈y - 1 / 2⌉

theorem roundAway_neg {y : ℚ} (hy : 0 ≤ y) : roundAway (-y) = -roundAway y := by
  rcases hy.eq_or_lt with rfl | hpos
  · have hzero : roundAway 0 = 0 := by norm_num [roundAway]
    rw [neg_zero, hzero, neg_zero]
  · rw [roundAway, roundAway, if_neg (by linarith), if_pos hy, ← Int.ceil_neg]
    congr 1
    ring

theorem abs_roundAway_sub_le (y : ℚ) : |(roundAway y : ℚ) - y| ≤ 1 / 2 := by
  rw [roundAway, abs_le]
  split
  · have hle := Int.floor_le (y + 1 / 2)
    have hlt := Int.lt_floor_add_one (y + 1 / 2)
    exact ⟨by linarith, by linarith⟩
  · have hle := Int.le_ceil (y - 1 / 2)
    have hlt := Int.ceil_lt_add_one (y - 1 / 2)
    exact ⟨by linarith, by linarith⟩

theorem roundQuotient_up_eq (num : Nat) {den : Nat} (hden : 0 < den) :
    (roundQuotient .up num den : ℤ) = roundAway (num / den) := by
  have hd : (0 : ℚ) < den := by exact_mod_cast hden
  have hsplit : num / den * den + num % den = num := Nat.div_add_mod' num den
  have hmod : num % den < den := Nat.mod_lt num hden
  -- The rounded quotient is at most the quotient and a half, and the next integer is more.
  have hbounds : 2 * (roundQuotient .up num den * den) ≤ 2 * num + den ∧
      2 * num + den < 2 * ((roundQuotient .up num den + 1) * den) := by
    have hmore : (num / den + 1) * den = num / den * den + den := by ring
    unfold roundQuotient
    dsimp only
    rw [Nat.add_mul]
    split
    · omega
    · split <;> omega
  obtain ⟨hle, hlt⟩ := hbounds
  have hle' : (2 * (roundQuotient .up num den * den) : ℚ) ≤ 2 * num + den := by exact_mod_cast hle
  have hlt' : (2 * num + den : ℚ) < 2 * ((roundQuotient .up num den + 1) * den) := by
    exact_mod_cast hlt
  rw [roundAway, if_pos (by positivity), eq_comm, Int.floor_eq_iff,
    div_add_div _ _ hd.ne' two_ne_zero, le_div_iff₀ (by positivity), div_lt_iff₀ (by positivity)]
  push_cast
  exact ⟨by linarith, by linarith⟩

theorem Binary64.nearestInteger?_eq {x : Float} (hx : x.isFinite = true) :
    nearestInteger? x = some (roundAway (exact x)) := by
  obtain ⟨negative, significand, exponent, hparts⟩ := isFinite_iff.mp hx
  have hden : 0 < Nat.pow 2 (-exponent).toNat := Nat.two_pow_pos _
  have hsize : ((significand * Nat.pow 2 exponent.toNat : ℕ) : ℚ) /
      (Nat.pow 2 (-exponent).toNat : ℕ) = significand * 2 ^ exponent := by
    rw [Nat.pow_eq, Nat.pow_eq, zpow_eq_pow_div_pow two_ne_zero exponent]
    push_cast
    ring
  have hround := roundQuotient_up_eq (significand * Nat.pow 2 exponent.toNat) hden
  rw [hsize] at hround
  rw [nearestInteger?, hparts]
  dsimp only
  rw [hround, exact_of_ofFloat hparts]
  cases negative with
  | false => rw [if_neg Bool.false_ne_true, signed_false]
  | true => rw [if_pos rfl, signed_true, roundAway_neg (by positivity)]

/-! ## Units -/

/-- A coordinate in whole hundred-thousandths of a degree. -/
def Location.units (x : Float) : ℤ := roundAway (exact (x * 100000))

theorem Binary64.exact_hundredThousand : exact 100000 = 100000 :=
  (exact_ofInt (n := 100000) (by decide) : exact (ofInt 100000) = (100000 : ℤ))

/-- The product of a coordinate with a hundred thousand is off by less than a millionth. -/
theorem Location.abs_units_sub_le {x : Float} (hx : x.isFinite = true) (hbound : |exact x| ≤ 180) :
    (x * 100000).isFinite = true ∧
      |(units x : ℚ) - exact x * 100000| ≤ 0.500001 := by
  have hproduct : |exact x * exact 100000| < 2 ^ (25 : ℤ) := by
    rw [exact_hundredThousand, abs_mul]
    norm_num
    linarith
  obtain ⟨hfinite, hclose⟩ := abs_exact_mul_sub_le hx (by rfl) hproduct (by decide) (by decide)
  refine ⟨hfinite, ?_⟩
  rw [exact_hundredThousand] at hclose
  have hround := abs_roundAway_sub_le (exact (x * 100000))
  calc |(units x : ℚ) - exact x * 100000|
      ≤ |(units x : ℚ) - exact (x * 100000)| + |exact (x * 100000) - exact x * 100000| :=
        abs_sub_le _ _ _
    _ ≤ 1 / 2 + 2 ^ ((25 : ℤ) - 54) := add_le_add hround hclose
    _ ≤ 0.500001 := by norm_num

/-! ## Five places -/

/-- The five places of a double are those of the whole number of hundred-thousandths that it is
close to. -/
theorem Decimal.inPlaces_five {significand n : Nat} {exponent : Int}
    (hclose : |(significand : ℚ) * 2 ^ exponent - n / 100000| < 1 / 200000) :
    inPlaces 5 significand exponent = n := by
  have hden : 0 < Nat.pow 2 (-exponent).toNat := Nat.two_pow_pos _
  have hvalue : ((significand * Nat.pow 2 exponent.toNat * Nat.pow 10 5 : ℕ) : ℚ)
      / (Nat.pow 2 (-exponent).toNat : ℕ) = significand * 2 ^ exponent * 100000 := by
    rw [Nat.pow_eq, Nat.pow_eq, Nat.pow_eq, zpow_eq_pow_div_pow two_ne_zero exponent]
    push_cast
    ring
  rw [abs_lt] at hclose
  obtain ⟨hlow, hhigh⟩ := hclose
  refine IsNearest.roundQuotient_even hden ?_
  rw [hvalue]
  exact ⟨by linarith, by linarith, fun _ ↦ ⟨by linarith, by linarith⟩⟩

namespace Location

def unitsChars (n : ℤ) : List Char := signChars (decide (n < 0)) ++ fivePlaces n.natAbs

theorem fixedText_roundCoordinate {x : Float} (hx : x.isFinite = true) (hbound : |exact x| ≤ 180) :
    fixedText (roundCoordinate x) = String.ofList (unitsChars (units x)) := by
  obtain ⟨hfinite, hunits⟩ := abs_units_sub_le hx hbound
  have hrounded : roundCoordinate x = ofInt (units x) / 100000 := by
    rw [roundCoordinate, nearestInteger?_eq hfinite]
    rfl
  generalize units x = n at hunits hrounded
  have hsmall : n.natAbs < 2 ^ 25 := by
    have hle : |(n : ℚ)| ≤ 0.500001 + 180 * 100000 := by
      have hprod : |exact x * 100000| ≤ 180 * 100000 := by
        rw [abs_mul]
        norm_num
        linarith
      have htriangle := abs_sub_abs_le_abs_sub (n : ℚ) (exact x * 100000)
      linarith
    have hlt : (n.natAbs : ℚ) < 2 ^ 25 := by
      rw [Nat.cast_natAbs, Int.cast_abs]
      norm_num at hle ⊢
      linarith
    exact_mod_cast hlt
  have hsmall' : n.natAbs < 2 ^ 53 := hsmall.trans (by decide)
  obtain ⟨_, _, hparts, -⟩ :=
    exists_ofFloat_nearest (decide (n < 0)) one_ne_zero (natCast_lt_overflow hsmall')
  have hdivisor : ofFloat 100000 = .finite false 6871947673600000 (-36) := by decide +kernel
  have hquotient : |exact (ofInt n) / exact 100000| = n.natAbs / 100000 := by
    rw [exact_ofInt hsmall', exact_hundredThousand, abs_div, Nat.cast_natAbs, Int.cast_abs]
    norm_num
  have hlt : |exact (ofInt n) / exact 100000| < 2 ^ (9 : ℤ) := by
    rw [hquotient, div_lt_iff₀ (by norm_num)]
    have hcast : (n.natAbs : ℚ) < 2 ^ 25 := by exact_mod_cast hsmall
    norm_num at hcast ⊢
    linarith
  obtain ⟨m, e, hresult, hclose⟩ := exists_ofFloat_div (x := ofInt n) hparts hdivisor
    (by rw [exact_hundredThousand]; norm_num) hlt (by decide) (by decide)
  rw [hquotient] at hclose
  rw [hrounded, fixedText, hresult]
  dsimp only
  rw [Decimal.inPlaces_five (hclose.trans_lt (by norm_num)), Bool.xor_false, unitsChars]

/-- The text is that of the number of hundred-thousandths: it has a sign just if the number is
negative, digits before the point of which a zero stands alone, and five digits after it. -/
def IsRendering (n : ℤ) (text : String) : Prop :=
  ∃ p : NumberParts, text.toList = signChars (decide (n < 0)) ++ p.chars ∧ p.IsWellFormed ∧
    p.exponent = none ∧ (∃ digits, p.fraction = some digits ∧ digits.length = 5) ∧
    p.value = |(n : ℚ)| / 100000

theorem length_places (n : Nat) :
    (List.replicate (5 - (Nat.toDigits 10 (n % 100000)).length) '0' ++
      Nat.toDigits 10 (n % 100000)).length = 5 := by
  have hle : (Nat.toDigits 10 (n % 100000)).length ≤ 5 :=
    (Nat.length_toDigits_le_iff (by decide) (by decide)).mpr (Nat.mod_lt n (by decide))
  rw [List.length_append, List.length_replicate]
  omega

theorem ofDigitChars_places (n : Nat) :
    Nat.ofDigitChars 10 (Nat.toDigits 10 (n / 100000) ++
      (List.replicate (5 - (Nat.toDigits 10 (n % 100000)).length) '0' ++
        Nat.toDigits 10 (n % 100000))) 0 = n := by
  have hle : (Nat.toDigits 10 (n % 100000)).length ≤ 5 :=
    (Nat.length_toDigits_le_iff (by decide) (by decide)).mpr (Nat.mod_lt n (by decide))
  have hpower : 10 ^ (Nat.toDigits 10 (n % 100000)).length *
      10 ^ (5 - (Nat.toDigits 10 (n % 100000)).length) = 100000 := by
    rw [← Nat.pow_add, Nat.add_sub_cancel' hle]
  rw [Nat.ofDigitChars_append, Nat.ofDigitChars_append, Nat.ofDigitChars_ten_toDigits,
    Nat.ofDigitChars_replicate_zero, Nat.ofDigitChars_eq_ofDigitChars_zero,
    Nat.ofDigitChars_ten_toDigits, ← Nat.mul_assoc, hpower]
  exact Nat.div_add_mod n 100000

theorem isRendering_unitsChars (n : ℤ) : IsRendering n (String.ofList (unitsChars n)) := by
  refine ⟨⟨Nat.toDigits 10 (n.natAbs / 100000),
    some (List.replicate (5 - (Nat.toDigits 10 (n.natAbs % 100000)).length) '0' ++
      Nat.toDigits 10 (n.natAbs % 100000)), none⟩, ?_, ⟨?_, ?_, ?_, ?_, ?_⟩, rfl,
    ⟨_, rfl, length_places _⟩, ?_⟩
  · simp [unitsChars, fivePlaces, NumberParts.chars, NumberParts.fractionChars,
      NumberParts.exponentChars]
  · exact forall_isDigit_toDigits _
  · exact Nat.toDigits_ne_nil
  · exact length_toDigits_of_head?
  · rintro _ ⟨rfl⟩ c hc
    exact (List.mem_append.mp hc).elim (NumberStyle.forall_isDigit_replicate _ c)
      (forall_isDigit_toDigits _ c)
  · rintro _ ⟨rfl⟩ hnil
    exact Nat.toDigits_ne_nil (List.append_eq_nil_iff.mp hnil).2
  · rw [NumberParts.value_eq (k := 0) (n := n.natAbs) (e := -5), Nat.cast_natAbs, Int.cast_abs]
    · norm_num [div_eq_mul_inv]
    · rw [Option.getD_some, ofDigitChars_places, Nat.pow_zero, Nat.one_mul]
    · rw [Option.getD_some, Option.getD_none, length_places]
      rfl

theorem signChars_append_inj {negative negative' : Bool} {s s' : List Char}
    (hfirst : ∀ c ∈ s.head?, c.isDigit = true) (hsecond : ∀ c ∈ s'.head?, c.isDigit = true)
    (h : signChars negative ++ s = signChars negative' ++ s') : negative = negative' ∧ s = s' := by
  cases negative with
  | false =>
    cases negative' with
    | false => exact ⟨rfl, h⟩
    | true =>
      obtain rfl : s = '-' :: s' := h
      exact absurd (hfirst '-' rfl) (by decide)
  | true =>
    cases negative' with
    | false =>
      obtain rfl : '-' :: s = s' := h
      exact absurd (hsecond '-' rfl) (by decide)
    | true => exact ⟨rfl, List.append_cancel_left h⟩

theorem chars_of_fraction {p : NumberParts} {digits : List Char}
    (hfraction : p.fraction = some digits) (hexponent : p.exponent = none) :
    p.chars = p.whole ++ '.' :: digits := by
  rw [NumberParts.chars, hfraction, hexponent, NumberParts.fractionChars, NumberParts.exponentChars,
    List.append_nil]

/-- A text renders one number only. -/
theorem IsRendering.unique {n n' : ℤ} {text : String} (h : IsRendering n text)
    (h' : IsRendering n' text) : n = n' := by
  obtain ⟨p, htext, hp, hexponent, ⟨digits, hfraction, -⟩, hvalue⟩ := h
  obtain ⟨p', htext', hp', hexponent', ⟨digits', hfraction', -⟩, hvalue'⟩ := h'
  rw [chars_of_fraction hfraction hexponent] at htext
  rw [chars_of_fraction hfraction' hexponent'] at htext'
  have hhead : ∀ {q : NumberParts} (rest : List Char), q.IsWellFormed →
      ∀ c ∈ (q.whole ++ rest).head?, c.isDigit = true := by
    intro q rest hq c hc
    rw [List.head?_append_of_ne_nil _ hq.whole_ne_nil] at hc
    exact hq.isDigit_whole c (List.mem_of_mem_head? hc)
  obtain ⟨hsign, hdigits⟩ := signChars_append_inj (hhead _ hp) (hhead _ hp')
    (htext.symm.trans htext')
  have hpoint : ∀ l : List Char, (∀ c ∈ l, c.isDigit = true) → '.' ∉ l :=
    fun l hl hmem ↦ absurd (hl '.' hmem) (by decide)
  obtain ⟨hwhole, -, rfl⟩ := (List.append_cons_inj_of_notMem (hpoint _ hp.isDigit_whole)
    (hpoint _ (hp.isDigit_fraction digits hfraction))).mp hdigits
  have hsize : |(n : ℚ)| = |(n' : ℚ)| := by
    rw [NumberParts.value, hwhole, hfraction, hexponent] at hvalue
    rw [NumberParts.value, hfraction', hexponent', hvalue] at hvalue'
    exact (div_left_inj' (by norm_num)).mp hvalue'
  have hsize' : |n| = |n'| := by exact_mod_cast hsize
  have hnegative : n < 0 ↔ n' < 0 := decide_eq_decide.mp hsign
  rw [abs_eq_abs] at hsize'
  omega

theorem IsRendering.comma_notMem {n : ℤ} {text : String} (h : IsRendering n text) :
    ',' ∉ text.toList := by
  obtain ⟨p, htext, hp, hexponent, ⟨digits, hfraction, -⟩, -⟩ := h
  rw [htext, chars_of_fraction hfraction hexponent, List.mem_append, List.mem_append, List.mem_cons]
  rintro (hsign | hwhole | hpoint | hdigits)
  · cases hnegative : decide (n < 0) with
    | false =>
      rw [hnegative] at hsign
      cases hsign
    | true =>
      rw [hnegative] at hsign
      exact absurd (List.mem_singleton.mp hsign) (by decide)
  · exact absurd (hp.isDigit_whole _ hwhole) (by decide)
  · exact absurd hpoint (by decide)
  · exact absurd (hp.isDigit_fraction digits hfraction _ hdigits) (by decide)

/-! ## Keys -/

/-- Two texts are found again from their joining, if there is no comma in them. -/
theorem joined_inj {s t s' t' : String} (hs : ',' ∉ s.toList) (ht : ',' ∉ t.toList)
    (h : s ++ "," ++ t = s' ++ "," ++ t') : s = s' ∧ t = t' := by
  have hchars : s.toList ++ ',' :: t.toList = s'.toList ++ ',' :: t'.toList := by
    have hcomma : ",".toList = [','] := by decide
    have htoList := congrArg String.toList h
    simpa only [String.toList_append, List.append_assoc, hcomma, List.singleton_append]
      using htoList
  obtain ⟨hfirst, -, hsecond⟩ := (List.append_cons_inj_of_notMem hs ht).mp hchars
  exact ⟨String.toList_inj.mp hfirst, String.toList_inj.mp hsecond⟩

variable {l m : Location}

theorem OnGlobe.units_latitude (h : l.OnGlobe) :
    |(units l.latitude : ℚ) - exact l.latitude * 100000| ≤ 0.500001 :=
  (abs_units_sub_le h.isFinite_latitude (h.latitude.trans (by norm_num))).2

theorem OnGlobe.units_longitude (h : l.OnGlobe) :
    |(units l.longitude : ℚ) - exact l.longitude * 100000| ≤ 0.500001 :=
  (abs_units_sub_le h.isFinite_longitude h.longitude).2

theorem OnGlobe.key_eq (h : l.OnGlobe) :
    l.key = String.ofList (unitsChars (units l.latitude)) ++ "," ++
      String.ofList (unitsChars (units l.longitude)) := by
  rw [key, fixedText_roundCoordinate h.isFinite_latitude (h.latitude.trans (by norm_num)),
    fixedText_roundCoordinate h.isFinite_longitude h.longitude]

theorem OnGlobe.key_eq_iff (hl : l.OnGlobe) (hm : m.OnGlobe) :
    l.key = m.key ↔
      units l.latitude = units m.latitude ∧ units l.longitude = units m.longitude := by
  constructor
  · intro hkey
    rw [hl.key_eq, hm.key_eq] at hkey
    have hlatitude := isRendering_unitsChars (units l.latitude)
    have hlongitude := isRendering_unitsChars (units l.longitude)
    obtain ⟨hfirst, hsecond⟩ :=
      joined_inj hlatitude.comma_notMem hlongitude.comma_notMem hkey
    rw [hfirst] at hlatitude
    rw [hsecond] at hlongitude
    exact ⟨hlatitude.unique (isRendering_unitsChars _),
      hlongitude.unique (isRendering_unitsChars _)⟩
  · rintro ⟨hlatitude, hlongitude⟩
    rw [hl.key_eq, hm.key_eq, hlatitude, hlongitude]

theorem abs_sub_le_of_units_eq {x y : Float} (h : units x = units y)
    (hx : |(units x : ℚ) - exact x * 100000| ≤ 0.500001)
    (hy : |(units y : ℚ) - exact y * 100000| ≤ 0.500001) :
    |exact x - exact y| ≤ 1.00001 / 100000 := by
  rw [h] at hx
  rw [abs_le] at hx hy ⊢
  obtain ⟨hxlow, hxhigh⟩ := hx
  obtain ⟨hylow, hyhigh⟩ := hy
  norm_num at hxlow hxhigh hylow hyhigh ⊢
  exact ⟨by linarith, by linarith⟩

theorem abs_units_div_sub_le {x : Float} (h : |(units x : ℚ) - exact x * 100000| ≤ 0.500001) :
    |(units x : ℚ) / 100000 - exact x| ≤ 0.500001 / 100000 := by
  rw [abs_le] at h ⊢
  obtain ⟨hlow, hhigh⟩ := h
  exact ⟨by linarith, by linarith⟩

/-- **Keys neither confuse distant points nor tell near ones apart by a sign.** The key of a valid
location joins two numbers by a comma, each of them the text of a whole number of
hundred-thousandths with all five places, and with a sign only if the number is negative. The whole
number is the product of the coordinate and a hundred thousand, rounded to the nearest integer and
half way cases away from zero, and it is off the coordinate by no more than half a unit and a
millionth of one. Two valid locations have the same key just if both of their whole numbers are the
same, and then their coordinates differ by hardly more than a unit. The elevation is no part of the
key. -/
theorem key_separates (l : Location) (hl : l.isValid = true) :
    (∃ latitude longitude, l.key = latitude ++ "," ++ longitude ∧
      IsRendering (roundAway (exact (l.latitude * 100000))) latitude ∧
      IsRendering (roundAway (exact (l.longitude * 100000))) longitude) ∧
    |(units l.latitude : ℚ) / 100000 - exact l.latitude| ≤ 0.500001 / 100000 ∧
    |(units l.longitude : ℚ) / 100000 - exact l.longitude| ≤ 0.500001 / 100000 ∧
    (∀ elevation, { l with elevation := elevation }.key = l.key) ∧
    ∀ m : Location, m.isValid = true →
      (l.key = m.key ↔
        units l.latitude = units m.latitude ∧ units l.longitude = units m.longitude) ∧
      (l.key = m.key → |exact l.latitude - exact m.latitude| ≤ 1.00001 / 100000 ∧
        |exact l.longitude - exact m.longitude| ≤ 1.00001 / 100000) := by
  have hl := l.isValid_iff.mp hl
  refine ⟨⟨_, _, hl.key_eq, isRendering_unitsChars _, isRendering_unitsChars _⟩,
    abs_units_div_sub_le hl.units_latitude, abs_units_div_sub_le hl.units_longitude, fun _ ↦ rfl,
    fun m hm ↦ ?_⟩
  have hm := m.isValid_iff.mp hm
  have hiff := hl.key_eq_iff hm
  refine ⟨hiff, fun hkey ↦ ?_⟩
  obtain ⟨hlatitude, hlongitude⟩ := hiff.mp hkey
  exact ⟨abs_sub_le_of_units_eq hlatitude hl.units_latitude hm.units_latitude,
    abs_sub_le_of_units_eq hlongitude hl.units_longitude hm.units_longitude⟩

/-- A point just south of the equator. -/
def southern : Location := ⟨-0.000004, 11.390004, none⟩

/-- A point just north of it, with an elevation. -/
def northern : Location := ⟨0.000004, 11.39, some 574⟩

/-- Both points have the same key, in which the zero has no sign. So both are the same number of
hundred-thousandths away from the equator and from the meridian, and not much farther apart than
one. -/
theorem key_equator :
    southern.isValid = true ∧ northern.isValid = true ∧ southern.key = "0.00000,11.39000" ∧
      southern.key = northern.key ∧ units southern.latitude = units northern.latitude ∧
      units southern.longitude = units northern.longitude ∧
      |exact southern.latitude - exact northern.latitude| ≤ 1.00001 / 100000 := by
  have hsouthern : southern.isValid = true := by decide +kernel
  have hnorthern : northern.isValid = true := by decide +kernel
  have hkey : southern.key = "0.00000,11.39000" := by decide +kernel
  have hsame : southern.key = northern.key := by decide +kernel
  obtain ⟨-, -, -, -, hpairs⟩ := key_separates southern hsouthern
  obtain ⟨hiff, hclose⟩ := hpairs northern hnorthern
  obtain ⟨hlatitude, hlongitude⟩ := hiff.mp hsame
  exact ⟨hsouthern, hnorthern, hkey, hsame, hlatitude, hlongitude, (hclose hsame).1⟩

end Location

end RoadWeather
