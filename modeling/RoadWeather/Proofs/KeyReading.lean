import Mathlib
import RoadWeather.Json.Decoder
import RoadWeather.Proofs.LocationKeys
import RoadWeather.Store

/-!
# Keys are stable under re-reading

A store finds things by the keys of their places. What is stored for a place is therefore found with
the coordinates that are copied from its key, and the other way round, if these coordinates have the
same key again.

## The construction

The numbers of a key are read back as the doubles nearest to whole numbers of hundred-thousandths
(`Location.gridPoint`). Such a double differs from the number by so little that its product with a
hundred thousand, which is rounded once more, stays within half a unit of the whole number
(`Location.units_gridPoint`). So it has the same whole number, and with it the same text.

The error is of the order of `10⁻⁹` units for coordinates of up to 180 degrees, while half a unit
would be needed to go wrong. Nothing in the argument is tight but the bounds of the globe: as
rounding keeps the order and the bounds are doubles, it does not lead off the globe
(`Location.OnGlobe.snapped`).

## What is lost

An elevation is no part of a key, and neither is the sign of a zero. The place read from a key is
thus not the place that the key was made of, but the point of the grid next to it
(`Location.snapped`), of which no elevation is known. The two cannot be told apart by a store,
whatever is stored (`Store.Confuses`).
-/

namespace RoadWeather

open Binary64

/-! ## Points of the grid -/

theorem roundAway_eq_of_abs_sub_lt {y : ℚ} {n : ℤ} (h : |y - n| < 1 / 2) : roundAway y = n := by
  have hround := abs_roundAway_sub_le y
  have hlt : |(roundAway y : ℚ) - n| < 1 :=
    calc |(roundAway y : ℚ) - n| ≤ |(roundAway y : ℚ) - y| + |y - n| := abs_sub_le _ _ _
      _ < 1 := by linarith
  have hlt' : |roundAway y - n| < 1 := by exact_mod_cast hlt
  exact sub_eq_zero.mp (Int.abs_lt_one_iff.mp hlt')

theorem sign_mul_natAbs (n : ℤ) :
    (if decide (n < 0) then -1 else 1 : ℚ) * n.natAbs = n := by
  rw [Nat.cast_natAbs]
  by_cases hneg : n < 0
  · rw [if_pos (decide_eq_true hneg), abs_of_neg hneg]
    push_cast
    ring
  · rw [if_neg (by simpa using hneg), abs_of_nonneg (not_lt.mp hneg), one_mul]

namespace Location

/-- The double nearest to a number of hundred-thousandths. A zero has no sign. -/
def gridPoint (n : ℤ) : Float := nearest (decide (n < 0)) n.natAbs 100000

/-- A point of the grid is close to its number of hundred-thousandths. -/
theorem abs_gridPoint_sub_le {n : ℤ} (hn : n.natAbs ≤ 18000000) :
    (gridPoint n).isFinite = true ∧ |exact (gridPoint n) - n / 100000| ≤ 2 ^ (-46 : ℤ) := by
  have hlt : (n.natAbs : ℚ) / (100000 : ℕ) < 2 ^ (8 : ℤ) := by
    have hcast : (n.natAbs : ℚ) ≤ 18000000 := by exact_mod_cast hn
    rw [div_lt_iff₀ (by norm_num)]
    norm_num at hcast ⊢
    linarith
  obtain ⟨significand, exponent, hparts, hclose⟩ :=
    exists_ofFloat_nearest_of_lt (decide (n < 0)) (by decide) hlt (by decide) (by decide)
  refine ⟨isFinite_iff.mpr ⟨_, _, _, hparts⟩, ?_⟩
  have hunit : |(if decide (n < 0) then -1 else 1 : ℚ)| = 1 := by split <;> simp
  calc |exact (gridPoint n) - n / 100000|
      = |(if decide (n < 0) then -1 else 1 : ℚ) *
          (significand * 2 ^ exponent - n.natAbs / 100000)| := by
        rw [gridPoint, exact_of_ofFloat hparts, signed, mul_sub, ← mul_div_assoc, sign_mul_natAbs]
    _ = |(significand : ℚ) * 2 ^ exponent - n.natAbs / (100000 : ℕ)| := by
        rw [abs_mul, hunit, one_mul, Nat.cast_ofNat]
    _ ≤ 2 ^ ((8 : ℤ) - 54) := hclose
    _ = 2 ^ (-46 : ℤ) := by norm_num

/-- **A point of the grid has its own number of hundred-thousandths.** -/
theorem units_gridPoint {n : ℤ} (hn : n.natAbs ≤ 18000000) : units (gridPoint n) = n := by
  obtain ⟨hfinite, hclose⟩ := abs_gridPoint_sub_le hn
  have hexact : |exact (gridPoint n) * 100000 - n| ≤ 2 ^ (-46 : ℤ) * 100000 := by
    rw [show exact (gridPoint n) * 100000 - n = (exact (gridPoint n) - n / 100000) * 100000 by ring,
      abs_mul, abs_of_pos (by norm_num : (0 : ℚ) < 100000)]
    exact mul_le_mul_of_nonneg_right hclose (by norm_num)
  have hproduct : |exact (gridPoint n) * exact 100000| < 2 ^ (25 : ℤ) := by
    have hcast : |(n : ℚ)| ≤ 18000000 := by
      rw [← Int.cast_abs, Int.abs_eq_natAbs]
      exact_mod_cast hn
    have htriangle := abs_sub_abs_le_abs_sub (exact (gridPoint n) * 100000) (n : ℚ)
    rw [exact_hundredThousand]
    calc |exact (gridPoint n) * 100000| ≤ |(n : ℚ)| + 2 ^ (-46 : ℤ) * 100000 := by linarith
      _ ≤ 18000000 + 2 ^ (-46 : ℤ) * 100000 := by gcongr
      _ < 2 ^ (25 : ℤ) := by norm_num
  obtain ⟨-, hrounded⟩ := abs_exact_mul_sub_le hfinite (by rfl) hproduct (by decide) (by decide)
  rw [exact_hundredThousand] at hrounded
  refine roundAway_eq_of_abs_sub_lt ?_
  calc |exact (gridPoint n * 100000) - n|
      ≤ |exact (gridPoint n * 100000) - exact (gridPoint n) * 100000|
          + |exact (gridPoint n) * 100000 - n| := abs_sub_le _ _ _
    _ ≤ 2 ^ ((25 : ℤ) - 54) + 2 ^ (-46 : ℤ) * 100000 := add_le_add hrounded hexact
    _ < 1 / 2 := by norm_num

theorem abs_exact_gridPoint_le {n : ℤ} {degrees : ℕ} (hdegrees : degrees < 2 ^ 53)
    (hn : |n| ≤ degrees * 100000) : |exact (gridPoint n)| ≤ degrees := by
  have hn' : n.natAbs ≤ degrees * 100000 := by
    rw [Int.abs_eq_natAbs] at hn
    exact_mod_cast hn
  have hle : (n.natAbs : ℚ) / (100000 : ℕ) ≤ degrees / (1 : ℕ) := by
    have hcast : (n.natAbs : ℚ) ≤ degrees * 100000 := by exact_mod_cast hn'
    rw [div_le_iff₀ (by norm_num)]
    push_cast
    linarith
  have hbound : |exact (gridPoint n)| ≤ |exact (nearest false degrees 1)| :=
    abs_exact_nearest_le (by decide) one_ne_zero (natCast_lt_overflow hdegrees) hle
  rwa [exact_nearest_natCast _ hdegrees, if_neg Bool.false_ne_true, one_mul, Nat.abs_cast]
    at hbound

theorem abs_units_le {x : Float} {degrees : ℕ} (hx : |exact x| ≤ degrees)
    (h : |(units x : ℚ) - exact x * 100000| ≤ 0.500001) : |units x| ≤ degrees * 100000 := by
  have htriangle := abs_sub_abs_le_abs_sub (units x : ℚ) (exact x * 100000)
  rw [abs_mul, abs_of_pos (by norm_num : (0 : ℚ) < 100000)] at htriangle
  have hlt : |(units x : ℚ)| < degrees * 100000 + 1 := by
    norm_num at h
    linarith
  have hlt' : |units x| < degrees * 100000 + 1 := by exact_mod_cast hlt
  omega

end Location

/-! ## Texts of numbers

The text of a coordinate has digits around a point and no exponent, so it stands for a decimal with
five places. It is rounded to a double once, like the number itself. -/

theorem DecimalText.ofChars?_of_fraction {whole digits : List Char}
    (hwhole : ∀ c ∈ whole, c.isDigit = true) (hne : whole ≠ [])
    (hdigits : ∀ c ∈ digits, c.isDigit = true) :
    ofChars? (whole ++ '.' :: digits) = some ⟨whole, digits, 0⟩ := by
  have htake : (whole ++ '.' :: digits).takeWhile Char.isDigit = whole := by
    rw [List.takeWhile_append_of_pos hwhole, List.takeWhile_cons_of_neg (by decide),
      List.append_nil]
  have hdrop : (whole ++ '.' :: digits).dropWhile Char.isDigit = '.' :: digits := by
    rw [List.dropWhile_append_of_pos hwhole, List.dropWhile_cons_of_neg (by decide)]
  have hall : digits.takeWhile Char.isDigit = digits := List.takeWhile_eq_self_iff.mpr hdigits
  have hnone : digits.dropWhile Char.isDigit = [] := List.dropWhile_eq_nil_iff.mpr hdigits
  simp only [ofChars?, htake, hdrop, hall, hnone, hne, false_and, if_false]

theorem readFloat?_of_fraction {p : NumberParts} {digits : List Char} {text : String}
    {negative : Bool} (hp : p.IsWellFormed) (hfraction : p.fraction = some digits)
    (hexponent : p.exponent = none) (htext : text.toList = signChars negative ++ p.chars) :
    readFloat? text = some (DecimalText.toFloat negative ⟨p.whole, digits, 0⟩) := by
  have hread := DecimalText.ofChars?_of_fraction hp.isDigit_whole hp.whole_ne_nil
    (hp.isDigit_fraction digits hfraction)
  rw [Location.chars_of_fraction hfraction hexponent] at htext
  -- With a point in it the text is not that of a double that is no number or infinite.
  have hpoint : '.' ∈ p.whole ++ '.' :: digits := List.mem_append_right _ List.mem_cons_self
  have hnan : p.whole ++ '.' :: digits ≠ ['N', 'a', 'N'] :=
    fun h ↦ absurd (h ▸ hpoint) (by decide)
  have hinf : p.whole ++ '.' :: digits ≠ ['i', 'n', 'f'] :=
    fun h ↦ absurd (h ▸ hpoint) (by decide)
  obtain ⟨c, rest, hwhole⟩ := List.exists_cons_of_ne_nil hp.whole_ne_nil
  have hc : c.isDigit = true := hp.isDigit_whole c (hwhole ▸ List.mem_cons_self)
  rw [readFloat?, htext]
  split
  next negative' unsigned hsplit =>
    obtain ⟨rfl, rfl⟩ : negative = negative' ∧ p.whole ++ '.' :: digits = unsigned := by
      cases negative with
      | true => exact Prod.mk.inj hsplit
      | false =>
        -- The first character is a digit and no sign.
        rw [signChars, if_neg Bool.false_ne_true, List.nil_append, hwhole, List.cons_append]
          at hsplit
        split at hsplit
        · next h =>
          obtain ⟨rfl, -⟩ := List.cons.inj h
          exact absurd hc (by decide)
        · next h =>
          obtain ⟨rfl, -⟩ := List.cons.inj h
          exact absurd hc (by decide)
        · rw [hwhole]
          exact Prod.mk.inj hsplit
    rw [if_neg hnan, if_neg hinf, hread]
    rfl

theorem Binary64.ofDecimal_five (negative : Bool) {n : ℕ} (hn : n ≤ 18000000) :
    ofDecimal negative n (-5) = nearest negative n 100000 := by
  have hlength : (Nat.toDigits 10 n).length ≤ 8 :=
    (Nat.length_toDigits_le_iff (by decide) (by decide)).mpr (hn.trans_lt (by decide))
  rw [ofDecimal]
  rcases eq_or_ne n 0 with rfl | hne
  · rw [if_pos (Or.inl rfl), nearest, nearest, nearestBits_zero, nearestBits_zero]
  · rw [if_neg (by omega), if_neg (by omega)]
    exact congrArg (nearest negative · 100000) (Nat.mul_one n)

namespace Location

variable {n : ℤ} {text : String}

/-- The parts of the text of a number of hundred-thousandths make up a point of the grid. -/
theorem IsRendering.exists_parts (h : IsRendering n text) (hn : n.natAbs ≤ 18000000) :
    ∃ p digits, text.toList = signChars (decide (n < 0)) ++ NumberParts.chars p ∧
      p.IsWellFormed ∧ p.fraction = some digits ∧ p.exponent = none ∧
      DecimalText.toFloat (decide (n < 0)) ⟨p.whole, digits, 0⟩ = gridPoint n := by
  obtain ⟨p, htext, hp, hexponent, ⟨digits, hfraction, hlength⟩, hvalue⟩ := h
  refine ⟨p, digits, htext, hp, hfraction, hexponent, ?_⟩
  have hdigits : Nat.ofDigitChars 10 (p.whole ++ digits) 0 = n.natAbs := by
    rw [NumberParts.value, hfraction, hexponent, Option.getD_some, Option.getD_none, hlength,
      ← Int.cast_abs, ← Nat.cast_natAbs, div_eq_mul_inv] at hvalue
    have hunit : (10 : ℚ) ^ ((0 : ℤ) - (5 : ℕ)) = 100000⁻¹ := by norm_num
    rw [hunit] at hvalue
    exact_mod_cast mul_right_cancel₀ (by norm_num) hvalue
  rw [DecimalText.toFloat, hdigits, hlength]
  exact ofDecimal_five _ hn

theorem IsRendering.readFloat?_eq (h : IsRendering n text) (hn : n.natAbs ≤ 18000000) :
    readFloat? text = some (gridPoint n) := by
  obtain ⟨p, digits, htext, hp, hfraction, hexponent, hvalue⟩ := h.exists_parts hn
  rw [readFloat?_of_fraction hp hfraction hexponent htext, hvalue]

/-- As the text of a JSON number it is read so as well. -/
theorem IsRendering.double_read (h : IsRendering n text) (hn : n.natAbs ≤ 18000000) :
    Json.Decoder.double (Json.Draft.read text).1 = .ok (gridPoint n) := by
  obtain ⟨p, digits, htext, hp, hfraction, hexponent, hvalue⟩ := h.exists_parts hn
  have hnumber : Json.Draft.numberOf (decide (n < 0)) p.whole (some digits) none
      = .ok (.double (gridPoint n)) := by
    rw [← hvalue]
    exact if_pos (hvalue ▸ (abs_gridPoint_sub_le hn).1)
  have hread := Json.Draft.readValue_signChars (decide (n < 0)) hp
    (fun c hc ↦ nomatch hc : Json.Draft.EndsNumber []) (3 * text.toList.length + 2)
  rw [List.append_nil, ← htext, hfraction, hexponent, hnumber] at hread
  rw [Json.Draft.read, hread]
  rfl

/-! ## Places read from keys -/

/-- The place that a key shows: the number before the comma and the one after it, each as the
nearest double. The elevation is not known. -/
def ofKey? (key : String) : Option Location := do
  let latitude ← readFloat? (String.ofList (key.toList.takeWhile (· ≠ ',')))
  let longitude ← readFloat? (String.ofList ((key.toList.dropWhile (· ≠ ',')).drop 1))
  return ⟨latitude, longitude, none⟩

theorem ofKey?_joined {s t : String} {x y : Float} (hs : ',' ∉ s.toList)
    (hx : readFloat? s = some x) (hy : readFloat? t = some y) :
    ofKey? (s ++ "," ++ t) = some ⟨x, y, none⟩ := by
  have hchars : (s ++ "," ++ t).toList = s.toList ++ ',' :: t.toList := by
    simp
  have hbefore : ∀ c ∈ s.toList, decide (c ≠ ',') = true := by
    intro c hc
    exact decide_eq_true fun hcomma ↦ hs (hcomma ▸ hc)
  have htake : (s.toList ++ ',' :: t.toList).takeWhile (· ≠ ',') = s.toList := by
    rw [List.takeWhile_append_of_pos hbefore, List.takeWhile_cons_of_neg (by decide),
      List.append_nil]
  have hdrop : (s.toList ++ ',' :: t.toList).dropWhile (· ≠ ',') = ',' :: t.toList := by
    rw [List.dropWhile_append_of_pos hbefore, List.dropWhile_cons_of_neg (by decide)]
  rw [ofKey?, hchars, htake, hdrop, List.drop_one, List.tail_cons, String.ofList_toList,
    String.ofList_toList, hx, hy]
  rfl

/-- The point of the grid that a place is rounded to. -/
def snapped (l : Location) : Location :=
  ⟨gridPoint (units l.latitude), gridPoint (units l.longitude), none⟩

variable {l m : Location}

theorem OnGlobe.abs_units_latitude (h : l.OnGlobe) : |units l.latitude| ≤ (90 : ℕ) * 100000 :=
  abs_units_le h.latitude h.units_latitude

theorem OnGlobe.abs_units_longitude (h : l.OnGlobe) : |units l.longitude| ≤ (180 : ℕ) * 100000 :=
  abs_units_le h.longitude h.units_longitude

theorem natAbs_le_of_abs_le {degrees : ℕ} (hn : |n| ≤ degrees * 100000) (hdegrees : degrees ≤ 180) :
    n.natAbs ≤ 18000000 := by
  rw [Int.abs_eq_natAbs] at hn
  omega

theorem OnGlobe.natAbs_latitude (h : l.OnGlobe) : (units l.latitude).natAbs ≤ 18000000 :=
  natAbs_le_of_abs_le h.abs_units_latitude (by decide)

theorem OnGlobe.natAbs_longitude (h : l.OnGlobe) : (units l.longitude).natAbs ≤ 18000000 :=
  natAbs_le_of_abs_le h.abs_units_longitude (by decide)

/-- **Rounding does not lead off the globe.** -/
theorem OnGlobe.snapped (h : l.OnGlobe) : l.snapped.OnGlobe where
  isFinite_latitude := (abs_gridPoint_sub_le h.natAbs_latitude).1
  isFinite_longitude := (abs_gridPoint_sub_le h.natAbs_longitude).1
  latitude := abs_exact_gridPoint_le (by decide) h.abs_units_latitude
  longitude := abs_exact_gridPoint_le (by decide) h.abs_units_longitude
  elevation x hx := nomatch hx

theorem OnGlobe.key_snapped (h : l.OnGlobe) : l.snapped.key = l.key :=
  (h.snapped.key_eq_iff h).mpr
    ⟨units_gridPoint h.natAbs_latitude, units_gridPoint h.natAbs_longitude⟩

theorem OnGlobe.ofKey?_key (h : l.OnGlobe) : ofKey? l.key = some l.snapped := by
  have hlatitude := isRendering_unitsChars (units l.latitude)
  have hlongitude := isRendering_unitsChars (units l.longitude)
  rw [h.key_eq]
  exact ofKey?_joined hlatitude.comma_notMem (hlatitude.readFloat?_eq h.natAbs_latitude)
    (hlongitude.readFloat?_eq h.natAbs_longitude)

end Location

/-! ## Stores -/

/-- What is stored for one place is found for another: a value, unless a later one is there, and a
description. -/
structure Store.FindsAt (l m : Location) : Prop where
  measurement : ∀ (s : Store) parameter sensorId timed,
    (s.recordMeasurement ⟨parameter, sensorId, l, timed⟩).latest?
        (.latestMeasurement parameter sensorId m)
      = some (timed.later (s.latest? (.latestMeasurement parameter sensorId m)))
  forecast : ∀ (s : Store) parameter modelId timed,
    (s.recordForecast ⟨parameter, modelId, l, timed⟩).latest? (.latestForecast parameter m modelId)
      = some (timed.later (s.latest? (.latestForecast parameter m modelId)))
  description : ∀ (s : Store) (d : Description), d.location = l →
    (s.upsert d).description? m d.modelId = some d

/-- No lookup makes a difference between two places, whatever is stored. -/
structure Store.Confuses (l m : Location) : Prop where
  measurement : ∀ (s : Store) parameter sensorId,
    s.latest? (.latestMeasurement parameter sensorId l)
      = s.latest? (.latestMeasurement parameter sensorId m)
  forecast : ∀ (s : Store) parameter modelId,
    s.latest? (.latestForecast parameter l modelId)
      = s.latest? (.latestForecast parameter m modelId)
  description : ∀ (s : Store) modelId, s.description? l modelId = s.description? m modelId

namespace Store

variable {l m : Location}

theorem findsAt_of_key_eq (h : l.key = m.key) : FindsAt l m where
  measurement s parameter sensorId timed := by
    simp [recordMeasurement, latest?, ValueRecord.key, h]
  forecast s parameter modelId timed := by
    simp [recordForecast, latest?, ValueRecord.key, h]
  description s d hd := by
    simp [description?, Description.key, hd, h]

theorem confuses_of_key_eq (h : l.key = m.key) : Confuses l m where
  measurement s parameter sensorId := by rw [latest?, latest?, h]
  forecast s parameter modelId := by rw [latest?, latest?, h]
  description s modelId := by rw [description?, description?, h]

end Store

namespace Location

/-- **Keys are stable under re-reading.** The two numbers in the key of a valid location, read as
the nearest doubles, make a location that is again valid and has the same key. A JSON reader finds
the same coordinates in them. So what is stored for the one location is found for the other, either
way, and no lookup makes a difference between them. -/
theorem key_stable (l : Location) (hl : l.isValid = true) :
    ∃ m, ofKey? l.key = some m ∧ m.isValid = true ∧ m.key = l.key ∧
      (∃ latitude longitude, l.key = latitude ++ "," ++ longitude ∧
        Json.Decoder.double (Json.Draft.read latitude).1 = .ok m.latitude ∧
        Json.Decoder.double (Json.Draft.read longitude).1 = .ok m.longitude) ∧
      Store.FindsAt l m ∧ Store.FindsAt m l ∧ Store.Confuses l m := by
  have hl := l.isValid_iff.mp hl
  have hkey := hl.key_snapped
  refine ⟨l.snapped, hl.ofKey?_key, l.snapped.isValid_iff.mpr hl.snapped, hkey,
    ⟨_, _, hl.key_eq, (isRendering_unitsChars _).double_read hl.natAbs_latitude,
      (isRendering_unitsChars _).double_read hl.natAbs_longitude⟩,
    Store.findsAt_of_key_eq hkey.symm, Store.findsAt_of_key_eq hkey,
    Store.confuses_of_key_eq hkey.symm⟩

/-- The South Pole on the date line, with its elevation. -/
def southPole : Location := ⟨-90, 180, some 2835⟩

/-- The pole is read back from its key without its elevation. From the key of a point just south of
the equator one on it is read, and what is stored for the one is found for the other. -/
theorem key_stable_at_edges :
    southPole.isValid = true ∧ ofKey? southPole.key = some ⟨-90, 180, none⟩ ∧
      Store.FindsAt southPole ⟨-90, 180, none⟩ ∧
      southern.isValid = true ∧ ofKey? southern.key = some ⟨0, 11.39, none⟩ ∧
      Store.FindsAt southern ⟨0, 11.39, none⟩ ∧ Store.FindsAt ⟨0, 11.39, none⟩ southern := by
  have hpole : southPole.isValid = true := by decide +kernel
  have hsouthern : southern.isValid = true := by decide +kernel
  have hpoleRead : ofKey? southPole.key = some ⟨-90, 180, none⟩ := by
    have hkey : southPole.key = "-90.00000" ++ "," ++ "180.00000" := by decide +kernel
    rw [hkey]
    exact ofKey?_joined (by decide) (by decide +kernel) (by decide +kernel)
  have hsouthernRead : ofKey? southern.key = some ⟨0, 11.39, none⟩ := by
    have hkey : southern.key = "0.00000" ++ "," ++ "11.39000" := by decide +kernel
    rw [hkey]
    exact ofKey?_joined (by decide) (by decide +kernel) (by decide +kernel)
  obtain ⟨m, hm, -, -, -, hfinds, -⟩ := key_stable southPole hpole
  obtain rfl := Option.some.inj (hm.symm.trans hpoleRead)
  obtain ⟨m, hm, -, -, -, hfinds', hback, -⟩ := key_stable southern hsouthern
  obtain rfl := Option.some.inj (hm.symm.trans hsouthernRead)
  exact ⟨hpole, hpoleRead, hfinds, hsouthern, hsouthernRead, hfinds', hback⟩

end Location

end RoadWeather
