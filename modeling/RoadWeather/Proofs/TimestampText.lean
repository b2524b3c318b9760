import RoadWeather.Proofs.Listings
import RoadWeather.Proofs.NumberText
import RoadWeather.Timestamp.Rfc3339

/-!
# Timestamps read back from their text

A timestamp with a text is read back from it as it was: the same date and time of day, to the
nanosecond, with the same offset.

## Parts

Every part of the text has a width of its own, apart from the fraction of the second, of which the
zeros at the end are dropped. Digits that are missing there count as zeros
(`nanoseconds_of_padded`), so the fraction stands for the same nanoseconds. Where it ends is seen
from what follows: an offset begins with a sign or with a letter, neither of which continues it.

The offset is written by its sign and its size, so one of less than an hour keeps its sign although
its hours are none (`offsetMinutes_sign`).

## Which timestamps have a text

A year has four digits and no sign, and an offset is written in hours of a day and minutes
(`Timestamp.HasText`). A timestamp as such has neither restriction: its year may be negative, and
its offset may be of a day and more or have seconds in it. To write one of these fails with the name
of the part (`Timestamp.writeError?`). What is read from a text has a text, whatever it was read
from.
-/

namespace RoadWeather.Timestamp

open Text

/-! ## Parts of a fixed width -/

variable {n value : Nat} {rest : List Char}

theorem isDigit_of_mem_padded {c : Char} (hc : c ∈ padded n value) : c.isDigit = true :=
  (List.mem_append.mp hc).elim (NumberStyle.forall_isDigit_replicate _ c)
    (forall_isDigit_toDigits _ c)

theorem length_padded (hpos : 0 < n) (h : value < 10 ^ n) : (padded n value).length = n := by
  have hle := (Nat.length_toDigits_le_iff (by decide) hpos).mpr h
  rw [padded, List.length_append, List.length_replicate]
  exact Nat.sub_add_cancel hle

theorem ofDigitChars_padded (n value : Nat) : Nat.ofDigitChars 10 (padded n value) 0 = value := by
  rw [padded, Nat.ofDigitChars_append, Nat.ofDigitChars_replicate_zero, Nat.mul_zero,
    Nat.ofDigitChars_ten_toDigits]

/-- A number that fits into its width is read back, whatever follows it. -/
theorem digits_padded (c : Component) (hpos : 0 < n) (h : value < 10 ^ n) (rest : List Char) :
    digits n c (padded n value ++ rest) = .ok (value, rest) := by
  have hlength := length_padded hpos h
  have hdigits : (padded n value).all Char.isDigit = true :=
    List.all_eq_true.mpr fun d hd ↦ isDigit_of_mem_padded hd
  rw [digits, List.take_left' hlength, List.drop_left' hlength, if_pos ⟨hlength, hdigits⟩,
    ofDigitChars_padded]

theorem literal_cons (c : Char) (s : List Char) : literal c (c :: s) = .ok s := if_pos rfl

/-! ## The fraction of the second

The zeros at the end of nine digits are dropped, and all of them if there are no others, together
with the point. The reader puts back what is missing. -/

/-- The digits of a number are what is left of them without the zeros at the end, and these. -/
theorem exists_eq_append_zeros (ds : List Char) :
    ∃ k, ds = (ds.reverse.dropWhile (· = '0')).reverse ++ List.replicate k '0' := by
  have hzero : ∀ c ∈ ds.reverse.takeWhile (· = '0'), c = '0' := by
    intro c hc
    have hc := List.mem_takeWhile_imp (p := fun c ↦ decide (c = '0')) hc
    exact of_decide_eq_true hc
  have hzeros := List.eq_replicate_iff.mpr ⟨rfl, hzero⟩
  refine ⟨(ds.reverse.takeWhile (· = '0')).length, ?_⟩
  calc ds = (ds.reverse.takeWhile (· = '0') ++ ds.reverse.dropWhile (· = '0')).reverse := by
        rw [List.takeWhile_append_dropWhile, List.reverse_reverse]
    _ = (ds.reverse.dropWhile (· = '0')).reverse ++ (ds.reverse.takeWhile (· = '0')).reverse :=
        List.reverse_append
    _ = _ := by rw [hzeros, List.reverse_replicate, List.length_replicate]

/-- Digits that are left out at the end count as zeros. -/
theorem nanoseconds_of_padded {ds : List Char} {k nanosecond : Nat} (h : nanosecond < 1000000000)
    (hds : padded 9 nanosecond = ds ++ List.replicate k '0') : nanoseconds ds = nanosecond := by
  have hlength := length_padded (n := 9) (by decide) h
  rw [hds, List.length_append, List.length_replicate] at hlength
  rw [nanoseconds, List.take_append, List.take_of_length_le (by omega), List.take_replicate,
    show min (9 - ds.length) 9 = k by omega, ← hds, ofDigitChars_padded]

theorem subsecond_decimals {nanosecond : Nat} (h : nanosecond < 1000000000)
    (hrest : ∀ c ∈ rest.head?, c.isDigit = false ∧ c ≠ '.') :
    subsecond (decimals 9 nanosecond ++ rest) = .ok (nanosecond, rest) := by
  unfold decimals
  split
  · next hzero =>
    rw [List.nil_append, hzero]
    unfold subsecond
    split
    · exact absurd rfl (hrest '.' rfl).2
    · rfl
  · next hne =>
    obtain ⟨k, hk⟩ := exists_eq_append_zeros (padded 9 nanosecond)
    generalize ((padded 9 nanosecond).reverse.dropWhile (· = '0')).reverse = ds at *
    have hdigits : ∀ c ∈ ds, c.isDigit = true := by
      intro c hc
      have hmem : c ∈ padded 9 nanosecond := hk ▸ List.mem_append_left _ hc
      exact isDigit_of_mem_padded hmem
    -- Without a digit that is no zero, the number of nanoseconds would be zero.
    have hds : ds ≠ [] := by
      rintro rfl
      apply hne
      rw [← ofDigitChars_padded 9 nanosecond, hk, List.nil_append,
        Nat.ofDigitChars_replicate_zero, Nat.mul_zero]
    obtain ⟨htake, hdrop⟩ :=
      Json.Draft.takeWhile_digits_append hdigits fun c hc ↦ (hrest c hc).1
    have hvalue := nanoseconds_of_padded h hk
    rw [List.cons_append, subsecond, htake, hdrop, ← hvalue]
    cases ds with
    | nil => exact absurd rfl hds
    | cons => rfl

/-! ## The offset

A timestamp in UTC has the letter `Z` and no digits. Any other offset is read as so many minutes
with the sign in front. -/

theorem head?_offsetChars (offset : Int) :
    ∀ c ∈ (offsetChars offset).head?, c.isDigit = false ∧ c ≠ '.' := by
  intro c hc
  unfold offsetChars at hc
  split at hc
  · obtain rfl := Option.some.inj hc
    decide
  · obtain rfl := Option.some.inj hc
    split <;> decide

variable {sign : Char} {s : List Char} {hour minute : Nat}

/-- An offset with a sign counts the minutes of its hours and those after them. -/
theorem offsetMinutes_sign (hsign : sign = '+' ∨ sign = '-')
    (hhour : digits 2 .offsetHour s = .ok (hour, ':' :: rest)) (hhourLe : hour ≤ 23)
    (hminute : digits 2 .offsetMinute rest = .ok (minute, [])) (hminuteLe : minute ≤ 59) :
    offsetMinutes (sign :: s)
      = .ok (if sign = '-' then -(hour * 60 + minute : Int) else hour * 60 + minute, []) := by
  have hutc : sign ≠ 'Z' ∧ sign ≠ 'z' := by
    rcases hsign with rfl | rfl <;> decide
  unfold offsetMinutes
  split
  · next heq => exact absurd (List.cons.inj heq).1 hutc.1
  · next heq => exact absurd (List.cons.inj heq).1 hutc.2
  · next heq =>
    obtain ⟨rfl, rfl⟩ := List.cons.inj heq
    simp only [if_pos hsign, hhour, bind, Except.bind, if_neg (Nat.not_lt.mpr hhourLe),
      literal_cons, hminute, if_neg (Nat.not_lt.mpr hminuteLe), pure, Except.pure]
  · next heq => cases heq

theorem offsetMinutes_offsetChars {offset : Int} (h : -1440 < offset ∧ offset < 1440) :
    offsetMinutes (offsetChars offset) = .ok (offset, []) := by
  unfold offsetChars
  split
  · next hzero =>
    rw [hzero]
    rfl
  · have hhour : digits 2 .offsetHour (padded 2 (offset.natAbs / 60) ++
        ':' :: padded 2 (offset.natAbs % 60))
        = .ok (offset.natAbs / 60, ':' :: padded 2 (offset.natAbs % 60)) :=
      digits_padded _ (by decide) (by omega) _
    have hminute : digits 2 .offsetMinute (padded 2 (offset.natAbs % 60) ++ [])
        = .ok (offset.natAbs % 60, []) :=
      digits_padded _ (by decide) (by omega) _
    rw [List.append_nil] at hminute
    have hsize : ((offset.natAbs / 60 : Nat) * 60 + (offset.natAbs % 60 : Nat) : Int)
        = offset.natAbs := by omega
    dsimp only
    by_cases hnegative : offset < 0
    · rw [if_pos hnegative, List.cons_append,
        offsetMinutes_sign (.inr rfl) hhour (by omega) hminute (by omega), if_pos rfl, hsize,
        Int.ofNat_natAbs_of_nonpos (by omega), Int.neg_neg]
    · rw [if_neg hnegative, List.cons_append,
        offsetMinutes_sign (.inl rfl) hhour (by omega) hminute (by omega), if_neg (by decide),
        hsize, Int.natAbs_of_nonneg (by omega)]

/-! ## Timestamps -/

theorem separator_cons {c : Char} (hc : c.utf8Size = 1) (s : List Char) :
    separator (c :: s) = .ok s := if_pos hc

/-- Whether a timestamp has a text: its year is not negative, and its offset is a whole number of
minutes and less than a day. -/
structure HasText (t : Timestamp) : Prop where
  year_nonneg : 0 ≤ t.year
  offset_lt : t.offset.natAbs < 86400
  offset_dvd : t.offset % 60 = 0

theorem writeError?_eq_none_iff {t : Timestamp} : t.writeError? = none ↔ t.HasText := by
  unfold writeError?
  constructor
  · intro h
    split at h
    · cases h
    next hyear =>
    split at h
    · cases h
    next hoffset =>
    split at h
    · cases h
    next hminutes => exact ⟨Int.not_lt.mp hyear, Nat.not_le.mp hoffset, not_not.mp hminutes⟩
  · rintro ⟨hyear, hoffset, hminutes⟩
    rw [if_neg (Int.not_lt.mpr hyear), if_neg (Nat.not_le.mpr hoffset),
      if_neg (not_not.mpr hminutes)]

/-- **A document can be written just if all its timestamps have a text.** -/
theorem writing_eq_ok_iff {ts : List Timestamp} {text written : String} :
    writing ts text = .ok written ↔ (∀ t ∈ ts, t.HasText) ∧ text = written := by
  have hnone : ts.findSome? writeError? = none ↔ ∀ t ∈ ts, t.HasText := by
    rw [List.findSome?_eq_none_iff]
    exact forall₂_congr fun t _ ↦ writeError?_eq_none_iff
  rw [writing, ← hnone]
  cases ts.findSome? writeError? with
  | none => simp
  | some e => simp

/-! ### Reading what is written -/

theorem ofParts_toParts (t : Timestamp) : ofParts t.toParts = .ok t := by
  rw [ofParts, if_neg (not_not.mpr t.valid.month_mem), if_neg (not_not.mpr t.valid.day_mem),
    if_neg (Nat.not_le.mpr t.valid.hour_lt), if_neg (Nat.not_le.mpr t.valid.minute_lt),
    dif_pos t.valid]

theorem daysInMonth_le (year : Int) (month : Nat) : daysInMonth year month ≤ 31 := by
  unfold daysInMonth
  grind

/-- **A timestamp is read back from its text**: the same date and time of day, to the nanosecond,
with the same offset. -/
theorem ofText_toText {t : Timestamp} (h : t.HasText) : ofText t.toText = .ok t := by
  obtain ⟨hmonth, hmonthLe⟩ := t.valid.month_mem
  have hyearLe := t.valid.year_mem.2
  have hday : t.day < 10 ^ 2 := by
    have hle := t.valid.day_mem.2.trans (daysInMonth_le t.year t.month)
    omega
  have hhour := t.valid.hour_lt
  have hminute := t.valid.minute_lt
  have hsecond := t.valid.second_lt
  have hfraction := subsecond_decimals t.valid.nanosecond_lt (head?_offsetChars (t.offset / 60))
  have hoffsetLt := h.offset_lt
  have hoffset : (t.offset / 60) * 60 = t.offset := Int.ediv_mul_cancel_of_emod_eq_zero h.offset_dvd
  have hoffsetRead := offsetMinutes_offsetChars
    (show -1440 < t.offset / 60 ∧ t.offset / 60 < 1440 by omega)
  have hyear : (t.year.toNat : Int) = t.year := Int.toNat_of_nonneg h.year_nonneg
  have hyearRead := digits_padded .year (by decide) (show t.year.toNat < 10 ^ 4 by omega)
  have hmonthRead := digits_padded .month (by decide) (show t.month < 10 ^ 2 by omega)
  have hdayRead := digits_padded .day (by decide) hday
  have hhourRead := digits_padded .hour (by decide) (show t.hour < 10 ^ 2 by omega)
  have hminuteRead := digits_padded .minute (by decide) (show t.minute < 10 ^ 2 by omega)
  have hsecondRead := digits_padded .second (by decide) (show t.second < 10 ^ 2 by omega)
  rw [ofText, toText, String.toList_ofList, toChars, ofChars]
  simp only [List.append_assoc, List.cons_append, bind, Except.bind, hyearRead, literal_cons,
    hmonthRead, if_neg (show ¬ t.month = 0 by omega), pure, Except.pure, hdayRead,
    separator_cons (show 'T'.utf8Size = 1 by decide), hhourRead, hminuteRead, hsecondRead,
    hfraction, hoffsetRead, ne_eq, not_true, if_false,
    if_neg (show ¬ t.second = 60 by omega), hyear, hoffset]
  exact t.ofParts_toParts

/-- The sign of an offset without hours, and a fraction without the zeros at its end. -/
example : toText ⟨⟨2024, 2, 29, 23, 59, 59, 500000000, -1800⟩, by decide⟩
    = "2024-02-29T23:59:59.5-00:30" := by decide

/-! ### Writing what is read -/

theorem toParts_of_ofParts {p : Parts} {t : Timestamp} (h : ofParts p = .ok t) : t.toParts = p := by
  unfold ofParts at h
  split at h
  · cases h
  split at h
  · cases h
  split at h
  · cases h
  split at h
  · cases h
  split at h
  · rw [← Except.ok.inj h]
  · cases h

open Json in
theorem offsetMinutes_bound {s rest : List Char} {minutes : Int}
    (h : offsetMinutes s = .ok (minutes, rest)) : -1440 < minutes ∧ minutes < 1440 := by
  unfold offsetMinutes at h
  split at h
  · cases h
    decide
  · cases h
    decide
  · split at h
    · simp only [bind_eq_ok_iff, ite_throw_eq_ok_iff] at h
      obtain ⟨⟨hour, _⟩, -, hhour, _, -, ⟨minute, _⟩, -, hminute, h⟩ := h
      obtain ⟨rfl, -⟩ := Prod.mk.inj (Except.ok.inj h)
      dsimp only at hhour hminute ⊢
      split <;> omega
    · cases h
  · cases h

open Json in
/-- **What is read has a text**, whatever it was read from. -/
theorem hasText_of_ofText {s : String} {t : Timestamp} (h : ofText s = .ok t) : t.HasText := by
  rw [ofText, ofChars] at h
  simp only [bind_eq_ok_iff, ite_throw_eq_ok_iff] at h
  obtain ⟨⟨year, _⟩, -, _, -, ⟨month, _⟩, -, -, _, -, ⟨day, _⟩, -, _, -, ⟨hour, _⟩, -, _, -,
    ⟨minute, _⟩, -, _, -, ⟨second, _⟩, -, ⟨nanosecond, _⟩, -, ⟨minutes, _⟩, hminutes, -, h⟩ := h
  have hbound := offsetMinutes_bound hminutes
  -- A leap second has other seconds than those read, but the same year and the same offset.
  have hparts : t.year = year ∧ t.offset = minutes * 60 := by
    split at h
    · obtain ⟨leap, hleap, h⟩ := bind_eq_ok_iff.mp h
      split at h
      · obtain rfl := Except.ok.inj h
        rw [toParts_of_ofParts hleap]
        exact ⟨rfl, rfl⟩
      · cases h
    · rw [toParts_of_ofParts h]
      exact ⟨rfl, rfl⟩
  obtain ⟨hyear, hoffset⟩ := hparts
  exact ⟨by omega, by omega, by omega⟩

end RoadWeather.Timestamp
