import RoadWeather.Json.Draft
import RoadWeather.Proofs.ShortestDecimal

/-!
# Numbers read back from their text

A number is read up to the first character that cannot continue it. Its parts are the digits before
the point, those after it and the exponent (`NumberParts`), each as they stand in the text. What
they stand for is a rational number, and two layouts of one number have the same.

## Layouts

The text of a double is laid out in one of four ways: its digits below the point, above it, on both
sides of it, or with an exponent. Each is a choice of parts, and each stands for the same decimal
(`standsFor_decimal`). The size of the number makes the choice. It is of no account for reading the
number back, so nothing is said here about where one layout ends and another one begins.

A double is then found again from the shortest decimal that rounds to it. In every layout that is
used for documents it has a point or an exponent, which keeps it apart from a whole number. That one
is found again from its digits (`Draft.numberOf_toDigits`).

## Spellings

A reader accepts more than a writer writes: an exponent may have either mark, a plus sign and zeros
in front. So there is a second description of the text, of the spellings of given parts
(`NumberParts.Spells`), and the text that is written is one of them. A leading zero stands alone in
both. Numbers too large for a double are spelled as well, although they are refused as values.
-/

namespace RoadWeather

open Json

/-! ## Digits -/

theorem forall_isDigit_toDigits (n : Nat) : ∀ c ∈ Nat.toDigits 10 n, c.isDigit = true :=
  fun _ hc ↦ Nat.isDigit_of_mem_toDigits (by decide) (by decide) hc

theorem head?_toDigits_ne {n : Nat} (hn : n ≠ 0) : (Nat.toDigits 10 n).head? ≠ some '0' := by
  induction n using Nat.strongRecOn with
  | ind n ih =>
    rcases Nat.lt_or_ge n 10 with hlt | hge
    · interval_cases n <;> simp_all [Nat.toDigits_of_lt_base]
    · rw [Nat.toDigits_of_base_le (by decide) hge,
        List.head?_append_of_ne_nil _ Nat.toDigits_ne_nil]
      exact ih (n / 10) (by omega) (by omega)

theorem length_toDigits_of_head? {n : Nat} (h : (Nat.toDigits 10 n).head? = some '0') :
    (Nat.toDigits 10 n).length = 1 := by
  rcases eq_or_ne n 0 with rfl | hn
  · rw [Nat.toDigits_zero]
    rfl
  · exact absurd h (head?_toDigits_ne hn)

/-! ## The parts of a number -/

/-- A number after its sign: the digits before the point, those after it, and the exponent. -/
structure NumberParts where
  whole : List Char
  fraction : Option (List Char)
  exponent : Option Int

namespace NumberParts

def fractionChars : Option (List Char) → List Char
  | none => []
  | some digits => '.' :: digits

def exponentChars : Option Int → List Char
  | none => []
  | some e => 'e' :: (if e < 0 then '-' else '+') :: Nat.toDigits 10 e.natAbs

/-- The text of the parts. -/
def chars (p : NumberParts) : List Char :=
  p.whole ++ (fractionChars p.fraction ++ exponentChars p.exponent)

/-- The digits are some, and a leading zero stands alone. -/
structure IsWellFormed (p : NumberParts) : Prop where
  isDigit_whole : ∀ c ∈ p.whole, c.isDigit = true
  whole_ne_nil : p.whole ≠ []
  leading : p.whole.head? = some '0' → p.whole.length = 1
  isDigit_fraction : ∀ digits ∈ p.fraction, ∀ c ∈ digits, c.isDigit = true
  fraction_ne_nil : ∀ digits ∈ p.fraction, digits ≠ []

/-- What the parts stand for. -/
def value (p : NumberParts) : ℚ :=
  Nat.ofDigitChars 10 (p.whole ++ p.fraction.getD []) 0 *
    10 ^ (p.exponent.getD 0 - (p.fraction.getD []).length)

theorem value_eq {p : NumberParts} {n k : Nat} {e : Int}
    (hdigits : Nat.ofDigitChars 10 (p.whole ++ p.fraction.getD []) 0 = 10 ^ k * n)
    (he : k + p.exponent.getD 0 - (p.fraction.getD []).length = e) : p.value = n * 10 ^ e := by
  rw [value, hdigits, ← he, add_sub_assoc, zpow_add₀ (by norm_num), zpow_natCast]
  push_cast
  ring

/-- `text` stands for `q`: it is that of well-formed parts with this value, and of no whole
number. -/
def StandsFor (text : List Char) (q : ℚ) : Prop :=
  ∃ p : NumberParts, text = p.chars ∧ p.IsWellFormed ∧ p.value = q ∧
    (p.fraction.isNone && p.exponent.isNone) = false

/-- The spellings of an exponent, if there is one: a mark, a sign that may be left out where it is a
plus, and digits. -/
inductive SpellsExponent : Option Int → List Char → Prop
  | none : SpellsExponent none []
  | unsigned {mark : Char} {digits : List Char} (hmark : mark = 'e' ∨ mark = 'E')
      (hdigits : ∀ c ∈ digits, c.isDigit = true) (hne : digits ≠ []) :
      SpellsExponent (some (Nat.ofDigitChars 10 digits 0)) (mark :: digits)
  | plus {mark : Char} {digits : List Char} (hmark : mark = 'e' ∨ mark = 'E')
      (hdigits : ∀ c ∈ digits, c.isDigit = true) (hne : digits ≠ []) :
      SpellsExponent (some (Nat.ofDigitChars 10 digits 0)) (mark :: '+' :: digits)
  | minus {mark : Char} {digits : List Char} (hmark : mark = 'e' ∨ mark = 'E')
      (hdigits : ∀ c ∈ digits, c.isDigit = true) (hne : digits ≠ []) :
      SpellsExponent (some (-(Nat.ofDigitChars 10 digits 0))) (mark :: '-' :: digits)

theorem spellsExponent_exponentChars (e : Option Int) : SpellsExponent e (exponentChars e) := by
  cases e with
  | none => exact .none
  | some e =>
    have hdigits := forall_isDigit_toDigits e.natAbs
    have hsize : (Nat.ofDigitChars 10 (Nat.toDigits 10 e.natAbs) 0 : Int) = |e| := by
      rw [Nat.ofDigitChars_ten_toDigits, Int.natCast_natAbs]
    rw [exponentChars]
    by_cases he : e < 0
    · rw [if_pos he]
      have hvalue : e = -(Nat.ofDigitChars 10 (Nat.toDigits 10 e.natAbs) 0 : Int) := by
        rw [hsize, abs_of_neg he, neg_neg]
      have hminus := SpellsExponent.minus (.inl rfl) hdigits Nat.toDigits_ne_nil
      rwa [← hvalue] at hminus
    · rw [if_neg he]
      have hvalue : e = (Nat.ofDigitChars 10 (Nat.toDigits 10 e.natAbs) 0 : Int) := by
        rw [hsize, abs_of_nonneg (not_lt.mp he)]
      have hplus := SpellsExponent.plus (.inl rfl) hdigits Nat.toDigits_ne_nil
      rwa [← hvalue] at hplus

/-- Whether a text spells the parts of a number, with any spelling of the exponent. -/
def Spells (p : NumberParts) (s : List Char) : Prop :=
  p.IsWellFormed ∧
    ∃ e, SpellsExponent p.exponent e ∧ s = p.whole ++ (fractionChars p.fraction ++ e)

theorem IsWellFormed.spells_chars {p : NumberParts} (hp : p.IsWellFormed) : p.Spells p.chars :=
  ⟨hp, exponentChars p.exponent, spellsExponent_exponentChars p.exponent, rfl⟩

end NumberParts

namespace Json.Draft

variable {digits rest : List Char}

/-- What cannot continue a number: no digit, no point and no exponent. -/
def EndsNumber (rest : List Char) : Prop :=
  ∀ c ∈ rest.head?, c.isDigit = false ∧ c ≠ '.' ∧ c ≠ 'e' ∧ c ≠ 'E'

theorem takeWhile_digits_append (hdigits : ∀ c ∈ digits, c.isDigit = true)
    (hrest : ∀ c ∈ rest.head?, c.isDigit = false) :
    (digits ++ rest).takeWhile Char.isDigit = digits ∧
      (digits ++ rest).dropWhile Char.isDigit = rest := by
  rw [List.takeWhile_append_of_pos hdigits, List.dropWhile_append_of_pos hdigits]
  cases rest with
  | nil => exact ⟨List.append_nil _, rfl⟩
  | cons c rest =>
    have hc : ¬ c.isDigit = true := by simp [hrest c rfl]
    rw [List.takeWhile_cons_of_neg hc, List.dropWhile_cons_of_neg hc, List.append_nil]
    exact ⟨rfl, rfl⟩

theorem readDigits_append (hdigits : ∀ c ∈ digits, c.isDigit = true) (hne : digits ≠ [])
    (hrest : ∀ c ∈ rest.head?, c.isDigit = false) :
    readDigits (digits ++ rest) = .ok (digits, rest) := by
  obtain ⟨htake, hdrop⟩ := takeWhile_digits_append hdigits hrest
  rw [readDigits, htake, hdrop]
  cases digits with
  | nil => exact absurd rfl hne
  | cons => rfl

theorem readFraction_none (hrest : ∀ c ∈ rest.head?, c ≠ '.') :
    readFraction rest = .ok (none, rest) := by
  unfold readFraction
  split
  · next s => exact absurd rfl (hrest '.' rfl)
  · rfl

theorem readFraction_some (hdigits : ∀ c ∈ digits, c.isDigit = true) (hne : digits ≠ [])
    (hrest : ∀ c ∈ rest.head?, c.isDigit = false) :
    readFraction ('.' :: (digits ++ rest)) = .ok (some digits, rest) := by
  rw [readFraction, readDigits_append hdigits hne hrest]
  rfl

theorem readExponent_none (hrest : ∀ c ∈ rest.head?, c ≠ 'e' ∧ c ≠ 'E') :
    readExponent rest = .ok (none, rest) := by
  cases rest with
  | nil => rfl
  | cons c rest =>
    obtain ⟨he, hE⟩ := hrest c rfl
    unfold readExponent
    simp [he, hE]

theorem readExponent_mark {mark : Char} (hmark : mark = 'e' ∨ mark = 'E') (s : List Char) :
    readExponent (mark :: '-' :: s)
        = (readDigits s).map (fun r ↦ (some (-(Nat.ofDigitChars 10 r.1 0 : Int)), r.2)) ∧
      readExponent (mark :: '+' :: s)
        = (readDigits s).map (fun r ↦ (some (Nat.ofDigitChars 10 r.1 0 : Int), r.2)) ∧
      ((∀ c ∈ s.head?, c.isDigit = true) → readExponent (mark :: s)
        = (readDigits s).map fun r ↦ (some (Nat.ofDigitChars 10 r.1 0 : Int), r.2)) := by
  refine ⟨by rw [readExponent, if_pos hmark]; rfl, by rw [readExponent, if_pos hmark]; rfl, ?_⟩
  intro hdigit
  rw [readExponent, if_pos hmark]
  · rfl
  · rintro r rfl
    exact absurd (hdigit '-' rfl) (by decide)
  · rintro r rfl
    exact absurd (hdigit '+' rfl) (by decide)

theorem readExponent_append {e : Option Int} {s : List Char} (h : NumberParts.SpellsExponent e s)
    (hrest : EndsNumber rest) : readExponent (s ++ rest) = .ok (e, rest) := by
  have hend : ∀ c ∈ rest.head?, c.isDigit = false := fun c hc ↦ (hrest c hc).1
  cases h with
  | none => exact readExponent_none fun c hc ↦ (hrest c hc).2.2
  | unsigned hmark hdigits hne =>
    rw [List.cons_append, (readExponent_mark hmark _).2.2 fun c hc ↦ ?_,
      readDigits_append hdigits hne hend]
    · rfl
    · rw [List.head?_append_of_ne_nil _ hne] at hc
      exact hdigits c (List.mem_of_mem_head? hc)
  | plus hmark hdigits hne =>
    rw [List.cons_append, List.cons_append, (readExponent_mark hmark _).2.1,
      readDigits_append hdigits hne hend]
    rfl
  | minus hmark hdigits hne =>
    rw [List.cons_append, List.cons_append, (readExponent_mark hmark _).1,
      readDigits_append hdigits hne hend]
    rfl

/-- **A number is read up to where it ends.** -/
theorem readNumber_spells {p : NumberParts} {s : List Char} (negative : Bool) (hp : p.Spells s)
    (hrest : EndsNumber rest) :
    readNumber negative (s ++ rest)
      = (.number (numberOf negative p.whole p.fraction p.exponent), rest) := by
  obtain ⟨whole, fraction, exponent⟩ := p
  obtain ⟨⟨hwhole, hne, hleading, hfraction, hfractionNe⟩, e, he, rfl⟩ := hp
  dsimp only at *
  have hexponent := readExponent_append he hrest
  -- What follows the digits is neither a digit nor, without a fraction, a point.
  have hexponentRest : ∀ c ∈ (e ++ rest).head?, c.isDigit = false ∧ c ≠ '.' := by
    have hmarked : ∀ mark : Char, mark = 'e' ∨ mark = 'E' → mark.isDigit = false ∧ mark ≠ '.' := by
      rintro mark (rfl | rfl) <;> decide
    intro c hc
    cases he with
    | none => exact ⟨(hrest c hc).1, (hrest c hc).2.1⟩
    | unsigned hmark => exact Option.some.inj hc ▸ hmarked _ hmark
    | plus hmark => exact Option.some.inj hc ▸ hmarked _ hmark
    | minus hmark => exact Option.some.inj hc ▸ hmarked _ hmark
  have hread : readFraction (NumberParts.fractionChars fraction ++ (e ++ rest))
      = .ok (fraction, e ++ rest) := by
    cases fraction with
    | none => exact readFraction_none fun c hc ↦ (hexponentRest c hc).2
    | some digits =>
      exact readFraction_some (hfraction digits rfl) (hfractionNe digits rfl)
        fun c hc ↦ (hexponentRest c hc).1
  have hdigits : readDigits (whole ++ (NumberParts.fractionChars fraction ++ (e ++ rest)))
      = .ok (whole, NumberParts.fractionChars fraction ++ (e ++ rest)) := by
    refine readDigits_append hwhole hne fun c hc ↦ ?_
    cases fraction with
    | none => exact (hexponentRest c hc).1
    | some digits =>
      obtain rfl : '.' = c := Option.some.inj hc
      decide
  have hzero : ¬(whole.head? = some '0' ∧ whole.length ≠ 1) := fun h ↦ h.2 (hleading h.1)
  rw [readNumber, List.append_assoc, List.append_assoc, hdigits]
  simp only [bind, Except.bind, if_neg hzero, hread, hexponent, pure, Except.pure]

theorem readValue_digit {c : Char} {s : List Char} {fuel : Nat} (hc : c.isDigit = true) :
    readValue (fuel + 1) (c :: s) = readNumber false (c :: s) := by
  have hskip : skipBlank (c :: s) = c :: s := by
    refine List.dropWhile_cons_of_neg fun hblank ↦ ?_
    simp only [isBlank, Bool.or_eq_true, decide_eq_true_eq] at hblank
    rcases hblank with ((rfl | rfl) | rfl) | rfl <;> exact absurd hc (by decide)
  rw [readValue, hskip]
  split
  case h_1 h => cases h
  case h_9 h =>
    obtain ⟨rfl, rfl⟩ := List.cons.inj h
    rw [if_pos hc]
  all_goals
    next h =>
      obtain ⟨rfl, -⟩ := List.cons.inj h
      exact absurd hc (by decide)

theorem readValue_signed {p : NumberParts} {s : List Char} (negative : Bool) (hp : p.Spells s)
    (hrest : EndsNumber rest) (fuel : Nat) :
    readValue (fuel + 1) (signChars negative ++ s ++ rest)
      = (.number (numberOf negative p.whole p.fraction p.exponent), rest) := by
  cases negative with
  | true => exact readNumber_spells true hp hrest
  | false =>
    rw [← readNumber_spells false hp hrest, signChars, if_neg Bool.false_ne_true, List.nil_append]
    -- The first digit of the number is the first of its text.
    obtain ⟨⟨hdigits, hne, -⟩, e, -, rfl⟩ := hp
    obtain ⟨c, whole, hwhole⟩ := List.exists_cons_of_ne_nil hne
    rw [hwhole, List.cons_append, List.cons_append]
    exact readValue_digit (hdigits c (hwhole ▸ List.mem_cons_self))

theorem readValue_signChars {p : NumberParts} (negative : Bool) (hp : p.IsWellFormed)
    (hrest : EndsNumber rest) (fuel : Nat) :
    readValue (fuel + 1) (signChars negative ++ p.chars ++ rest)
      = (.number (numberOf negative p.whole p.fraction p.exponent), rest) :=
  readValue_signed negative hp.spells_chars hrest fuel

end Json.Draft

/-! ## The text of a double

Zeros fill the gap between the digits of a decimal and its point, on either side. They are put in
front of digits or behind them, which changes the exponent and not the number. -/

namespace NumberStyle

open NumberParts (StandsFor)

variable {digits : List Char}

theorem forall_isDigit_replicate (k : Nat) : ∀ c ∈ List.replicate k '0', c.isDigit = true := by
  intro c hc
  rw [List.eq_of_mem_replicate hc]
  rfl

theorem standsFor_below (hdigits : ∀ c ∈ digits, c.isDigit = true) (hne : digits ≠ [])
    {point : Int} (hpoint : point ≤ 0) :
    StandsFor ('0' :: '.' :: (List.replicate (-point).toNat '0' ++ digits))
      (Nat.ofDigitChars 10 digits 0 * 10 ^ (point - digits.length)) := by
  refine ⟨⟨['0'], some (List.replicate (-point).toNat '0' ++ digits), none⟩, ?_,
    ⟨?_, ?_, ?_, ?_, ?_⟩, NumberParts.value_eq (k := 0) ?_ ?_, rfl⟩
  · simp [NumberParts.chars, NumberParts.fractionChars, NumberParts.exponentChars]
  · simp
  · simp
  · simp
  · rintro _ ⟨rfl⟩ c hc
    exact (List.mem_append.mp hc).elim (forall_isDigit_replicate _ c) (hdigits c)
  · rintro _ ⟨rfl⟩ hnil
    exact hne (List.append_eq_nil_iff.mp hnil).2
  · simp [Nat.ofDigitChars_append, Nat.ofDigitChars_cons, Nat.ofDigitChars_replicate_zero]
  · simp only [Option.getD_some, Option.getD_none, List.length_append, List.length_replicate]
    omega

theorem standsFor_above (hdigits : ∀ c ∈ digits, c.isDigit = true) (hne : digits ≠ [])
    (hlead : digits.head? ≠ some '0') {point : Int} (hpoint : digits.length ≤ point.toNat) :
    StandsFor (digits ++ List.replicate (point.toNat - digits.length) '0' ++ ['.', '0'])
      (Nat.ofDigitChars 10 digits 0 * 10 ^ (point - digits.length)) := by
  have hpos : 0 < digits.length := List.length_pos_iff.mpr hne
  refine ⟨⟨digits ++ List.replicate (point.toNat - digits.length) '0', some ['0'], none⟩, ?_,
    ⟨?_, ?_, ?_, ?_, ?_⟩, NumberParts.value_eq (k := point.toNat - digits.length + 1) ?_ ?_, rfl⟩
  · simp [NumberParts.chars, NumberParts.fractionChars, NumberParts.exponentChars]
  · intro c hc
    exact (List.mem_append.mp hc).elim (hdigits c) (forall_isDigit_replicate _ c)
  · simp [hne]
  · intro h
    rw [List.head?_append_of_ne_nil _ hne] at h
    exact absurd h hlead
  · rintro _ ⟨rfl⟩ c hc
    obtain rfl := List.mem_singleton.mp hc
    rfl
  · rintro _ ⟨rfl⟩
    exact List.cons_ne_nil _ _
  · simp only [Option.getD_some, Nat.ofDigitChars_append, Nat.ofDigitChars_replicate_zero,
      Nat.ofDigitChars_cons, Nat.ofDigitChars_nil, Nat.pow_succ, Nat.sub_self, Nat.add_zero]
    ring
  · simp only [Option.getD_some, Option.getD_none, List.length_singleton]
    omega

theorem standsFor_among (hdigits : ∀ c ∈ digits, c.isDigit = true)
    (hlead : digits.head? ≠ some '0') {point : Int} (hpos : 0 < point)
    (hpoint : point.toNat < digits.length) :
    StandsFor (digits.take point.toNat ++ '.' :: digits.drop point.toNat)
      (Nat.ofDigitChars 10 digits 0 * 10 ^ (point - digits.length)) := by
  refine ⟨⟨digits.take point.toNat, some (digits.drop point.toNat), none⟩, ?_,
    ⟨?_, ?_, ?_, ?_, ?_⟩, NumberParts.value_eq (k := 0) ?_ ?_, rfl⟩
  · simp [NumberParts.chars, NumberParts.fractionChars, NumberParts.exponentChars]
  · exact fun c hc ↦ hdigits c (List.mem_of_mem_take hc)
  · refine List.ne_nil_of_length_pos ?_
    rw [List.length_take]
    omega
  · intro h
    rw [List.head?_take, if_neg (by omega)] at h
    exact absurd h hlead
  · rintro _ ⟨rfl⟩ c hc
    exact hdigits c (List.mem_of_mem_drop hc)
  · rintro _ ⟨rfl⟩ hnil
    exact absurd (List.drop_eq_nil_iff.mp hnil) (by omega)
  · rw [Option.getD_some, List.take_append_drop, Nat.pow_zero, Nat.one_mul]
  · simp only [Option.getD_some, Option.getD_none, List.length_drop]
    omega

/-- Digits with a point among or beside them stand for the decimal. -/
theorem standsFor_positional (hdigits : ∀ c ∈ digits, c.isDigit = true) (hne : digits ≠ [])
    (hlead : digits.head? ≠ some '0') (point : Int) :
    StandsFor (positional true digits point)
      (Nat.ofDigitChars 10 digits 0 * 10 ^ (point - digits.length)) := by
  unfold positional
  split
  · next hbelow => exact standsFor_below hdigits hne hbelow
  · split
    · next habove => exact standsFor_above hdigits hne hlead habove
    · next hbelow hpoint =>
      exact standsFor_among hdigits hlead (not_le.mp hbelow) (not_le.mp hpoint)

theorem standsFor_scientific (hdigits : ∀ c ∈ digits, c.isDigit = true) (hne : digits ≠ [])
    (point : Int) :
    StandsFor (scientific digits point)
      (Nat.ofDigitChars 10 digits 0 * 10 ^ (point - digits.length)) := by
  have hpos : 0 < digits.length := List.length_pos_iff.mpr hne
  have hone : (digits.take 1).length = 1 := by rw [List.length_take]; omega
  refine ⟨⟨digits.take 1, if digits.length ≤ 1 then none else some (digits.drop 1),
    some (point - 1)⟩, ?_, ⟨?_, ?_, ?_, ?_, ?_⟩, NumberParts.value_eq (k := 0) ?_ ?_,
    Bool.and_false _⟩
  · unfold scientific NumberParts.chars
    split <;> simp [NumberParts.fractionChars, NumberParts.exponentChars]
  · exact fun c hc ↦ hdigits c (List.mem_of_mem_take hc)
  · exact List.ne_nil_of_length_pos (hone.symm ▸ Nat.one_pos)
  · exact fun _ ↦ hone
  · intro ds hds c hc
    split at hds
    · cases hds
    · obtain rfl := Option.some.inj hds
      exact hdigits c (List.mem_of_mem_drop hc)
  · intro ds hds hnil
    split at hds
    · cases hds
    · next hlen =>
      obtain rfl := Option.some.inj hds
      exact hlen (List.drop_eq_nil_iff.mp hnil)
  · split
    · next hlen =>
      rw [Option.getD_none, List.append_nil, List.take_of_length_le hlen, Nat.pow_zero,
        Nat.one_mul]
    · rw [Option.getD_some, List.take_append_drop, Nat.pow_zero, Nat.one_mul]
  · split
    · next hlen =>
      simp only [Option.getD_some, Option.getD_none, List.length_nil]
      omega
    · simp only [Option.getD_some, List.length_drop]
      omega

/-- **The text of a decimal.** However it is laid out, it stands for the decimal. -/
theorem standsFor_decimal (d : Decimal) (hd : d.digits ≠ 0) :
    StandsFor (json.decimal d) (d.digits * 10 ^ d.exponent) := by
  have hdigits := forall_isDigit_toDigits d.digits
  have hne : Nat.toDigits 10 d.digits ≠ [] := Nat.toDigits_ne_nil
  have hexponent : (Nat.toDigits 10 d.digits).length + d.exponent
      - (Nat.toDigits 10 d.digits).length = d.exponent := by omega
  have hpositional := standsFor_positional hdigits hne (head?_toDigits_ne hd)
    ((Nat.toDigits 10 d.digits).length + d.exponent)
  have hscientific := standsFor_scientific hdigits hne
    ((Nat.toDigits 10 d.digits).length + d.exponent)
  rw [hexponent, Nat.ofDigitChars_ten_toDigits] at hpositional hscientific
  unfold decimal
  dsimp only
  split
  · exact hpositional
  · exact hscientific

end NumberStyle

/-! ## Numbers of all kinds -/

namespace Json

/-- Whether the text of a number stands for it: whole numbers must be within the range of 64 bits,
doubles finite. -/
def Number.IsExact : Number → Prop
  | .natural n => n < 2 ^ 64
  | .negative n => 0 < n ∧ n ≤ 2 ^ 63
  | .double x => x.isFinite = true

theorem isWellFormed_toDigits (n : Nat) :
    NumberParts.IsWellFormed ⟨Nat.toDigits 10 n, none, none⟩ where
  isDigit_whole := forall_isDigit_toDigits n
  whole_ne_nil := Nat.toDigits_ne_nil
  leading := length_toDigits_of_head?
  isDigit_fraction := by rintro _ ⟨⟩
  fraction_ne_nil := by rintro _ ⟨⟩

theorem chars_toDigits (n : Nat) :
    NumberParts.chars ⟨Nat.toDigits 10 n, none, none⟩ = Nat.toDigits 10 n := by
  simp [NumberParts.chars, NumberParts.fractionChars, NumberParts.exponentChars]

/-- The text of a finite double: well-formed parts with a fraction or an exponent, from which it
is rounded. -/
theorem chars_double {x : Float} {negative : Bool} {significand : Nat} {exponent : Int}
    (h : Binary64.ofFloat x = .finite negative significand exponent) :
    ∃ p : NumberParts, NumberStyle.json.chars x = signChars negative ++ p.chars ∧
      p.IsWellFormed ∧ (p.fraction.isNone && p.exponent.isNone) = false ∧
      Binary64.RoundsTo significand exponent (p.value / 2 ^ exponent) := by
  rw [NumberStyle.chars, h]
  dsimp only [NumberStyle.magnitude]
  split
  · next hzero =>
    subst hzero
    refine ⟨⟨['0'], some ['0'], none⟩, rfl, ⟨?_, ?_, ?_, ?_, ?_⟩, rfl, ?_⟩
    · simp
    · simp
    · simp
    · simp
    · simp
    · have hvalue : NumberParts.value ⟨['0'], some ['0'], none⟩ = 0 := by
        simp [NumberParts.value, Nat.ofDigitChars_cons]
      rw [hvalue, zero_div]
      exact Binary64.roundsTo_zero exponent
  · next hpos =>
    have hcanonical := Binary64.isCanonical_of_ofFloat h
    have hpos := Nat.pos_of_ne_zero hpos
    obtain ⟨p, hchars, hp, hvalue, hpoint⟩ := NumberStyle.standsFor_decimal
      (Decimal.shortest .even significand exponent)
      (Decimal.digits_shortest_ne_zero .even hcanonical hpos)
    refine ⟨p, congrArg _ hchars, hp, hpoint, ?_⟩
    rw [hvalue]
    exact Decimal.roundsTo_shortest .even hcanonical hpos

namespace Draft

variable {rest : List Char}

/-- Whether a text spells a number: parts behind a sign. One too large for a double is spelled as
well, although it is none. -/
def SpellsNumber (n : Except Fault Number) (s : List Char) : Prop :=
  ∃ negative, ∃ p : NumberParts, ∃ t, p.Spells t ∧ s = signChars negative ++ t ∧
    n = numberOf negative p.whole p.fraction p.exponent

theorem readValue_spellsNumber {n : Except Fault Number} {s : List Char} (h : SpellsNumber n s)
    (hrest : EndsNumber rest) (fuel : Nat) :
    readValue (fuel + 1) (s ++ rest) = (.number n, rest) := by
  obtain ⟨negative, p, t, hp, rfl, rfl⟩ := h
  exact readValue_signed negative hp hrest fuel

/-- The digits of a whole number spell what is read in them, behind either sign. -/
theorem spellsNumber_toDigits (negative : Bool) (n : Nat) :
    SpellsNumber (numberOf negative (Nat.toDigits 10 n) none none)
      (signChars negative ++ Nat.toDigits 10 n) := by
  have hp := (isWellFormed_toDigits n).spells_chars
  rw [chars_toDigits] at hp
  exact ⟨negative, _, _, hp, rfl, rfl⟩

/-- What is read in the digits of a number below `2 ^ 64` is the number. -/
theorem numberOf_toDigits {n : Nat} (h : n < 2 ^ 64) :
    numberOf false (Nat.toDigits 10 n) none none = .ok (.natural n) := by
  have hlt : n < Nat.pow 2 64 := h
  simp only [numberOf, Nat.ofDigitChars_ten_toDigits, Option.isNone_none, Bool.and_self,
    Bool.not_false, Bool.true_and, decide_eq_true hlt, if_true]

/-- **The text of an exact number spells it.** -/
theorem spellsNumber_chars {n : Number} (hn : n.IsExact) : SpellsNumber (.ok n) n.chars := by
  cases n with
  | natural n =>
    rw [← numberOf_toDigits hn]
    exact spellsNumber_toDigits false n
  | negative n =>
    obtain ⟨hpos, hle⟩ : 0 < n ∧ n ≤ Nat.pow 2 63 := hn
    have hnumber : numberOf true (Nat.toDigits 10 n) none none = .ok (.negative n) := by
      simp only [numberOf, Nat.ofDigitChars_ten_toDigits, Option.isNone_none, Bool.and_self,
        Bool.not_true, Bool.and_false, Bool.false_and, decide_eq_true hpos, decide_eq_true hle,
        Bool.false_eq_true, if_false, if_true]
    rw [← hnumber]
    exact spellsNumber_toDigits true n
  | double x =>
    obtain ⟨negative, significand, exponent, hparts⟩ := Binary64.isFinite_iff.mp hn
    obtain ⟨p, hchars, hp, hpoint, hrounds⟩ := chars_double hparts
    have hfloat : DecimalText.toFloat negative
        ⟨p.whole, p.fraction.getD [], p.exponent.getD 0⟩ = x := Binary64.ofDecimal_eq hparts hrounds
    have hfinite : x.isFinite = true := hn
    refine ⟨negative, p, _, hp.spells_chars, hchars, ?_⟩
    rw [numberOf, hpoint]
    simp only [Bool.false_and, Bool.false_eq_true, if_false, hfloat, hfinite, if_true]

end Draft

end Json

end RoadWeather
