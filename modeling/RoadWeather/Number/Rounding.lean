/-!
# Rounding quotients

Every number text of the library is the result of one rounding of an exact quotient of natural
numbers. The three users differ only in what they do half way between two integers, so that is
the one parameter.
-/

namespace RoadWeather

/-- Where a quotient exactly half way between two integers goes. -/
inductive Tie where
  | up
  | even
  deriving DecidableEq, Repr

/-- The integer nearest to `num / den`, with `tie` deciding between two equally near ones. -/
def roundQuotient (tie : Tie) (num den : Nat) : Nat :=
  let floor := num / den
  let twice := 2 * (num % den)
  if twice < den then floor
  else if den < twice then floor + 1
  else match tie with
    | .up => floor + 1
    | .even => floor + floor % 2

/-- **Half a unit.** The rounded quotient is within half of `den` of the exact one, from below. -/
theorem two_mul_roundQuotient_mul_le (tie : Tie) (num : Nat) {den : Nat} (hden : 0 < den) :
    2 * (roundQuotient tie num den * den) ≤ 2 * num + den := by
  have hsplit : den * (num / den) + num % den = num := Nat.div_add_mod num den
  have hlt : num % den < den := Nat.mod_lt num hden
  have hswap : num / den * den = den * (num / den) := Nat.mul_comm _ _
  have hsucc : (num / den + 1) * den = den * (num / den) + den := by
    rw [Nat.add_mul, hswap, Nat.one_mul]
  unfold roundQuotient
  dsimp only
  split
  · omega
  · split
    · omega
    · cases tie with
      | up => dsimp only; omega
      | even =>
        dsimp only
        rcases Nat.mod_two_eq_zero_or_one (num / den) with h | h
        · rw [h, Nat.add_zero]; omega
        · rw [h]; omega

/-- **Half a unit.** The rounded quotient is within half of `den` of the exact one, from above. -/
theorem le_two_mul_roundQuotient_mul (tie : Tie) (num : Nat) {den : Nat} (hden : 0 < den) :
    2 * num ≤ 2 * (roundQuotient tie num den * den) + den := by
  have hsplit : den * (num / den) + num % den = num := Nat.div_add_mod num den
  have hlt : num % den < den := Nat.mod_lt num hden
  have hswap : num / den * den = den * (num / den) := Nat.mul_comm _ _
  have hsucc : (num / den + 1) * den = den * (num / den) + den := by
    rw [Nat.add_mul, hswap, Nat.one_mul]
  unfold roundQuotient
  dsimp only
  split
  · omega
  · split
    · omega
    · cases tie with
      | up => dsimp only; omega
      | even =>
        dsimp only
        rcases Nat.mod_two_eq_zero_or_one (num / den) with h | h
        · rw [h, Nat.add_zero]; omega
        · rw [h]; omega

end RoadWeather
