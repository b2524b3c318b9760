/-!
# Texts

What several kinds of text have in common: blanks, numbers of a fixed width, and durations.
-/

namespace RoadWeather

namespace Text

/-! ## Blank texts

A text is blank if all its characters are white space in the sense of Unicode, which is more than
the four blanks of the document formats. -/

/-- The characters that Unicode calls white space. -/
def isSpace (c : Char) : Bool :=
  let n := c.toNat
  (0x9 ≤ n && n ≤ 0xd) || n = 0x20 || n = 0x85 || n = 0xa0 || n = 0x1680 ||
    (0x2000 ≤ n && n ≤ 0x200a) || n = 0x2028 || n = 0x2029 || n = 0x202f || n = 0x205f ||
    n = 0x3000

/-- Whether a text has nothing but white space. -/
def isBlank (s : String) : Bool := s.toList.all isSpace

/-! ## Numbers -/

/-- A number with at least `n` digits. -/
def padded (n value : Nat) : List Char :=
  let ds := Nat.toDigits 10 value
  List.replicate (n - ds.length) '0' ++ ds

/-- The decimals of a fraction that is given as a number of `n` digits: a point and the digits
without the zeros at their end, nothing for zero. -/
def decimals (n value : Nat) : List Char :=
  if value = 0 then []
  else '.' :: ((padded n value).reverse.dropWhile (· = '0')).reverse

end Text

/-! ## Durations -/

/-- A length of time, in nanoseconds. -/
abbrev Duration := Nat

namespace Duration

def ofMilliseconds (n : Nat) : Duration := n * 1000000

/-- The text of a duration in the greatest unit of which there is at least one: `0ns`, `50ms`,
`1.5s`, `60s`. -/
def toText (d : Duration) : String :=
  let inUnit (places : Nat) (unit : String) : String :=
    let size := Nat.pow 10 places
    s!"{d / size}" ++ String.ofList (Text.decimals places (d % size)) ++ unit
  if d < 1000 then inUnit 0 "ns"
  else if d < 1000000 then inUnit 3 "µs"
  else if d < 1000000000 then inUnit 6 "ms"
  else inUnit 9 "s"

end Duration

end RoadWeather
