import RoadWeather.Number.Decimal

/-!
# Written numbers

The three texts of a double: the plain one of messages (`36`, `-0`, `0.000001`), the one of JSON
(`36.0`, `-0.0`, `1e-6`, `1e+16`) and the one with five places (`60.20550`), together with the
reading of a decimal text. The first two write the shortest decimal that reads back, the third
rounds the exact value.
-/

namespace RoadWeather

/-- How a decimal with the given digits and exponent is laid out. -/
structure NumberStyle where
  /-- The point stands among or before the digits while its position is within these bounds. -/
  leastPoint : Option Int
  greatestPoint : Option Int
  /-- Whether a whole number is written with `.0`. -/
  keepsPoint : Bool
  /-- Where an exact tie between two shortest decimals goes. -/
  tie : Tie
  deriving Repr

namespace NumberStyle

/-- Messages never use an exponent and write whole numbers without a point. -/
def plain : NumberStyle := ⟨none, none, false, .up⟩

/-- JSON writes a point from `0.00001` up to, but not including, `1e+16`. -/
def json : NumberStyle := ⟨some (-4), some 16, true, .even⟩

/-- Digits with the point after the first `point` of them; zeros fill the gap where there are
fewer, and a negative `point` stands for zeros after the point. -/
def positional (keepsPoint : Bool) (digits : List Char) (point : Int) : List Char :=
  if point ≤ 0 then '0' :: '.' :: List.replicate (-point).toNat '0' ++ digits
  else if digits.length ≤ point.toNat then
    digits ++ List.replicate (point.toNat - digits.length) '0' ++
      (if keepsPoint then ['.', '0'] else [])
  else digits.take point.toNat ++ '.' :: digits.drop point.toNat

/-- One digit before the point, and a signed exponent. -/
def scientific (digits : List Char) (point : Int) : List Char :=
  let exponent := point - 1
  digits.take 1 ++ (if digits.length ≤ 1 then [] else '.' :: digits.drop 1) ++
    'e' :: (if exponent < 0 then '-' else '+') :: Nat.toDigits 10 exponent.natAbs

def decimal (style : NumberStyle) (d : Decimal) : List Char :=
  let digits := Nat.toDigits 10 d.digits
  let point := digits.length + d.exponent
  if style.leastPoint.all (· ≤ point) ∧ style.greatestPoint.all (point ≤ ·) then
    positional style.keepsPoint digits point
  else scientific digits point

/-- The text of `significand · 2 ^ exponent`. -/
def magnitude (style : NumberStyle) (significand : Nat) (exponent : Int) : List Char :=
  if significand = 0 then if style.keepsPoint then ['0', '.', '0'] else ['0']
  else style.decimal (Decimal.shortest style.tie significand exponent)

end NumberStyle

def signChars (negative : Bool) : List Char := if negative then ['-'] else []

/-- The text of a double: `NaN`, `inf` and `-inf` beside the finite ones. -/
def NumberStyle.chars (style : NumberStyle) (x : Float) : List Char :=
  match Binary64.ofFloat x with
  | .nan => ['N', 'a', 'N']
  | .infinite negative => signChars negative ++ ['i', 'n', 'f']
  | .finite negative significand exponent =>
    signChars negative ++ style.magnitude significand exponent

/-- A double as messages write it. -/
def plainText (x : Float) : String := String.ofList (NumberStyle.plain.chars x)

/-! ## Five places -/

/-- A number of hundred-thousandths, with all five places. -/
def fivePlaces (units : Nat) : List Char :=
  let fraction := Nat.toDigits 10 (units % 100000)
  Nat.toDigits 10 (units / 100000) ++
    '.' :: List.replicate (5 - fraction.length) '0' ++ fraction

/-- A double rounded to five places, the sign of a negative zero included. -/
def fixedText (x : Float) : String :=
  String.ofList <|
    match Binary64.ofFloat x with
    | .nan => ['N', 'a', 'N']
    | .infinite negative => signChars negative ++ ['i', 'n', 'f']
    | .finite negative significand exponent =>
      signChars negative ++ fivePlaces (Decimal.inPlaces 5 significand exponent)

/-! ## Reading -/

/-- A decimal text taken apart: digits before the point, after it, and the exponent. -/
structure DecimalText where
  whole : List Char
  fraction : List Char
  exponent : Int
  deriving DecidableEq, Repr

/-- The double nearest to a decimal text. -/
def DecimalText.toFloat (negative : Bool) (t : DecimalText) : Float :=
  Binary64.ofDecimal negative (Nat.ofDigitChars 10 (t.whole ++ t.fraction) 0)
    (t.exponent - t.fraction.length)

/-- Reads `12`, `.5`, `1.`, `2.5e-3` and the like: at least one digit, an optional point, an
optional exponent. -/
def DecimalText.ofChars? (s : List Char) : Option DecimalText :=
  let whole := s.takeWhile Char.isDigit
  let afterWhole := s.dropWhile Char.isDigit
  let (fraction, afterFraction) :=
    match afterWhole with
    | '.' :: r => (r.takeWhile Char.isDigit, r.dropWhile Char.isDigit)
    | r => ([], r)
  if whole = [] ∧ fraction = [] then none
  else match afterFraction with
    | [] => some ⟨whole, fraction, 0⟩
    | e :: r =>
      let (negative, digits) :=
        match r with
        | '-' :: d => (true, d)
        | '+' :: d => (false, d)
        | d => (false, d)
      if (e = 'e' ∨ e = 'E') ∧ digits ≠ [] ∧ digits.all Char.isDigit then
        let size : Int := Nat.ofDigitChars 10 digits 0
        some ⟨whole, fraction, if negative then -size else size⟩
      else none

/-- Reads a double: a decimal text, `NaN` or `inf`, with an optional sign. -/
def readFloat? (s : String) : Option Float :=
  let (negative, rest) :=
    match s.toList with
    | '-' :: r => (true, r)
    | '+' :: r => (false, r)
    | r => (false, r)
  if rest = ['N', 'a', 'N'] then some (0 / 0)
  else if rest = ['i', 'n', 'f'] then some (if negative then -(1 / 0) else 1 / 0)
  else (DecimalText.ofChars? rest).map (·.toFloat negative)

end RoadWeather
