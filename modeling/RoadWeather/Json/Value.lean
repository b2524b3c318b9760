import RoadWeather.Number.Written

/-!
# JSON values

A value keeps what its text can show: a whole number stays apart from a decimal one (`1` is not
`1.0`), and the members of an object keep their order.
-/

namespace RoadWeather

/-- A number as JSON text distinguishes it: unsigned below `2 ^ 64`, negative down to `-2 ^ 63`,
and every other one as a double. -/
inductive Json.Number where
  | natural (n : Nat)
  | negative (n : Nat)
  | double (x : Float)

/-- A JSON value. -/
inductive Json where
  | null
  | bool (b : Bool)
  | number (n : Json.Number)
  | string (s : String)
  | array (items : List Json)
  | object (members : List (String × Json))

namespace Json

/-- A double; JSON has no text for a number that is not finite, so such a one is `null`. -/
def double (x : Float) : Json := if x.isFinite then .number (.double x) else .null

def natural (n : Nat) : Json := .number (.natural n)

/-- The value of an optional field, `null` where there is none. -/
def optional {α : Type} (encode : α → Json) : Option α → Json
  | none => .null
  | some a => encode a

/-- The double nearest to a number. -/
def Number.toFloat : Number → Float
  | .natural n => Binary64.ofNat false n
  | .negative n => Binary64.ofNat true n
  | .double x => x

def Number.chars : Number → List Char
  | .natural n => Nat.toDigits 10 n
  | .negative n => '-' :: Nat.toDigits 10 n
  | .double x => NumberStyle.json.chars x

end Json

end RoadWeather
