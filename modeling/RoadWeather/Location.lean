import RoadWeather.Number.Written

/-!
# Locations

A point on the Earth's surface. Stores find what belongs to a point by its key, the coordinates
rounded to hundred-thousandths of a degree, about a metre. The elevation is no part of it.
-/

namespace RoadWeather

/-- A point on the Earth's surface, in degrees, with an optional elevation in metres. -/
structure Location where
  latitude : Float
  longitude : Float
  elevation : Option Float

namespace Location

/-- Whether the point is on the globe and its elevation, if any, is a number. -/
def isValid (l : Location) : Bool :=
  -90 ≤ l.latitude && l.latitude ≤ 90 && -180 ≤ l.longitude && l.longitude ≤ 180 &&
    l.elevation.all Float.isFinite

/-- A coordinate rounded to hundred-thousandths, half way cases going away from zero. An integer
number of them has no negative zero. -/
def roundCoordinate (x : Float) : Float :=
  match Binary64.nearestInteger? (x * 100000) with
  | some n => Binary64.ofInt n / 100000
  | none => x * 100000

/-- What identifies the point in a store. -/
def key (l : Location) : String :=
  fixedText (roundCoordinate l.latitude) ++ "," ++ fixedText (roundCoordinate l.longitude)

def describe (l : Location) : String :=
  match l.elevation with
  | some elevation =>
    s!"({fixedText l.latitude}, {fixedText l.longitude}, {plainText elevation}m)"
  | none => s!"({fixedText l.latitude}, {fixedText l.longitude})"

end Location

end RoadWeather
