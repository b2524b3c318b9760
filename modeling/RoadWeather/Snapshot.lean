import RoadWeather.Location
import RoadWeather.Timestamp

/-!
# Values and snapshots

A value of a parameter from a sensor or a forecast model, at a place and a time, and a snapshot of
many of them.
-/

namespace RoadWeather

/-- A value and when it was measured, or is forecasted for. -/
structure TimedValue where
  timestamp : Timestamp
  value : Float

/-- A value with what it is a value of. -/
structure ValueRecord where
  /-- The label of the parameter. -/
  parameter : String
  /-- The name of the sensor or of the forecast model. -/
  sourceId : String
  location : Location
  timed : TimedValue

/-- Values of sensors and of forecast models. -/
structure Snapshot where
  measurements : List ValueRecord := []
  forecasts : List ValueRecord := []

def Snapshot.size (s : Snapshot) : Nat := s.measurements.length + s.forecasts.length

end RoadWeather
