/-!
# Input tags

The inputs of a METRo run. Observations and weather forecasts are tagged separately, and a tag is
known by the name of its XML element, which is unique among the tags of its sort only.
-/

namespace RoadWeather

/-! ## Observations -/

/-- An observation input. A run needs every one of them. -/
inductive ObservationTag where
  | airTemperature
  | dewPoint
  | precipitationPresence
  | windSpeed
  | roadCondition
  | surfaceTemperature
  | subSurfaceTemperature
  deriving DecidableEq, Repr

namespace ObservationTag

def all : List ObservationTag :=
  [airTemperature, dewPoint, precipitationPresence, windSpeed, roadCondition, surfaceTemperature,
    subSurfaceTemperature]

def name : ObservationTag → String
  | airTemperature => "at"
  | dewPoint => "td"
  | precipitationPresence => "pi"
  | windSpeed => "ws"
  | roadCondition => "sc"
  | surfaceTemperature => "st"
  | subSurfaceTemperature => "sst"

def named : List (String × ObservationTag) := all.map fun tag ↦ (tag.name, tag)

@[simp] theorem mem_all (tag : ObservationTag) : tag ∈ all := by cases tag <;> decide

theorem lookup_name (tag : ObservationTag) : named.lookup tag.name = some tag := by
  cases tag <;> decide

end ObservationTag

/-! ## Forecasts -/

/-- A weather forecast input. -/
inductive ForecastTag where
  | airTemperature
  | dewPoint
  | rainAccumulation
  | snowAccumulation
  | windSpeed
  | pressure
  | cloudCover
  | solarFlux
  | infraredFlux
  | anthropogenicFlux
  deriving DecidableEq, Repr

namespace ForecastTag

def all : List ForecastTag :=
  [airTemperature, dewPoint, rainAccumulation, snowAccumulation, windSpeed, pressure, cloudCover,
    solarFlux, infraredFlux, anthropogenicFlux]

/-- The tags that a run needs in every mode. -/
def mandatory : List ForecastTag :=
  [airTemperature, dewPoint, rainAccumulation, snowAccumulation, windSpeed, pressure]

def name : ForecastTag → String
  | airTemperature => "at"
  | dewPoint => "td"
  | rainAccumulation => "ra"
  | snowAccumulation => "sn"
  | windSpeed => "ws"
  | pressure => "ap"
  | cloudCover => "cc"
  | solarFlux => "sf"
  | infraredFlux => "ir"
  | anthropogenicFlux => "fa"

/-- Whether the input is a radiation or heat flux. -/
def isFlux : ForecastTag → Bool
  | solarFlux | infraredFlux | anthropogenicFlux => true
  | _ => false

def named : List (String × ForecastTag) := all.map fun tag ↦ (tag.name, tag)

@[simp] theorem mem_all (tag : ForecastTag) : tag ∈ all := by cases tag <;> decide

theorem lookup_name (tag : ForecastTag) : named.lookup tag.name = some tag := by
  cases tag <;> decide

end ForecastTag

/-! ## Either sort -/

/-- An input of either sort. -/
inductive Tag where
  | observation (tag : ObservationTag)
  | forecast (tag : ForecastTag)
  deriving DecidableEq, Repr

def Tag.describe : Tag → String
  | .observation tag => s!"observation <{tag.name}>"
  | .forecast tag => s!"forecast <{tag.name}>"

end RoadWeather
