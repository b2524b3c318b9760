import RoadWeather.Tag

/-!
# Run modes

The switches of a METRo run that change which inputs it needs, and the factors by which it
corrects forecasted fluxes.
-/

namespace RoadWeather

/-- The switches of a run. -/
structure RunMode where
  enableSunshadow : Bool := false
  sunshadowMethod : UInt8 := 1
  useSolarFluxForecast : Bool := false
  useInfraredFluxForecast : Bool := false
  useAnthropogenicFlux : Bool := false
  deriving DecidableEq, Repr

namespace RunMode

/-- Whether a run needs a forecast. Of the radiation fluxes, those that are not forecasted are
derived from the cloud cover. -/
def requires (m : RunMode) : ForecastTag → Bool
  | .cloudCover => !(m.useSolarFluxForecast && m.useInfraredFluxForecast)
  | .solarFlux => m.useSolarFluxForecast
  | .infraredFlux => m.useInfraredFluxForecast
  | .anthropogenicFlux => m.useAnthropogenicFlux
  | _ => true

/-- The forecasts that a run needs, in the order of their tags. -/
def requiredForecasts (m : RunMode) : List ForecastTag := ForecastTag.all.filter m.requires

@[simp] theorem mem_requiredForecasts {m : RunMode} {tag : ForecastTag} :
    tag ∈ m.requiredForecasts ↔ m.requires tag = true := by
  simp [requiredForecasts, ForecastTag.mem_all]

end RunMode

/-- The factors of the forecasted fluxes. -/
structure FluxCorrections where
  solar : Float := 1
  infrared : Float := 1
  anthropogenic : Float := 1

namespace FluxCorrections

/-- The factor of a forecast, if it is a flux. -/
def factor? (c : FluxCorrections) : ForecastTag → Option Float
  | .solarFlux => some c.solar
  | .infraredFlux => some c.infrared
  | .anthropogenicFlux => some c.anthropogenic
  | _ => none

def named (c : FluxCorrections) : List (String × Float) :=
  [("solar", c.solar), ("infrared", c.infrared), ("anthropogenic", c.anthropogenic)]

/-- Whether a factor is a number that is not negative. -/
def isFactor (x : Float) : Bool := x.isFinite && !(x < 0)

/-- A forecast value after its correction. -/
def apply (c : FluxCorrections) (tag : ForecastTag) (value : Float) : Float :=
  match c.factor? tag with
  | some factor => value * factor
  | none => value

end FluxCorrections

end RoadWeather
