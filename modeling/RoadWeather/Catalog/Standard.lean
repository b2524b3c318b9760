import RoadWeather.Catalog

/-!
# The standard catalog

The quantities that road weather stations measure and forecast models provide. A METRo run takes
wind in km/h, pressure in hPa, snow in cm and cloud cover in octas, which is what the scales are
for.
-/

namespace RoadWeather

/-! ## Road condition codes

The states that road weather sensors report, and the SSI codes that a METRo run expects in their
place. -/

namespace RoadCondition

/-- The states of a sensor: error, dry, moist, wet, wet and salted, frost, snow, critical, ice,
slush, unknown. -/
def sensorCodes : List Float := [0, 1, 2, 3, 4, 5, 6, 7, 8, 9, 99]

/-- The SSI codes: dry, wet, ice or snow, water and snow, dew, melting snow, frost, icing rain, and
three more that no sensor state becomes. -/
def ssiCodes : List Float := [33, 34, 35, 36, 37, 38, 39, 40, 41, 42, 43]

/-- The SSI code of a sensor state. The degrees of moisture, and snow and ice, are not told apart;
the error and the unknown state have no code. -/
def sensorToSsi : List (Float × Float) :=
  [(1, 33), (2, 34), (3, 34), (4, 34), (5, 39), (6, 35), (7, 40), (8, 35), (9, 36)]

end RoadCondition

/-! ## Scales and codes -/

namespace StandardCatalog

def metresPerSecondToKilometresPerHour : Float := 3.6

def pascalToHectopascal : Float := 0.01

def millimetresToCentimetres : Float := 0.1

def percentToOctas : Float := 0.08

/-- No and yes. -/
def presenceCodes : List Float := [0, 1]

/-- None, drizzle, rain, sleet, snow, freezing rain, hail. -/
def precipitationTypeCodes : List Float := [0, 1, 2, 3, 4, 5, 6]

def measured (label : String) (validity : Validity) (policy : ConversionPolicy)
    (feeds : List Tag) : Parameter :=
  ⟨label, .measured, validity, policy, feeds⟩

def forecasted (label : String) (validity : Validity) (policy : ConversionPolicy)
    (feeds : List Tag) : Parameter :=
  ⟨label, .forecasted, validity, policy, feeds⟩

/-- What sensors measure. -/
def measuredParameters : List Parameter := [
  measured "Temperature in [deg C] @ 150cm above ground"
    (.range (-60) 60) .identity [.observation .airTemperature],
  measured "Temperature in [deg C] @ 200cm above ground"
    (.range (-60) 60) .identity [.observation .airTemperature],
  measured "Dew point temperature in [deg C] @ 150cm above ground"
    (.range (-60) 60) .identity [.observation .dewPoint],
  measured "Relative humidity in [%] @ 150cm above ground"
    (.range 0 100) .notConvertible [],
  measured "Wind speed in [m/s] @ 10m above ground"
    (.range 0 75) (.unitScale metresPerSecondToKilometresPerHour) [.observation .windSpeed],
  measured "Average wind speed in [m/s] @ 10m above ground"
    (.range 0 75) (.unitScale metresPerSecondToKilometresPerHour) [.observation .windSpeed],
  measured "Wind gust in [m/s] @ 10m above ground"
    (.range 0 100) .notConvertible [],
  measured "Wind direction in [deg]"
    (.range 0 360) .notConvertible [],
  measured "Total precipitation rate in [mm/h]"
    (.range 0 300) .thresholdToIndicator [.observation .precipitationPresence],
  measured "Precipitation sum in [mm] over last 1h"
    (.range 0 300) .thresholdToIndicator [.observation .precipitationPresence],
  measured "Precipitation presence indicator"
    (.codes presenceCodes) .identity [.observation .precipitationPresence],
  measured "Precipitation type code"
    (.codes precipitationTypeCodes) .notConvertible [],
  measured "Road condition code (sensor)"
    (.codes RoadCondition.sensorCodes) (.categoricalRemap RoadCondition.sensorToSsi)
    [.observation .roadCondition],
  measured "Road condition in [SSI code]"
    (.codes RoadCondition.ssiCodes) .identity [.observation .roadCondition],
  measured "Road surface temperature in [deg C]"
    (.range (-60) 80) .identity [.observation .surfaceTemperature],
  measured "Road sub-surface temperature in [deg C] @ 6cm below surface"
    (.range (-60) 60) .identity [.observation .subSurfaceTemperature],
  measured "Ground temperature in [deg C] @ 40cm below surface"
    (.range (-60) 60) .identity [.observation .subSurfaceTemperature],
  measured "Water film height in [mm]"
    (.range 0 10) .notConvertible [],
  measured "Freezing point in [deg C]"
    (.range (-60) 0) .notConvertible [],
  measured "Friction coefficient"
    (.range 0 1) .notConvertible [],
  measured "Visibility in [m]"
    (.range 0 100000) .notConvertible [],
  measured "Air pressure in [hPa]"
    (.range 300 1100) .notConvertible []
  ]

/-- What forecast models provide. The road surface temperature comes from a road model and is no
input of another one. -/
def forecastedParameters : List Parameter := [
  forecasted "Forecasted temperature in [deg C] @ 2m above ground"
    (.range (-90) 60) .identity [.forecast .airTemperature],
  forecasted "Forecasted dew point temperature in [deg C] @ 2m above ground"
    (.range (-90) 60) .identity [.forecast .dewPoint],
  forecasted "Forecasted relative humidity in [%] @ 2m above ground"
    (.range 0 100) .notConvertible [],
  forecasted "Forecasted wind speed in [m/s] @ 10m above ground"
    (.range 0 75) (.unitScale metresPerSecondToKilometresPerHour) [.forecast .windSpeed],
  forecasted "Forecasted wind direction in [deg] @ 10m above ground"
    (.range 0 360) .notConvertible [],
  forecasted "Forecasted air pressure in [Pa] @ mean sea level"
    (.range 30000 110000) (.unitScale pascalToHectopascal) [.forecast .pressure],
  forecasted "Forecasted air pressure in [Pa] @ ground level"
    (.range 30000 110000) (.unitScale pascalToHectopascal) [.forecast .pressure],
  forecasted "Forecasted rain accumulation in [mm] over 1h"
    (.range 0 500) .identity [.forecast .rainAccumulation],
  forecasted "Forecasted snow accumulation in [cm] over 1h"
    (.range 0 500) .identity [.forecast .snowAccumulation],
  forecasted "Forecasted snow accumulation in [mm] over 1h"
    (.range 0 5000) (.unitScale millimetresToCentimetres) [.forecast .snowAccumulation],
  forecasted "Forecasted total cloud cover in [%]"
    (.range 0 100) (.unitScale percentToOctas) [.forecast .cloudCover],
  forecasted "Forecasted total cloud cover in [octas]"
    (.range 0 8) .identity [.forecast .cloudCover],
  forecasted "Forecasted downward shortwave radiation flux in [W/m2]"
    (.range 0 1500) .identity [.forecast .solarFlux],
  forecasted "Forecasted downward longwave radiation flux in [W/m2]"
    (.range 0 1000) .identity [.forecast .infraredFlux],
  forecasted "Forecasted anthropogenic heat flux in [W/m2]"
    (.range 0 1000) .identity [.forecast .anthropogenicFlux],
  forecasted "Forecasted precipitation type code"
    (.codes precipitationTypeCodes) .notConvertible [],
  forecasted "Forecasted probability of precipitation in [%]"
    (.range 0 100) .notConvertible [],
  forecasted "Forecasted visibility in [m]"
    (.range 0 100000) .notConvertible [],
  forecasted "Forecasted road surface temperature in [deg C]"
    (.range (-60) 80) .notConvertible []
  ]

end StandardCatalog

/-- All known parameters, measured ones first. -/
def standardParameters : List Parameter :=
  StandardCatalog.measuredParameters ++ StandardCatalog.forecastedParameters

/-- The catalog of all known parameters. -/
def Catalog.standard : Catalog where
  parameters := standardParameters
  consistent := by decide +kernel

end RoadWeather
