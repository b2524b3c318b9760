import RoadWeather.Description
import RoadWeather.Document.Source

/-!
# Descriptions in documents

The form of run modes, flux corrections and configurations of location descriptions. In reading,
whatever has a default may be left out, single switches and factors too. Of several lists for one
tag the last one counts. In writing everything is there, the mapped tags in their order.
-/

namespace RoadWeather

open Json

namespace RunMode

def toJson (m : RunMode) : Json :=
  .object [("enable_sunshadow", .bool m.enableSunshadow),
    ("sunshadow_method", .natural m.sunshadowMethod.toNat),
    ("use_solar_flux_forecast", .bool m.useSolarFluxForecast),
    ("use_infrared_flux_forecast", .bool m.useInfraredFluxForecast),
    ("use_anthropogenic_flux", .bool m.useAnthropogenicFlux)]

def fields :=
  let preset : RunMode := {}
  (Fields.defaulted "enable_sunshadow" Decoder.bool preset.enableSunshadow).and <|
    (Fields.defaulted "sunshadow_method" Decoder.byte preset.sunshadowMethod).and <|
      (Fields.defaulted "use_solar_flux_forecast" Decoder.bool preset.useSolarFluxForecast).and <|
        (Fields.defaulted "use_infrared_flux_forecast" Decoder.bool
          preset.useInfraredFluxForecast).and <|
          Fields.defaulted "use_anthropogenic_flux" Decoder.bool preset.useAnthropogenicFlux

def decoder : Decoder RunMode := fun d ↦ do
  let (sunshadow, method, solar, infrared, anthropogenic) ← fields.decoder "RunMode" d
  return ⟨sunshadow, method, solar, infrared, anthropogenic⟩

end RunMode

namespace FluxCorrections

def toJson (c : FluxCorrections) : Json :=
  .object [("solar", .double c.solar), ("infrared", .double c.infrared),
    ("anthropogenic", .double c.anthropogenic)]

def fields :=
  let preset : FluxCorrections := {}
  (Fields.defaulted "solar" Decoder.double preset.solar).and <|
    (Fields.defaulted "infrared" Decoder.double preset.infrared).and <|
      Fields.defaulted "anthropogenic" Decoder.double preset.anthropogenic

def decoder : Decoder FluxCorrections := fun d ↦ do
  let (solar, infrared, anthropogenic) ← fields.decoder "FluxCorrections" d
  return ⟨solar, infrared, anthropogenic⟩

end FluxCorrections

namespace Mapping

variable {τ : Type}

def toJson (m : Mapping τ) (named : List (String × τ)) : Json :=
  .object <| named.filterMap fun (name, tag) ↦
    (m tag).map fun sources ↦ (name, DataSource.listToJson sources)

def decoder [DecidableEq τ] (named : List (String × τ)) : Decoder (Mapping τ) := fun d ↦
  (Decoder.map (Decoder.variant named) DataSource.listDecoder d).map ofEntries

end Mapping

namespace DescriptionConfig

def toJson (c : DescriptionConfig) : Json :=
  .object [("location", c.location.toJson), ("model_id", .string c.modelId),
    ("observation_mappings", c.observations.toJson ObservationTag.named),
    ("forecast_mappings", c.forecasts.toJson ForecastTag.named),
    ("flux_corrections", c.corrections.toJson), ("run_mode", c.runMode.toJson)]

def fields :=
  (Fields.required "location" Location.decoder).and <|
    (Fields.required "model_id" Decoder.string).and <|
      (Fields.defaulted "observation_mappings" (Mapping.decoder ObservationTag.named)
        Mapping.empty).and <|
        (Fields.defaulted "forecast_mappings" (Mapping.decoder ForecastTag.named)
          Mapping.empty).and <|
          (Fields.defaulted "flux_corrections" FluxCorrections.decoder {}).and <|
            Fields.defaulted "run_mode" RunMode.decoder {}

def decoder : Decoder DescriptionConfig := fun d ↦ do
  let (location, modelId, observations, forecasts, corrections, runMode) ←
    fields.decoder "DescriptionConfig" d
  return ⟨location, modelId, observations, forecasts, corrections, runMode⟩

end DescriptionConfig

namespace Description

def decoder : Decoder Description :=
  Decoder.refine DescriptionConfig.decoder fun c ↦
    (ofConfig c).mapError DescriptionError.message

def listToJson (ds : List Description) : Json := .array (ds.map (·.config.toJson))

def listDecoder : Decoder (List Description) := Decoder.list decoder

end Description

end RoadWeather
