import RoadWeather.Catalog
import RoadWeather.DataSource
import RoadWeather.RunMode
import RoadWeather.Text

/-!
# Location descriptions

A description says where the inputs of a run for one location and one model come from. It is a
configuration that has passed validation, so every input that the run needs has a candidate.

Validation looks at a configuration by itself. Whether its sources name parameters that exist and
fit is a question to a catalog, asked separately.
-/

namespace RoadWeather

/-- Where the inputs of a run come from, as written down. -/
structure DescriptionConfig where
  location : Location
  modelId : String
  observations : Mapping ObservationTag := .empty
  forecasts : Mapping ForecastTag := .empty
  corrections : FluxCorrections := {}
  runMode : RunMode := {}

/-- Why a configuration is no description, or does not fit a catalog. -/
inductive DescriptionError where
  | invalidLocation (location : Location)
  | emptyModelId
  | missingObservation (tag : ObservationTag)
  | missingForecast (tag : ForecastTag)
  | incompleteSource (tag : Tag)
  | invalidFactor (name : String) (value : Float)
  | invalidSunshadowMethod (method : UInt8)
  | unknownParameter (tag : Tag) (parameter : String)
  | kindMismatch (tag : Tag) (parameter : String) (kind : SourceKind)
      (parameterKind : ParameterKind)
  | notConvertible (tag : Tag) (parameter : String)

def DescriptionError.message : DescriptionError → String
  | invalidLocation location => s!"Invalid location: {location.describe}"
  | emptyModelId => "Model id must not be empty"
  | missingObservation tag => s!"No data sources for mandatory observation tag <{tag.name}>"
  | missingForecast tag =>
    s!"No data sources for forecast tag <{tag.name}> required by the run mode"
  | incompleteSource tag =>
    s!"Data source for {tag.describe} has an empty parameter or source id"
  | invalidFactor name value =>
    s!"Invalid {name} flux correction factor: {plainText value}"
  | invalidSunshadowMethod method => s!"Invalid sunshadow method {method}, expected 1 or 2"
  | unknownParameter tag parameter =>
    s!"Data source for {tag.describe} names unknown parameter '{parameter}'"
  | kindMismatch tag parameter kind parameterKind =>
    s!"Data source for {tag.describe} is a {kind.describe} source but '{parameter}' is " ++
      parameterKind.describe
  | notConvertible tag parameter => s!"'{parameter}' cannot feed METRo {tag.describe}"

namespace DescriptionConfig

/-- All sources with the inputs they are mapped to: observations before forecasts, each in the
order of their tags and then of their lists. -/
def taggedSources (c : DescriptionConfig) : List (Tag × DataSource) :=
  (c.observations.sources ObservationTag.all).map (fun (tag, s) ↦ (Tag.observation tag, s)) ++
    (c.forecasts.sources ForecastTag.all).map fun (tag, s) ↦ (Tag.forecast tag, s)

/-! ## Validation -/

/-- What is wrong with a source mapped to an input. -/
def sourceFault? (tag : Tag) (s : DataSource) : Option DescriptionError :=
  if s.parameter.isEmpty || s.sourceId.isEmpty then some (.incompleteSource tag)
  else if !s.location.isValid then some (.invalidLocation s.location)
  else none

/-- What is wrong with a factor. -/
def factorFault? (name : String) (value : Float) : Option DescriptionError :=
  if FluxCorrections.isFactor value then none else some (.invalidFactor name value)

/-- The first rule of validation that the configuration breaks. -/
def fault? (c : DescriptionConfig) : Option DescriptionError :=
  (if c.location.isValid then none else some (.invalidLocation c.location)) <|>
  (if Text.isBlank c.modelId then some .emptyModelId else none) <|>
  ((ObservationTag.all.find? (!c.observations.hasSource ·)).map .missingObservation) <|>
  ((c.runMode.requiredForecasts.find? (!c.forecasts.hasSource ·)).map .missingForecast) <|>
  (c.taggedSources.findSome? fun (tag, s) ↦ sourceFault? tag s) <|>
  (c.corrections.named.findSome? fun (name, value) ↦ factorFault? name value) <|>
  (if c.runMode.enableSunshadow && !(1 ≤ c.runMode.sunshadowMethod &&
      c.runMode.sunshadowMethod ≤ 2)
    then some (.invalidSunshadowMethod c.runMode.sunshadowMethod) else none)

end DescriptionConfig

/-- A configuration that breaks no rule of validation. -/
structure Description where
  config : DescriptionConfig
  valid : config.fault? = none

/-- What identifies a description in a store: at most one is kept for a key. -/
structure DescriptionKey where
  location : String
  modelId : String
  deriving DecidableEq, Repr

namespace Description

/-- The description of a configuration, or the first rule that it breaks. -/
def ofConfig (c : DescriptionConfig) : Except DescriptionError Description :=
  match h : c.fault? with
  | none => .ok ⟨c, h⟩
  | some fault => .error fault

def location (d : Description) : Location := d.config.location

def modelId (d : Description) : String := d.config.modelId

def key (d : Description) : DescriptionKey := ⟨d.location.key, d.modelId⟩

/-- The candidates for an input. -/
def sources? (d : Description) : Tag → Option (List DataSource)
  | .observation tag => d.config.observations tag
  | .forecast tag => d.config.forecasts tag

/-- The forecasts that the run needs. -/
def requiredForecasts (d : Description) : List ForecastTag := d.config.runMode.requiredForecasts

/-! ## Checking against a catalog -/

/-- The kind of parameter that a kind of source provides. -/
def expectedKind : SourceKind → ParameterKind
  | .measurement => .measured
  | .forecast => .forecasted

/-- What is wrong with a source mapped to an input, as far as a catalog knows: its parameter is
unknown, of the other kind, or cannot feed the input. -/
def mismatch? (catalog : Catalog) (tag : Tag) (s : DataSource) : Option DescriptionError :=
  match catalog.get? s.parameter with
  | none => some (.unknownParameter tag s.parameter)
  | some p =>
    if p.kind ≠ expectedKind s.kind then
      some (.kindMismatch tag s.parameter s.kind p.kind)
    else if !p.canFeed tag then some (.notConvertible tag s.parameter)
    else none

/-- Checks every source against a catalog and reports the first that does not fit. -/
def checkSources (d : Description) (catalog : Catalog) : Except DescriptionError Unit :=
  match d.config.taggedSources.findSome? fun (tag, s) ↦ mismatch? catalog tag s with
  | some e => .error e
  | none => .ok ()

theorem config_of_ofConfig {c : DescriptionConfig} {d : Description} (h : ofConfig c = .ok d) :
    d.config = c := by
  unfold ofConfig at h
  split at h
  · cases h; rfl
  · cases h

theorem ofConfig_config (d : Description) : ofConfig d.config = .ok d := by
  unfold ofConfig
  split
  · rfl
  · next fault h => cases d.valid.symm.trans h

end Description

end RoadWeather
