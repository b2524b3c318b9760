import RoadWeather.Document.Snapshot
import RoadWeather.Resolution

/-!
# Inputs of a run

All inputs that a run for one location needs. They do not depend on each other, so they are
resolved at the same time: first all observations, then all forecasts that the run mode requires.
The results are those of resolving each input by itself; only the lines of the log interleave.

An input that is missing is no failure of the whole. It is kept with its reason, and whoever wanted
to start the run decides.
-/

namespace RoadWeather

/-- The inputs of a run, and those that are missing, in the order of their tags. -/
structure RunInputs where
  location : Location
  modelId : String
  observations : List (ObservationTag × ResolvedValue)
  forecasts : List (ForecastTag × ResolvedValue)
  missingObservations : List (ObservationTag × ResolutionError)
  missingForecasts : List (ForecastTag × ResolutionError)

/-- The inputs of a run with the queries made for them and the lines logged. -/
structure Assembly where
  inputs : RunInputs
  queries : List Query
  log : List LogLine

namespace RunInputs

/-- Whether nothing is missing. -/
def isComplete (i : RunInputs) : Bool :=
  i.missingObservations.isEmpty && i.missingForecasts.isEmpty

section Results

variable {τ : Type}

def resolved (results : List (τ × Resolution.Result)) : List (τ × ResolvedValue) :=
  results.filterMap fun (tag, result) ↦
    match result with
    | .ok v => some (tag, v)
    | .error _ => none

def missing (results : List (τ × Resolution.Result)) : List (τ × ResolutionError) :=
  results.filterMap fun (tag, result) ↦
    match result with
    | .ok _ => none
    | .error e => some (tag, e)

end Results

/-- A resolved forecast after the correction of its flux. -/
def corrected (d : Description) (tag : ForecastTag) (v : ResolvedValue) : ResolvedValue :=
  { v with value := d.config.corrections.apply tag v.value }

/-- The inputs of the run of a description, from the results for all of them. -/
def collect (d : Description) (observations : List (ObservationTag × Resolution.Result))
    (forecasts : List (ForecastTag × Resolution.Result)) : RunInputs where
  location := d.location
  modelId := d.modelId
  observations := resolved observations
  forecasts := (resolved forecasts).map fun (tag, v) ↦ (tag, corrected d tag v)
  missingObservations := missing observations
  missingForecasts := missing forecasts

end RunInputs

namespace Resolver

def incompleteLine (i : RunInputs) : LogLine :=
  ⟨.warn, s!"{i.location.describe} / {i.modelId}: {i.missingObservations.length} observation " ++
    s!"and {i.missingForecasts.length} forecast inputs missing"⟩

/-- The lines of all observations, then those of all forecasts. To look the description up was the
first step. -/
def assemblyLog (observations : List (ObservationTag × Resolution))
    (forecasts : List (ForecastTag × Resolution)) : List LogLine :=
  let (earlier, left) :=
    Interleaving.run (Interleaving.stepsPerRound - 1) (observations.map (·.2.log))
  earlier ++ (Interleaving.run left (forecasts.map (·.2.log))).1

/-- Resolves all inputs that the run of a description needs. -/
def assemble (r : Resolver) (d : Description) : Assembly :=
  let observations := ObservationTag.all.map fun tag ↦ (tag, r.resolve d (.observation tag))
  let forecasts := d.requiredForecasts.map fun tag ↦ (tag, r.resolve d (.forecast tag))
  let inputs := RunInputs.collect d (observations.map fun (tag, r) ↦ (tag, r.result))
    (forecasts.map fun (tag, r) ↦ (tag, r.result))
  { inputs
    queries := observations.flatMap (·.2.queries) ++ forecasts.flatMap (·.2.queries)
    log := assemblyLog observations forecasts ++
      if inputs.isComplete then [] else [incompleteLine inputs] }

/-- Looks a description up and resolves all inputs that its run needs. -/
def assembleAt (r : Resolver) (location : Location) (modelId : String) :
    Except ResolutionError Assembly :=
  (r.description location modelId).map r.assemble

end Resolver

/-! ## Inputs in documents

A missing input has the message of its reason. -/

/-- The form of a resolved input. -/
def ResolvedValue.toJson (v : ResolvedValue) : Json :=
  .object [("value", .double v.value), ("timestamp", v.timestamp.toJson),
    ("source", v.source.toJson), ("priority", .natural v.priority)]

/-- The form of the inputs of a run. -/
def RunInputs.toJson (i : RunInputs) : Json :=
  .object [("location", i.location.toJson), ("model_id", .string i.modelId),
    ("observations", .object (i.observations.map fun (tag, v) ↦ (tag.name, v.toJson))),
    ("forecasts", .object (i.forecasts.map fun (tag, v) ↦ (tag.name, v.toJson))),
    ("missing_observations",
      .object (i.missingObservations.map fun (tag, e) ↦ (tag.name, .string e.message))),
    ("missing_forecasts",
      .object (i.missingForecasts.map fun (tag, e) ↦ (tag.name, .string e.message)))]

/-- The timestamps in the form of the inputs of a run, in their order. -/
def RunInputs.timestamps (i : RunInputs) : List Timestamp :=
  i.observations.map (·.2.timestamp) ++ i.forecasts.map (·.2.timestamp)

/-- The indented text of the inputs of some runs, one entry a run. -/
def RunInputs.listToIndentedText (runs : List RunInputs) : Except Timestamp.WriteError String :=
  Timestamp.writing (runs.flatMap timestamps) (Json.array (runs.map toJson)).toIndentedText

end RoadWeather
