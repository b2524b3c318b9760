import RoadWeather.Catalog.Standard
import RoadWeather.Proofs.Turns

/-!
# Inputs agree with single resolutions

The inputs of a run say of every input that the run needs what its resolution by itself says, and
they say nothing of any other input. `RunInputs.Agrees` is this relation. It is one between inputs
and resolutions, with no order in it, so it can hold of inputs that were resolved in any order.

## What agreement says

Each input that is needed stands in one of two lists, with its value or with the reason why it is
missing, and it stands there once. No other input is in any of them. A value is that of the
resolution, save for a flux that is forecasted: that one is multiplied by its own factor
(`ResolvedValue.Corrects`). There is one way to correct a forecast, so agreement determines the
value (`RunInputs.eq_corrected_iff`).

## The argument

It takes two steps. Inputs collected from the results of single resolutions agree with them
(`RunInputs.collect_agrees`), which is a fact about lists of results. And interleaved searches hand
over the results of single resolutions, tag by tag (`Searches.settled?_run`), so what is collected
from them is the same whatever the turns were. The second step needs a store that stays as it is.
While the store changes, a search need not come to what any one resolution comes to.

The queries follow the same pattern: those made for an input are those of its own search, and none
is made for an input that is not needed.
-/

namespace RoadWeather

/-! ## Corrections -/

/-- A forecast after its correction: a flux is multiplied by its own factor, and nothing else is
changed. -/
structure ResolvedValue.Corrects (c : FluxCorrections) (tag : ForecastTag)
    (v w : ResolvedValue) : Prop where
  timestamp : w.timestamp = v.timestamp
  source : w.source = v.source
  priority : w.priority = v.priority
  solar : tag = .solarFlux → w.value = v.value * c.solar
  infrared : tag = .infraredFlux → w.value = v.value * c.infrared
  anthropogenic : tag = .anthropogenicFlux → w.value = v.value * c.anthropogenic
  other : tag ≠ .solarFlux → tag ≠ .infraredFlux → tag ≠ .anthropogenicFlux → w.value = v.value

namespace RunInputs

variable {r : Resolver} {d : Description}

theorem corrects_corrected (d : Description) (tag : ForecastTag) (v : ResolvedValue) :
    v.Corrects d.config.corrections tag (corrected d tag v) where
  timestamp := rfl
  source := rfl
  priority := rfl
  solar h := by rw [h]; rfl
  infrared h := by rw [h]; rfl
  anthropogenic h := by rw [h]; rfl
  other hsolar hinfrared hanthropogenic := by
    cases tag <;> first | rfl | contradiction

theorem eq_corrected_iff {tag : ForecastTag} {v w : ResolvedValue} :
    w = corrected d tag v ↔ v.Corrects d.config.corrections tag w := by
  constructor
  · rintro rfl
    exact corrects_corrected d tag v
  · intro h
    have hvalue : w.value = d.config.corrections.apply tag v.value := by
      cases tag with
      | solarFlux => exact h.solar rfl
      | infraredFlux => exact h.infrared rfl
      | anthropogenicFlux => exact h.anthropogenic rfl
      | _ => exact h.other (by decide) (by decide) (by decide)
    obtain ⟨value, timestamp, source, priority⟩ := w
    obtain ⟨htimestamp, hsource, hpriority, -⟩ := h
    dsimp only at htimestamp hsource hpriority hvalue
    rw [corrected, htimestamp, hsource, hpriority, hvalue]

/-! ## Collecting results

The results of the searches are sorted into two lists by whether they are values. A tag stands in
one of the two, and in the place that its result had. -/

section Results

variable {τ : Type} {results : List (τ × Resolution.Result)} {tags : List τ} {tag : τ}
  {result : τ → Resolution.Result}

@[simp] theorem mem_resolved {v : ResolvedValue} :
    (tag, v) ∈ resolved results ↔ (tag, .ok v) ∈ results := by
  rw [resolved, List.mem_filterMap]
  constructor
  · rintro ⟨⟨tag', result | w⟩, hmem, heq⟩
    · cases heq
    · obtain ⟨rfl, rfl⟩ := Prod.mk.inj (Option.some.inj heq)
      exact hmem
  · exact fun hmem ↦ ⟨_, hmem, rfl⟩

@[simp] theorem mem_missing {e : ResolutionError} :
    (tag, e) ∈ missing results ↔ (tag, .error e) ∈ results := by
  rw [missing, List.mem_filterMap]
  constructor
  · rintro ⟨⟨tag', error | w⟩, hmem, heq⟩
    · obtain ⟨rfl, rfl⟩ := Prod.mk.inj (Option.some.inj heq)
      exact hmem
    · cases heq
  · exact fun hmem ↦ ⟨_, hmem, rfl⟩

theorem mem_map_result {x : Resolution.Result} :
    (tag, x) ∈ tags.map (fun tag ↦ (tag, result tag)) ↔ tag ∈ tags ∧ result tag = x := by
  rw [List.mem_map]
  constructor
  · rintro ⟨tag', htag', heq⟩
    obtain ⟨rfl, rfl⟩ := Prod.mk.inj heq
    exact ⟨htag', rfl⟩
  · rintro ⟨htag, rfl⟩
    exact ⟨tag, htag, rfl⟩

theorem mem_resolved_map {v : ResolvedValue} :
    (tag, v) ∈ resolved (tags.map fun tag ↦ (tag, result tag)) ↔
      tag ∈ tags ∧ result tag = .ok v :=
  mem_resolved.trans mem_map_result

theorem mem_missing_map {e : ResolutionError} :
    (tag, e) ∈ missing (tags.map fun tag ↦ (tag, result tag)) ↔
      tag ∈ tags ∧ result tag = .error e :=
  mem_missing.trans mem_map_result

theorem tags_perm (results : List (τ × Resolution.Result)) :
    ((resolved results).map Prod.fst ++ (missing results).map Prod.fst).Perm
      (results.map Prod.fst) := by
  induction results with
  | nil => exact .nil
  | cons entry rest ih =>
    obtain ⟨tag, result | v⟩ := entry
    · exact List.perm_middle.trans (ih.cons tag)
    · exact ih.cons tag

theorem missing_map_isEmpty_iff :
    (missing (tags.map fun tag ↦ (tag, result tag))).isEmpty ↔
      ∀ tag ∈ tags, ∃ v, result tag = .ok v := by
  rw [List.isEmpty_iff, List.eq_nil_iff_forall_not_mem]
  constructor
  · intro h tag htag
    cases hresult : result tag with
    | ok v => exact ⟨v, rfl⟩
    | error e => exact absurd (mem_missing_map.mpr ⟨htag, hresult⟩) (h (tag, e))
  · rintro h ⟨tag, e⟩ hmem
    obtain ⟨htag, herror⟩ := mem_missing_map.mp hmem
    obtain ⟨v, hok⟩ := h tag htag
    rw [herror] at hok
    cases hok

end Results

/-! ## Agreement -/

/-- Inputs that say of every input the run needs what its resolution by itself comes to, and nothing
of any other. -/
structure Agrees (r : Resolver) (d : Description) (i : RunInputs) : Prop where
  location : i.location = d.location
  modelId : i.modelId = d.modelId
  /-- Every observation is there or missing, and is so once. -/
  observationTags :
    (i.observations.map Prod.fst ++ i.missingObservations.map Prod.fst).Perm ObservationTag.all
  observation : ∀ tag v, (tag, v) ∈ i.observations ↔
    (r.resolve d (.observation tag)).result = .ok v
  missingObservation : ∀ tag e, (tag, e) ∈ i.missingObservations ↔
    (r.resolve d (.observation tag)).result = .error e
  /-- Every forecast that the run mode requires is there or missing, and is so once. -/
  forecastTags : (i.forecasts.map Prod.fst ++ i.missingForecasts.map Prod.fst).Perm
    (ForecastTag.all.filter d.config.runMode.requires)
  forecast : ∀ tag w, (tag, w) ∈ i.forecasts ↔
    d.config.runMode.requires tag = true ∧ ∃ v, (r.resolve d (.forecast tag)).result = .ok v ∧
      v.Corrects d.config.corrections tag w
  missingForecast : ∀ tag e, (tag, e) ∈ i.missingForecasts ↔
    d.config.runMode.requires tag = true ∧ (r.resolve d (.forecast tag)).result = .error e
  complete : i.isComplete = true ↔
    (∀ tag, ∃ v, (r.resolve d (.observation tag)).result = .ok v) ∧
      ∀ tag, d.config.runMode.requires tag = true →
        ∃ v, (r.resolve d (.forecast tag)).result = .ok v

/-- Inputs collected from the results of single resolutions agree with them. -/
theorem collect_agrees (r : Resolver) (d : Description) :
    (collect d (ObservationTag.all.map fun tag ↦ (tag, (r.resolve d (.observation tag)).result))
      (d.requiredForecasts.map fun tag ↦ (tag, (r.resolve d (.forecast tag)).result))).Agrees
      r d where
  location := rfl
  modelId := rfl
  observationTags := by
    refine (tags_perm _).trans (.of_eq ?_)
    rw [List.map_map]
    exact List.map_id _
  observation tag v := mem_resolved_map.trans (and_iff_right tag.mem_all)
  missingObservation tag e := mem_missing_map.trans (and_iff_right tag.mem_all)
  forecastTags := by
    rw [collect, List.map_map]
    refine (tags_perm _).trans (.of_eq ?_)
    rw [List.map_map]
    exact List.map_id _
  forecast tag w := by
    rw [collect, List.mem_map, ← RunMode.mem_requiredForecasts]
    constructor
    · rintro ⟨⟨tag', v⟩, hmem, heq⟩
      obtain ⟨rfl, rfl⟩ := Prod.mk.inj heq
      obtain ⟨htag, hresult⟩ := mem_resolved_map.mp hmem
      exact ⟨htag, v, hresult, corrects_corrected d tag' v⟩
    · rintro ⟨htag, v, hresult, hcorrects⟩
      exact ⟨(tag, v), mem_resolved_map.mpr ⟨htag, hresult⟩,
        Prod.ext rfl (eq_corrected_iff.mpr hcorrects).symm⟩
  missingForecast tag e := by
    rw [← RunMode.mem_requiredForecasts]
    exact mem_missing_map
  complete := by
    rw [isComplete, Bool.and_eq_true, collect]
    refine and_congr (missing_map_isEmpty_iff.trans ?_) (missing_map_isEmpty_iff.trans ?_)
    · exact ⟨fun h tag ↦ h tag tag.mem_all, fun h tag _ ↦ h tag⟩
    · exact forall_congr' fun tag ↦ imp_congr RunMode.mem_requiredForecasts Iff.rfl

/-- **The inputs of a run agree with single resolutions.** -/
theorem assemble_agrees (r : Resolver) (d : Description) : (r.assemble d).inputs.Agrees r d := by
  have h := collect_agrees r d
  rw [Resolver.assemble, List.map_map, List.map_map]
  exact h

end RunInputs

/-! ## Results of interleaved searches

Searches settle only once all of them have ended. So the list of what they have come to has every
tag in it, in the order in which they were asked for and not in the one in which they ended. -/

namespace Searches

variable {τ : Type} {searches : Searches} {input : τ → Tag} {tags : List τ}
  {results : List (τ × Resolution.Result)}

theorem of_settled?_eq_some (h : searches.settled? input tags = some results) :
    results.map Prod.fst = tags ∧
      ∀ entry ∈ results, searches.result? (input entry.1) = some entry.2 := by
  induction tags generalizing results with
  | nil =>
    cases h
    exact ⟨rfl, fun _ hentry ↦ absurd hentry List.not_mem_nil⟩
  | cons tag rest ih =>
    simp only [settled?, List.mapM_cons, Option.bind_eq_bind, Option.bind_eq_some_iff,
      Option.map_eq_some_iff, Option.pure_def, Option.some.injEq] at h
    obtain ⟨_, ⟨result, hresult, rfl⟩, others, hothers, rfl⟩ := h
    obtain ⟨htags, hentries⟩ := ih hothers
    refine ⟨by rw [List.map_cons, htags], fun entry hentry ↦ ?_⟩
    rcases List.mem_cons.mp hentry with rfl | hrest
    · exact hresult
    · exact hentries entry hrest

theorem isSome_settled? (h : ∀ tag ∈ tags, (searches.result? (input tag)).isSome) :
    (searches.settled? input tags).isSome := by
  induction tags with
  | nil => rfl
  | cons tag rest ih =>
    obtain ⟨result, hresult⟩ := Option.isSome_iff_exists.mp (h tag List.mem_cons_self)
    obtain ⟨others, hothers⟩ := Option.isSome_iff_exists.mp
      (ih fun tag htag ↦ h tag (List.mem_cons_of_mem _ htag))
    rw [settled?] at hothers
    simp [settled?, List.mapM_cons, hresult, hothers]

variable {r : Resolver} {d : Description} {turns : List Turn}

/-- Interleaved searches settle on the results of single resolutions, and have made their queries,
as long as the store stays as it is. -/
theorem settled?_run (steady : ∀ t ∈ turns, t.values = r.values)
    (h : ((start d (tags.map input)).run r turns).settled? input tags = some results) :
    results = tags.map (fun tag ↦ (tag, (r.resolve d (input tag)).result)) ∧
      ∀ tag ∈ tags, ((start d (tags.map input)).run r turns).queriesFor (input tag)
        = (r.resolve d (input tag)).queries := by
  obtain ⟨rfl, hentries⟩ := of_settled?_eq_some h
  -- Each result is that of its own search, whose turns are all that matters to it.
  have hsingle : ∀ entry ∈ results,
      entry.2 = (r.resolve d (input entry.1)).result ∧
        ((start d ((results.map Prod.fst).map input)).run r turns).queriesFor (input entry.1)
          = (r.resolve d (input entry.1)).queries :=
    fun entry hentry ↦ eq_of_result?_run steady
      (List.mem_map_of_mem (List.mem_map_of_mem hentry)) (hentries entry hentry)
  constructor
  · rw [List.map_map]
    refine (List.map_id results).symm.trans (List.map_congr_left fun entry hentry ↦ ?_)
    exact Prod.ext rfl (hsingle entry hentry).1
  · intro tag htag
    obtain ⟨entry, hentry, rfl⟩ := List.mem_map.mp htag
    exact (hsingle entry hentry).2

end Searches

/-! ## Inputs resolved in any order -/

/-- The inputs that the run of a description needs. -/
def Description.Needs (d : Description) : Tag → Prop
  | .observation _ => True
  | .forecast tag => d.config.runMode.requires tag = true

namespace Resolver

variable {r : Resolver} {d : Description} {observing forecasting : List Turn} {i : RunInputs}
  {trace : List (Tag × Query)}

theorem assembleInTurns_eq_some_iff :
    r.assembleInTurns d observing forecasting = some (i, trace) ↔
      ∃ observations forecasts,
        (r.observationSearches d observing).settled? .observation ObservationTag.all
          = some observations ∧
        (r.forecastSearches d forecasting).settled? .forecast d.requiredForecasts
          = some forecasts ∧
        i = .collect d observations forecasts ∧
        trace = (r.observationSearches d observing).queries ++
          (r.forecastSearches d forecasting).queries := by
  simp only [assembleInTurns, Option.bind_eq_bind, Option.bind_eq_some_iff, Option.pure_def,
    Option.some.injEq, Prod.mk.injEq]
  grind

theorem isSome_assembleInTurns
    (hobserving : Searches.Suffice d (ObservationTag.all.map .observation) observing)
    (hforecasting : Searches.Suffice d (d.requiredForecasts.map .forecast) forecasting) :
    (r.assembleInTurns d observing forecasting).isSome := by
  have hobserved := Searches.isSome_settled? fun tag htag ↦
    Searches.isSome_result?_run r (List.mem_map_of_mem htag) hobserving
  have hforecasted := Searches.isSome_settled? fun tag htag ↦
    Searches.isSome_result?_run r (List.mem_map_of_mem htag) hforecasting
  obtain ⟨observations, hobservations⟩ := Option.isSome_iff_exists.mp hobserved
  obtain ⟨forecasts, hforecasts⟩ := Option.isSome_iff_exists.mp hforecasted
  exact Option.isSome_iff_exists.mpr ⟨_, assembleInTurns_eq_some_iff.mpr
    ⟨observations, forecasts, hobservations, hforecasts, rfl, rfl⟩⟩

theorem queriesIn_append (observed forecasted : Searches) (tag : Tag) :
    Searches.queriesIn (observed.queries ++ forecasted.queries) tag
      = observed.queriesFor tag ++ forecasted.queriesFor tag := by
  rw [Searches.queriesIn, List.filter_append, List.map_append]
  rfl

/-- **Inputs do not depend on the order of their queries.** While the store stays as it is, any
turns that let the searches end lead to the inputs and, for each input, to the queries of single
resolutions, and enough turns do. What the run does not need is not asked for, mapped or not. -/
theorem assembleInTurns_agrees (r : Resolver) (d : Description) (observing forecasting : List Turn)
    (steady : ∀ t ∈ observing ++ forecasting, t.values = r.values) :
    (Searches.Suffice d (ObservationTag.all.map .observation) observing →
      Searches.Suffice d (d.requiredForecasts.map .forecast) forecasting →
      (r.assembleInTurns d observing forecasting).isSome) ∧
    ∀ i trace, r.assembleInTurns d observing forecasting = some (i, trace) →
      i = (r.assemble d).inputs ∧ i.Agrees r d ∧
      ∀ tag, (d.Needs tag → Searches.queriesIn trace tag = (r.resolve d tag).queries) ∧
        (¬ d.Needs tag → Searches.queriesIn trace tag = []) := by
  refine ⟨isSome_assembleInTurns, fun i trace h ↦ ?_⟩
  obtain ⟨observations, forecasts, hobservations, hforecasts, rfl, rfl⟩ :=
    assembleInTurns_eq_some_iff.mp h
  obtain ⟨rfl, hobserved⟩ := Searches.settled?_run
    (fun t ht ↦ steady t (List.mem_append_left _ ht)) hobservations
  obtain ⟨rfl, hforecasted⟩ := Searches.settled?_run
    (fun t ht ↦ steady t (List.mem_append_right _ ht)) hforecasts
  have hagrees := RunInputs.collect_agrees r d
  refine ⟨?_, hagrees, fun tag ↦ ?_⟩
  · rw [assemble, List.map_map, List.map_map]
    rfl
  -- No input is both an observation and a forecast, so one of the two parts of the trace is empty.
  rw [queriesIn_append]
  cases tag with
  | observation tag =>
    refine ⟨fun _ ↦ ?_, fun hneeds ↦ absurd trivial hneeds⟩
    have hnone : (r.forecastSearches d forecasting).queriesFor (.observation tag) = [] :=
      Searches.queriesFor_run_start_eq_nil r forecasting (by simp)
    rw [hnone, List.append_nil]
    exact hobserved tag tag.mem_all
  | forecast tag =>
    have hnone : (r.observationSearches d observing).queriesFor (.forecast tag) = [] :=
      Searches.queriesFor_run_start_eq_nil r observing (by simp)
    rw [hnone, List.nil_append]
    refine ⟨fun hneeds ↦ hforecasted tag (RunMode.mem_requiredForecasts.mpr hneeds),
      fun hneeds ↦ Searches.queriesFor_run_start_eq_nil r forecasting fun hmem ↦ hneeds ?_⟩
    obtain ⟨tag', htag', heq⟩ := List.mem_map.mp hmem
    obtain rfl := Tag.forecast.inj heq
    exact RunMode.mem_requiredForecasts.mp htag'

end Resolver

/-! ## A station

A roadside station with a spare thermometer and a forecast model. Its road model takes the solar
flux as forecasted, at half its value, and has no use for the infrared flux although it is mapped.
-/

namespace Station

def place : Location := ⟨47, 11, none⟩

def sensor (parameter sensorId : String) : DataSource :=
  ⟨.measurement, place, parameter, sensorId⟩

def forecast (parameter : String) : DataSource := ⟨.forecast, place, parameter, "model"⟩

def observations : Mapping ObservationTag
  | .airTemperature => some [sensor "Temperature in [deg C] @ 200cm above ground" "mast",
      sensor "Temperature in [deg C] @ 150cm above ground" "spare"]
  | .dewPoint => some [sensor "Dew point temperature in [deg C] @ 150cm above ground" "mast"]
  | .precipitationPresence => some [sensor "Precipitation presence indicator" "mast"]
  | .windSpeed => some [sensor "Wind speed in [m/s] @ 10m above ground" "mast"]
  | .roadCondition => some [sensor "Road condition code (sensor)" "road"]
  | .surfaceTemperature => some [sensor "Road surface temperature in [deg C]" "road"]
  | .subSurfaceTemperature =>
    some [sensor "Ground temperature in [deg C] @ 40cm below surface" "road"]

def forecasts : Mapping ForecastTag
  | .airTemperature => some [forecast "Forecasted temperature in [deg C] @ 2m above ground"]
  | .dewPoint =>
    some [forecast "Forecasted dew point temperature in [deg C] @ 2m above ground"]
  | .rainAccumulation => some [forecast "Forecasted rain accumulation in [mm] over 1h"]
  | .snowAccumulation => some [forecast "Forecasted snow accumulation in [cm] over 1h",
      forecast "Forecasted snow accumulation in [mm] over 1h"]
  | .windSpeed => some [forecast "Forecasted wind speed in [m/s] @ 10m above ground"]
  | .pressure => some [forecast "Forecasted air pressure in [Pa] @ ground level"]
  | .cloudCover => some [forecast "Forecasted total cloud cover in [octas]"]
  | .solarFlux => some [forecast "Forecasted downward shortwave radiation flux in [W/m2]"]
  | .infraredFlux => some [forecast "Forecasted downward longwave radiation flux in [W/m2]"]
  | .anthropogenicFlux => none

def config : DescriptionConfig where
  location := place
  modelId := "metro"
  observations := observations
  forecasts := forecasts
  corrections := { solar := 0.5 }
  runMode := { useSolarFluxForecast := true }

def description : Description := ⟨config, by decide +kernel⟩

def noon : Timestamp := ⟨⟨2024, 1, 15, 12, 0, 0, 0, 3600⟩, by decide⟩

/-- The mast is down, the road sensors measure, and the model has everything but the snow. -/
def values : ValueStore
  | .latestMeasurement _ sensorId _ =>
    if sensorId = "mast" then ⟨0, .error "mast is down"⟩ else ⟨5, .ok (some ⟨noon, 2⟩)⟩
  | .latestForecast parameter _ _ =>
    if parameter.endsWith "over 1h" then ⟨5, .ok none⟩ else ⟨5, .ok (some ⟨noon, 8⟩)⟩

def resolver : Resolver where
  catalog := .standard
  values := values
  descriptions _ _ := .ok (some description)
  timeout := some 1000

/-- Three rounds of turns of some inputs. -/
def rounds (tags : List Tag) : List Turn :=
  (tags ++ tags.reverse ++ tags).map fun tag ↦ ⟨tag, values⟩

end Station

/-- The searches of the station end in three rounds of turns, and its inputs agree with single
resolutions. -/
theorem Station.assembleInTurns_agrees_rounds :
    ∃ i trace, resolver.assembleInTurns description
        (rounds (ObservationTag.all.map .observation))
        (rounds (description.requiredForecasts.map .forecast)) = some (i, trace) ∧
      i = (resolver.assemble description).inputs ∧ i.Agrees resolver description := by
  have hsteady : ∀ tags, ∀ t ∈ rounds tags, t.values = resolver.values := by
    intro tags t ht
    obtain ⟨tag, -, rfl⟩ := List.mem_map.mp ht
    rfl
  have hagrees := Resolver.assembleInTurns_agrees resolver description
    (rounds (ObservationTag.all.map .observation))
    (rounds (description.requiredForecasts.map .forecast))
    fun t ht ↦ (List.mem_append.mp ht).elim (hsteady _ t) (hsteady _ t)
  have hsome := hagrees.1 (by unfold Searches.Suffice; decide) (by unfold Searches.Suffice; decide)
  obtain ⟨⟨i, trace⟩, h⟩ := Option.isSome_iff_exists.mp hsome
  exact ⟨i, trace, h, (hagrees.2 i trace h).1, (hagrees.2 i trace h).2.1⟩

end RoadWeather
