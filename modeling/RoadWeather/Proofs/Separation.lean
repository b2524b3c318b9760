import Mathlib.Data.List.Forall2
import RoadWeather.Proofs.CheckedSources

/-!
# Measurements and forecasts stay apart

The observations of a run depend on nothing but measurements, and its forecast inputs on nothing but
forecasts.

## What sees to it

Neither the search nor the audit of a catalog does. A source is asked what its own kind says,
whatever input it is mapped to, and a catalog may let a measured parameter feed a forecast input. It
is the check of a description that ties the kind of a source to that of its parameter
(`Description.kind_of_checkSources`), and the standard catalog in which every parameter feeds inputs
of its own kind only (`Catalog.separates_standard`). So all sources of an input are of one kind.

## Two runs

That something does not depend on something else is a statement about two runs. Two stores that a
search cannot tell apart as far as one kind of sources is concerned (`ValueStore.AlikeOn`) lead a
search among such sources through the same turns (`Search.turns_eq_of_alike`). They give the same
answers, and both are in time or both late. How long they take is not compared beyond that, and what
they say to queries of the other kind is not looked at.

For interleaved searches the turns of the two runs need not fall alike either. Each input of the
kind must have as many turns in both, with stores that are alike one by one (`Turn.AlikeOn`).
-/

namespace RoadWeather

/-! ## Kinds -/

/-- The kind of the sources that an input has to do with. -/
def Tag.sourceKind : Tag → SourceKind
  | .observation _ => .measurement
  | .forecast _ => .forecast

/-- The kind of the sources that are asked a question. -/
def Query.sourceKind : Query → SourceKind
  | .latestMeasurement .. => .measurement
  | .latestForecast .. => .forecast

theorem DataSource.sourceKind_query (s : DataSource) : s.query.sourceKind = s.kind := by
  rw [query]
  cases s.kind <;> rfl

theorem Description.expectedKind_injective {kind kind' : SourceKind}
    (h : expectedKind kind = expectedKind kind') : kind = kind' := by
  cases kind <;> cases kind' <;> first | rfl | cases h

/-- Every parameter of the catalog feeds inputs of its own kind only. -/
def Catalog.Separates (c : Catalog) : Prop :=
  ∀ p ∈ c.parameters, ∀ tag ∈ p.feeds, p.kind = Description.expectedKind tag.sourceKind

theorem Catalog.separates_standard : standard.Separates := by
  unfold Separates
  decide +kernel

theorem Description.kind_of_checkSources {d : Description} {catalog : Catalog} {tag : Tag}
    {sources : List DataSource} {s : DataSource} (separates : catalog.Separates)
    (checked : d.checkSources catalog = .ok ()) (hsources : d.sources? tag = some sources)
    (hs : s ∈ sources) : s.kind = tag.sourceKind := by
  obtain ⟨p, hknown, hkind, hfeed⟩ :=
    canFeed_of_mismatch?_eq_none (mismatch?_of_checkSources checked hsources hs)
  have hmem : tag ∈ p.feeds := List.contains_iff_mem.mp hfeed
  exact expectedKind_injective
    (hkind.symm.trans (separates p (Catalog.mem_of_get? hknown) tag hmem))

/-! ## Stores that cannot be told apart -/

/-- Replies with the same answer that are both in time, or both late, where there is a limit. -/
structure Reply.Alike (limit : Option Nat) (a b : Reply) : Prop where
  answer : a.answer = b.answer
  inTime : ∀ l, limit = some l → (a.delay ≤ l ↔ b.delay ≤ l)

/-- Two stores that reply alike to all sources of a kind. What they reply to others is not looked
at. -/
def ValueStore.AlikeOn (limit : Option Nat) (kind : SourceKind) (v w : ValueStore) : Prop :=
  ∀ q : Query, q.sourceKind = kind → (v q).Alike limit (w q)

namespace Resolver

variable {r : Resolver} {tag : Tag} {s : DataSource} {v w : ValueStore}

theorem fetch_eq_of_alike (h : v.AlikeOn r.timeout s.kind w) :
    { r with values := v }.fetch s = { r with values := w }.fetch s := by
  obtain ⟨hanswer, hinTime⟩ := h s.query s.sourceKind_query
  rw [fetch, fetch]
  dsimp only
  rw [hanswer]
  cases hlimit : r.timeout with
  | none => rfl
  | some limit =>
    have hlate := not_congr (hinTime limit hlimit)
    simp only [Nat.not_le] at hlate
    simp only [hlate]

theorem outcome_eq_of_alike (h : v.AlikeOn r.timeout s.kind w) :
    { r with values := v }.outcome tag s = { r with values := w }.outcome tag s := by
  rw [outcome, outcome, fetch_eq_of_alike h]

end Resolver

/-! ## Searches among sources of one kind

A search for an input of a checked description has sources of one kind only, and stays among them.
The two stores are compared turn by turn, since each turn has its own. -/

namespace Search

variable {r : Resolver} {tag : Tag} {kind : SourceKind} {search : Search} {v w : ValueStore}

/-- A search that has only sources of one kind left to try. -/
def IsAmong (kind : SourceKind) : Search → Prop
  | trying _ rest => ∀ s ∈ rest, s.kind = kind
  | ended _ => True

theorem IsAmong.turn (h : search.IsAmong kind) (r : Resolver) (tag : Tag) :
    (search.turn r tag).1.IsAmong kind := by
  cases search with
  | ended result => trivial
  | trying skipped rest =>
    cases rest with
    | nil => trivial
    | cons s rest =>
      rw [Search.turn]
      cases r.outcome tag s with
      | usable timed value => trivial
      | misconfigured e => trivial
      | skipped failure => exact fun s' hs' ↦ h s' (List.mem_cons_of_mem s hs')

/-- **A turn is the same with both stores**, and makes the same queries. -/
theorem turn_eq_of_alike (among : search.IsAmong kind) (h : v.AlikeOn r.timeout kind w) :
    search.turn { r with values := v } tag = search.turn { r with values := w } tag := by
  cases search with
  | ended result => rfl
  | trying skipped rest =>
    cases rest with
    | nil => rfl
    | cons s rest =>
      have hkind : s.kind = kind := among s List.mem_cons_self
      rw [Search.turn, Search.turn, Resolver.outcome_eq_of_alike (hkind ▸ h)]
      rfl

theorem turns_eq_of_alike {stores stores' : List ValueStore} (among : search.IsAmong kind)
    (h : List.Forall₂ (ValueStore.AlikeOn r.timeout kind) stores stores') :
    search.turns r tag stores = search.turns r tag stores' := by
  induction h generalizing search with
  | nil => rfl
  | cons halike _ ih =>
    simp [turn_eq_of_alike among halike, ih (among.turn _ tag)]

/-- Every turn has a store of its own, so that of the resolver is not asked. -/
theorem turns_values (r : Resolver) (v : ValueStore) (tag : Tag) (stores : List ValueStore)
    (search : Search) :
    search.turns { r with values := v } tag stores = search.turns r tag stores := by
  induction stores generalizing search with
  | nil => rfl
  | cons first later ih => simp [ih]

theorem isAmong_start {d : Description} (separates : r.catalog.Separates)
    (checked : d.checkSources r.catalog = .ok ()) (tag : Tag) :
    (start tag (d.sources? tag)).IsAmong tag.sourceKind := by
  cases hsources : d.sources? tag with
  | none => trivial
  | some sources =>
    exact fun s hs ↦ Description.kind_of_checkSources separates checked hsources hs

end Search

/-- Turns in which every input of a kind has as many, with stores that are alike one by one. How
the turns of different inputs interleave, and what other inputs do, makes no difference. -/
def Turn.AlikeOn (limit : Option Nat) (kind : SourceKind) (turns turns' : List Turn) : Prop :=
  ∀ tag : Tag, tag.sourceKind = kind →
    List.Forall₂ (ValueStore.AlikeOn limit kind) (Searches.storesOf tag turns)
      (Searches.storesOf tag turns')

namespace Searches

variable {r : Resolver} {d : Description} {kind : SourceKind} {turns turns' : List Turn}

theorem settled?_congr {τ : Type} {searches searches' : Searches} {input : τ → Tag}
    {tags : List τ}
    (h : ∀ tag ∈ tags, searches.result? (input tag) = searches'.result? (input tag)) :
    searches.settled? input tags = searches'.settled? input tags := by
  induction tags with
  | nil => rfl
  | cons tag rest ih =>
    rw [settled?, settled?] at ih
    rw [settled?, settled?, List.mapM_cons, List.mapM_cons, h tag List.mem_cons_self,
      ih fun tag' htag' ↦ h tag' (List.mem_cons_of_mem tag htag')]

/-- Searches for inputs of a kind settle on the same with turns that are alike. -/
theorem settled?_run_eq_of_alike {τ : Type} (input : τ → Tag) (tags : List τ)
    (separates : r.catalog.Separates) (checked : d.checkSources r.catalog = .ok ())
    (hkind : ∀ tag : τ, (input tag).sourceKind = kind)
    (h : Turn.AlikeOn r.timeout kind turns turns') :
    ((start d (tags.map input)).run r turns).settled? input tags
      = ((start d (tags.map input)).run r turns').settled? input tags := by
  refine settled?_congr fun tag htag ↦ ?_
  have hmem : input tag ∈ tags.map input := List.mem_map_of_mem htag
  have hsearch := Search.isAmong_start separates checked (input tag)
  rw [hkind] at hsearch
  rw [(result?_run_start r turns hmem).1, (result?_run_start r turns' hmem).1,
    Search.turns_eq_of_alike hsearch (h (input tag) (hkind tag))]

end Searches

/-! ## Inputs of one kind -/

/-- The same observations, resolved and missing, or the same forecast inputs. -/
def RunInputs.SameFor : SourceKind → RunInputs → RunInputs → Prop
  | .measurement, i, j =>
    i.observations = j.observations ∧ i.missingObservations = j.missingObservations
  | .forecast, i, j => i.forecasts = j.forecasts ∧ i.missingForecasts = j.missingForecasts

namespace Resolver

variable {r : Resolver} {d : Description} {kind : SourceKind}

theorem result_resolve_eq_of_alike {v w : ValueStore} {tag : Tag}
    (separates : r.catalog.Separates) (checked : d.checkSources r.catalog = .ok ())
    (h : v.AlikeOn r.timeout tag.sourceKind w) :
    ({ r with values := v }.resolve d tag).result
      = ({ r with values := w }.resolve d tag).result := by
  -- A resolution is what enough turns come to while the store stays as it is.
  let search := Search.start tag (d.sources? tag)
  have hstores : List.Forall₂ (ValueStore.AlikeOn r.timeout tag.sourceKind)
      (List.replicate search.turnsLeft v) (List.replicate search.turnsLeft w) := by
    generalize search.turnsLeft = n
    induction n with
    | zero => exact .nil
    | succ n ih => exact .cons h ih
  have hturns : search.turns r tag (List.replicate search.turnsLeft v)
      = search.turns r tag (List.replicate search.turnsLeft w) :=
    Search.turns_eq_of_alike (Search.isAmong_start separates checked tag) hstores
  have hv := Search.result?_turns_replicate { r with values := v } d tag
  have hw := Search.result?_turns_replicate { r with values := w } d tag
  rw [Search.turns_values] at hv hw
  exact Option.some.inj (hv.symm.trans ((congrArg (·.1.result?) hturns).trans hw))

theorem sameFor_assemble {v w : ValueStore} (separates : r.catalog.Separates)
    (checked : d.checkSources r.catalog = .ok ()) (h : v.AlikeOn r.timeout kind w) :
    ({ r with values := v }.assemble d).inputs.SameFor kind
      ({ r with values := w }.assemble d).inputs := by
  have hresult : ∀ tag : Tag, tag.sourceKind = kind →
      ({ r with values := v }.resolve d tag).result
        = ({ r with values := w }.resolve d tag).result := by
    rintro tag rfl
    exact result_resolve_eq_of_alike separates checked h
  cases kind with
  | measurement =>
    have hobservation := fun tag ↦ hresult (.observation tag) rfl
    simp only [RunInputs.SameFor, assemble, RunInputs.collect, List.map_map, Function.comp_def,
      hobservation, and_self]
  | forecast =>
    have hforecast := fun tag ↦ hresult (.forecast tag) rfl
    simp only [RunInputs.SameFor, assemble, RunInputs.collect, List.map_map, Function.comp_def,
      hforecast, and_self]

theorem sameFor_assembleInTurns {observing forecasting observing' forecasting' : List Turn}
    {i i' : RunInputs} {trace trace' : List (Tag × Query)} (separates : r.catalog.Separates)
    (checked : d.checkSources r.catalog = .ok ())
    (h : r.assembleInTurns d observing forecasting = some (i, trace))
    (h' : r.assembleInTurns d observing' forecasting' = some (i', trace')) :
    (Turn.AlikeOn r.timeout .measurement observing observing' → i.SameFor .measurement i') ∧
      (Turn.AlikeOn r.timeout .forecast forecasting forecasting' → i.SameFor .forecast i') := by
  obtain ⟨observations, forecasts, hobservations, hforecasts, rfl, -⟩ :=
    assembleInTurns_eq_some_iff.mp h
  obtain ⟨observations', forecasts', hobservations', hforecasts', rfl, -⟩ :=
    assembleInTurns_eq_some_iff.mp h'
  constructor
  · intro halike
    have hsettled := Searches.settled?_run_eq_of_alike Tag.observation ObservationTag.all
      separates checked (fun _ ↦ rfl) halike
    obtain rfl := Option.some.inj (hobservations.symm.trans (hsettled.trans hobservations'))
    exact ⟨rfl, rfl⟩
  · intro halike
    have hsettled := Searches.settled?_run_eq_of_alike Tag.forecast d.requiredForecasts
      separates checked (fun _ ↦ rfl) halike
    obtain rfl := Option.some.inj (hforecasts.symm.trans (hsettled.trans hforecasts'))
    exact ⟨rfl, rfl⟩

/-- **Observations depend on measurements only, and forecast inputs on forecasts only.** For a
description that was checked against the standard catalog, two stores that reply alike to all
queries for one kind of value lead to the same inputs of this kind, resolved and missing, whatever
they reply to the queries for the other. The same holds of inputs that are searched for in turns,
while the stores change: those of a kind are determined by what the stores in their own turns reply
to sources of the kind. -/
theorem inputs_separate (r : Resolver) (d : Description) (standard : r.catalog = .standard)
    (checked : d.checkSources .standard = .ok ()) :
    (∀ kind v w, ValueStore.AlikeOn r.timeout kind v w →
      ({ r with values := v }.assemble d).inputs.SameFor kind
        ({ r with values := w }.assemble d).inputs) ∧
    ∀ observing forecasting i trace observing' forecasting' i' trace',
      r.assembleInTurns d observing forecasting = some (i, trace) →
      r.assembleInTurns d observing' forecasting' = some (i', trace') →
      (Turn.AlikeOn r.timeout .measurement observing observing' → i.SameFor .measurement i') ∧
        (Turn.AlikeOn r.timeout .forecast forecasting forecasting' → i.SameFor .forecast i') := by
  have separates : r.catalog.Separates := standard ▸ Catalog.separates_standard
  rw [← standard] at checked
  exact ⟨fun _ _ _ halike ↦ sameFor_assemble separates checked halike,
    fun _ _ _ _ _ _ _ _ h h' ↦ sameFor_assembleInTurns separates checked h h'⟩

end Resolver

/-! ## A station without its forecast model -/

namespace Station

/-- The sensors reply as ever, and the forecast model is down. -/
def withoutModel : ValueStore
  | .latestMeasurement parameter sensorId location =>
    values (.latestMeasurement parameter sensorId location)
  | .latestForecast .. => ⟨5, .error "model is down"⟩

/-- With the model down the station has the observations it had, and no forecast. -/
theorem observations_withoutModel :
    resolver.catalog = .standard ∧ description.checkSources .standard = .ok () ∧
      (resolver.assemble description).inputs.SameFor .measurement
        ({ resolver with values := withoutModel }.assemble description).inputs ∧
      ({ resolver with values := withoutModel }.assemble description).inputs.forecasts.isEmpty
        = true ∧
      (resolver.assemble description).inputs.forecasts.isEmpty = false := by
  have halike : ValueStore.AlikeOn resolver.timeout .measurement values withoutModel := by
    intro q hq
    cases q with
    | latestMeasurement parameter sensorId location => exact ⟨rfl, fun _ _ ↦ Iff.rfl⟩
    | latestForecast parameter location modelId => cases hq
  have hseparate := Resolver.inputs_separate resolver description rfl checkSources_standard
  exact ⟨rfl, checkSources_standard, hseparate.1 .measurement values withoutModel halike,
    by decide +kernel, by decide +kernel⟩

end Station

end RoadWeather
