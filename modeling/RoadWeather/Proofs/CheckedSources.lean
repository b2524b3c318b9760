import RoadWeather.Proofs.Assembly
import RoadWeather.Proofs.Candidates

/-!
# Checked sources are never misconfigured

A description is checked against a catalog when it is configured, and a resolver with the catalog
finds out about a mistake only when it has a value to convert. The two agree: a resolver refuses no
candidate that the check has nothing to say against (`Resolver.not_refuses`).

## The invariant

For a whole search this is `Search.Checked`: the search is among sources that nothing is wrong with,
it keeps count of the candidates tried, and it ends with a value or after the last of them. The
store has no part in it. So the invariant holds after every turn, whatever the store answers and
whenever it changes, and there is no need to know what a search would have come to with one store.

## What is missing

A valid description maps everything that its run needs, and no list of sources in it is empty
(`Description.exists_sources_of_needs`). A search for a needed input can therefore fail in one way
only: it has tried all candidates of the input, of which there is at least one, and has an attempt
for each (`IsExhaustion`). That is what is put on record as missing, for resolutions one by one and
for interleaved searches alike (`RunInputs.OnlyExhausted`).
-/

namespace RoadWeather

/-! ## What the check finds

The check goes through all sources with the inputs that they are mapped to, and is silent just if it
has nothing to say against any of them. -/

namespace Description

variable {d : Description} {catalog : Catalog} {tag : Tag} {s : DataSource}

theorem canFeed_of_mismatch?_eq_none (h : mismatch? catalog tag s = none) :
    ∃ p, catalog.get? s.parameter = some p ∧ p.kind = expectedKind s.kind ∧
      p.canFeed tag = true := by
  rw [mismatch?] at h
  cases hget : catalog.get? s.parameter with
  | none =>
    rw [hget] at h
    cases h
  | some p =>
    rw [hget] at h
    by_cases hkind : p.kind = expectedKind s.kind
    · cases hfeed : p.canFeed tag with
      | true => exact ⟨p, rfl, hkind, hfeed⟩
      | false => simp [hkind, hfeed] at h
    · simp [hkind] at h

theorem mem_taggedSources_config {sources : List DataSource}
    (hsources : d.sources? tag = some sources) (hs : s ∈ sources) :
    (tag, s) ∈ d.config.taggedSources := by
  rw [DescriptionConfig.taggedSources, List.mem_append]
  cases tag with
  | observation tag =>
    exact Or.inl (List.mem_map.mpr
      ⟨(tag, s), Mapping.mem_sources.mpr ⟨tag.mem_all, sources, hsources, hs⟩, rfl⟩)
  | forecast tag =>
    exact Or.inr (List.mem_map.mpr
      ⟨(tag, s), Mapping.mem_sources.mpr ⟨tag.mem_all, sources, hsources, hs⟩, rfl⟩)

theorem checkSources_eq_ok_iff : d.checkSources catalog = .ok () ↔
    ∀ entry ∈ d.config.taggedSources, mismatch? catalog entry.1 entry.2 = none := by
  rw [checkSources]
  constructor
  · intro h
    split at h
    · cases h
    · next hnone => exact List.findSome?_eq_none_iff.mp hnone
  · intro h
    split
    · next e hsome =>
      obtain ⟨entry, hentry, he⟩ := List.exists_of_findSome?_eq_some hsome
      cases (h entry hentry).symm.trans he
    · rfl

theorem mismatch?_of_checkSources (checked : d.checkSources catalog = .ok ())
    {sources : List DataSource} (hsources : d.sources? tag = some sources) (hs : s ∈ sources) :
    mismatch? catalog tag s = none :=
  checkSources_eq_ok_iff.mp checked (tag, s) (mem_taggedSources_config hsources hs)

theorem exists_sources_of_hasSource {τ : Type} {m : Mapping τ} {tag : τ}
    (h : m.hasSource tag = true) : ∃ sources, m tag = some sources ∧ 0 < sources.length := by
  rw [Mapping.hasSource] at h
  cases hsources : m tag with
  | none =>
    rw [hsources] at h
    cases h
  | some sources =>
    refine ⟨sources, rfl, List.length_pos_iff.mpr ?_⟩
    rintro rfl
    rw [hsources] at h
    cases h

theorem exists_sources_of_needs (h : d.Needs tag) :
    ∃ sources, d.sources? tag = some sources ∧ 0 < sources.length := by
  have hvalid := d.valid
  simp only [DescriptionConfig.fault?, Option.orElse_eq_orElse, Option.orElse_eq_or,
    Option.or_eq_none_iff, Option.map_eq_none_iff, List.find?_eq_none, Bool.not_eq_true',
    Bool.not_eq_false] at hvalid
  obtain ⟨-, -, hobservations, hforecasts, -⟩ := hvalid
  cases tag with
  | observation tag => exact exists_sources_of_hasSource (hobservations tag tag.mem_all)
  | forecast tag =>
    exact exists_sources_of_hasSource (hforecasts tag (RunMode.mem_requiredForecasts.mpr h))

end Description

/-! ## What the resolver finds -/

namespace Resolver

variable {r : Resolver} {tag : Tag} {s : DataSource}

/-- **The resolver refuses nothing that the check accepts.** -/
theorem not_refuses (h : Description.mismatch? r.catalog tag s = none) (e : ConversionError) :
    ¬ r.Refuses tag s e := by
  obtain ⟨p, hknown, -, hfeed⟩ := Description.canFeed_of_mismatch?_eq_none h
  intro hrefuses
  cases hrefuses with
  | unknown unknown =>
    rw [hknown] at unknown
    cases unknown
  | foreign offers feeds =>
    obtain rfl := Option.some.inj (hknown.symm.trans offers.known)
    rw [hfeed] at feeds
    cases feeds

theorem outcome_ne_misconfigured (h : Description.mismatch? r.catalog tag s = none)
    (e : ConversionError) : r.outcome tag s ≠ .misconfigured e :=
  fun houtcome ↦ not_refuses h e (outcome_eq_iff.mp houtcome)

end Resolver

/-! ## Searches of checked sources -/

/-- A search among sources that nothing is wrong with: it keeps count of its candidates, and it
ends with a value or after the last of them. -/
inductive Search.Checked (catalog : Catalog) (tag : Tag) (sources : List DataSource) :
    Search → Prop where
  | trying {skipped : List Attempt} {rest : List DataSource}
      (count : skipped.length + rest.length = sources.length)
      (fits : ∀ s ∈ rest, Description.mismatch? catalog tag s = none) :
      Checked catalog tag sources (.trying skipped rest)
  | resolved {v : ResolvedValue} : Checked catalog tag sources (.ended (.ok v))
  | exhausted {attempts : List Attempt} (count : attempts.length = sources.length) :
      Checked catalog tag sources (.ended (.error (.exhausted tag attempts)))

namespace Search.Checked

variable {r : Resolver} {tag : Tag} {sources : List DataSource} {search : Search}

theorem turn (h : search.Checked r.catalog tag sources) :
    (search.turn r tag).1.Checked r.catalog tag sources := by
  cases h with
  | resolved => exact .resolved
  | exhausted count => exact .exhausted count
  | @trying skipped rest count fits =>
    cases rest with
    | nil => exact .exhausted count
    | cons s rest =>
      rw [Search.turn]
      cases houtcome : r.outcome tag s with
      | usable timed value => exact .resolved
      | misconfigured e =>
        -- The only outcome that would break the count, and the check rules it out.
        exact absurd houtcome (Resolver.outcome_ne_misconfigured (fits s List.mem_cons_self) e)
      | skipped failure =>
        refine .trying ?_ fun s' hs' ↦ fits s' (List.mem_cons_of_mem s hs')
        rw [List.length_append, List.length_singleton]
        rw [List.length_cons] at count
        omega

theorem turns (h : search.Checked r.catalog tag sources) (stores : List ValueStore) :
    (search.turns r tag stores).1.Checked r.catalog tag sources := by
  induction stores generalizing search with
  | nil => exact h
  | cons values later ih => exact ih (turn (r := { r with values }) h)

end Search.Checked

namespace Description

/-- A failure to find a value for an input after all of its candidates, of which there is at least
one. -/
def IsExhaustion (d : Description) (tag : Tag) (e : ResolutionError) : Prop :=
  ∃ sources attempts, d.sources? tag = some sources ∧ e = .exhausted tag attempts ∧
    attempts.length = sources.length ∧ 0 < attempts.length

variable {r : Resolver} {d : Description} {tag : Tag} {stores : List ValueStore}
  {e : ResolutionError}

/-- A search for an input of a checked description fails because the input is not mapped, or after
all its candidates. -/
theorem error_of_turns (checked : d.checkSources r.catalog = .ok ())
    (hend : ((Search.start tag (d.sources? tag)).turns r tag stores).1.result?
      = some (.error e)) :
    (d.sources? tag = none ∧ e = .unmapped tag) ∨
      ∃ sources attempts, d.sources? tag = some sources ∧ e = .exhausted tag attempts ∧
        attempts.length = sources.length := by
  cases hsources : d.sources? tag with
  | none =>
    rw [hsources, Search.start, Search.turns_ended] at hend
    cases hend
    exact Or.inl ⟨rfl, rfl⟩
  | some sources =>
    have hstart : (Search.start tag (d.sources? tag)).Checked r.catalog tag sources := by
      rw [hsources]
      exact .trying (Nat.zero_add _) fun s hs ↦ mismatch?_of_checkSources checked hsources hs
    have hlast := hstart.turns stores
    rw [Search.eq_ended_of_result? hend] at hlast
    cases hlast with
    | exhausted count => exact Or.inr ⟨sources, _, rfl, rfl, count⟩

theorem ne_misconfigured_of_turns (checked : d.checkSources r.catalog = .ok ()) (tag' : Tag)
    (s : DataSource) (error : ConversionError) :
    ((Search.start tag (d.sources? tag)).turns r tag stores).1.result?
      ≠ some (.error (.misconfigured tag' s error)) := by
  intro hend
  rcases error_of_turns checked hend with ⟨-, heq⟩ | ⟨_, _, -, heq, -⟩
  · cases heq
  · cases heq

theorem isExhaustion_of_turns (checked : d.checkSources r.catalog = .ok ()) (hneeds : d.Needs tag)
    (hend : ((Search.start tag (d.sources? tag)).turns r tag stores).1.result?
      = some (.error e)) :
    d.IsExhaustion tag e := by
  obtain ⟨sources, hsources, hlength⟩ := exists_sources_of_needs hneeds
  rcases error_of_turns checked hend with ⟨hnone, -⟩ | ⟨sources', attempts, hsome, heq, hcount⟩
  · rw [hsources] at hnone
    cases hnone
  · obtain rfl := Option.some.inj (hsources.symm.trans hsome)
    exact ⟨sources, attempts, hsources, heq, hcount, hcount ▸ hlength⟩

theorem isExhaustion_of_resolve (checked : d.checkSources r.catalog = .ok ())
    (hneeds : d.Needs tag) (herror : (r.resolve d tag).result = .error e) :
    d.IsExhaustion tag e :=
  isExhaustion_of_turns checked hneeds
    ((Search.result?_turns_replicate r d tag).trans (congrArg some herror))

end Description

/-! ## Runs of checked descriptions -/

/-- Inputs of which nothing is missing but what all candidates failed to give. -/
structure RunInputs.OnlyExhausted (d : Description) (i : RunInputs) : Prop where
  observations : ∀ tag e, (tag, e) ∈ i.missingObservations → d.IsExhaustion (.observation tag) e
  forecasts : ∀ tag e, (tag, e) ∈ i.missingForecasts → d.IsExhaustion (.forecast tag) e

namespace Resolver

variable {r : Resolver} {d : Description}

/-- What is missing after interleaved searches is missing because all its candidates failed,
whatever the store was in each turn. -/
theorem onlyExhausted_of_assembleInTurns (checked : d.checkSources r.catalog = .ok ())
    {observing forecasting : List Turn} {i : RunInputs} {trace : List (Tag × Query)}
    (h : r.assembleInTurns d observing forecasting = some (i, trace)) : i.OnlyExhausted d := by
  obtain ⟨observations, forecasts, hobservations, hforecasts, rfl, -⟩ :=
    assembleInTurns_eq_some_iff.mp h
  refine ⟨fun tag e hmem ↦ ?_, fun tag e hmem ↦ ?_⟩
  · have hresult := (Searches.of_settled?_eq_some hobservations).2 _ (RunInputs.mem_missing.mp hmem)
    have htag := List.mem_map_of_mem (f := Tag.observation) tag.mem_all
    rw [observationSearches, (Searches.result?_run_start r observing htag).1] at hresult
    exact Description.isExhaustion_of_turns checked trivial hresult
  · obtain ⟨htags, hresults⟩ := Searches.of_settled?_eq_some hforecasts
    have hentry := RunInputs.mem_missing.mp hmem
    have hrequired : tag ∈ d.requiredForecasts := htags ▸ List.mem_map_of_mem hentry
    have hresult := hresults _ hentry
    have htag := List.mem_map_of_mem (f := Tag.forecast) hrequired
    rw [forecastSearches, (Searches.result?_run_start r forecasting htag).1] at hresult
    exact Description.isExhaustion_of_turns checked (RunMode.mem_requiredForecasts.mp hrequired)
      hresult

theorem onlyExhausted_assemble (checked : d.checkSources r.catalog = .ok ()) :
    (r.assemble d).inputs.OnlyExhausted d := by
  have hagrees := RunInputs.assemble_agrees r d
  refine ⟨fun tag e hmem ↦ ?_, fun tag e hmem ↦ ?_⟩
  · exact Description.isExhaustion_of_resolve checked trivial
      ((hagrees.missingObservation tag e).mp hmem)
  · obtain ⟨hrequires, herror⟩ := (hagrees.missingForecast tag e).mp hmem
    exact Description.isExhaustion_of_resolve checked hrequires herror

/-- **Checked descriptions are never found misconfigured.** No resolution over the catalog of the
check ends so, with any store, with one that changes between any two queries, or with any limit to
how long a query takes. What is then missing from the inputs of a run is missing because each of its
candidates failed, and it has candidates. Enough turns, of whatever stores, lead to such inputs. -/
theorem not_misconfigured_of_checkSources (r : Resolver) (d : Description)
    (checked : d.checkSources r.catalog = .ok ()) :
    (∀ tag tag' s e, (r.resolve d tag).result ≠ .error (.misconfigured tag' s e)) ∧
    (∀ tag stores tag' s e,
      ((Search.start tag (d.sources? tag)).turns r tag stores).1.result?
        ≠ some (.error (.misconfigured tag' s e))) ∧
    (r.assemble d).inputs.OnlyExhausted d ∧
    ∀ observing forecasting,
      (Searches.Suffice d (ObservationTag.all.map .observation) observing →
        Searches.Suffice d (d.requiredForecasts.map .forecast) forecasting →
        (r.assembleInTurns d observing forecasting).isSome) ∧
      ∀ i trace, r.assembleInTurns d observing forecasting = some (i, trace) →
        i.OnlyExhausted d := by
  refine ⟨fun tag tag' s e herror ↦ ?_,
    fun tag stores tag' s e ↦ Description.ne_misconfigured_of_turns checked tag' s e,
    onlyExhausted_assemble checked, fun observing forecasting ↦
      ⟨isSome_assembleInTurns, fun i trace ↦ onlyExhausted_of_assembleInTurns checked⟩⟩
  exact Description.ne_misconfigured_of_turns checked tag' s e
    ((Search.result?_turns_replicate r d tag).trans (congrArg some herror))

end Resolver

theorem Station.checkSources_standard : description.checkSources .standard = .ok () :=
  Description.checkSources_eq_ok_iff.mpr (by decide +kernel)

/-- The sources of the station fit the standard catalog, and with the mast down what is missing has
been looked for everywhere. -/
theorem Station.not_misconfigured_standard :
    description.checkSources resolver.catalog = .ok () ∧
      (∀ tag tag' s e, (resolver.resolve description tag).result
        ≠ .error (.misconfigured tag' s e)) ∧
      (resolver.assemble description).inputs.OnlyExhausted description := by
  have h := Resolver.not_misconfigured_of_checkSources resolver description checkSources_standard
  exact ⟨checkSources_standard, h.1, h.2.2.1⟩

end RoadWeather
