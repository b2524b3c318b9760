import RoadWeather.Proofs.Assembly

/-!
# Failures under other names

Why a candidate is skipped is put on record, and it decides nothing: the next candidate is tried
either way. Two resolvers that differ in nothing but what they call the failures of candidates
therefore come to the same, up to these names (`Resolver.Renames`).

## The construction

A function on failures is carried through all that failures stand in: outcomes, attempts, errors,
searches and the inputs of a run. Each has its `rename`. A turn of a search commutes with it
(`Search.turn_rename`), and so do all turns, all searches and the inputs that come of them, while
the store changes. A store that stays as it is is the case of one resolution.

The condition on the two resolvers is about one candidate at a time, and it asks for the same
queries as well. So nothing has to be said about lists of candidates.

## Two uses

A limit to how long a query may take is one: where a store is cut off at the limit, late replies
have another name. With no new names at all the results are the same, which is how resolvers with
the same answers come to the same (`Resolver.SameAnswers`).
-/

namespace RoadWeather

/-! ## Renaming -/

section Rename

variable (f : CandidateFailure → CandidateFailure)

def Outcome.rename : Outcome → Outcome
  | skipped failure => skipped (f failure)
  | usable timed value => usable timed value
  | misconfigured e => misconfigured e

def Attempt.rename (a : Attempt) : Attempt := { a with failure := f a.failure }

def ResolutionError.rename : ResolutionError → ResolutionError
  | exhausted tag attempts => exhausted tag (attempts.map (Attempt.rename f))
  | noDescription location modelId => noDescription location modelId
  | descriptionStore message => descriptionStore message
  | unmapped tag => unmapped tag
  | misconfigured tag source e => misconfigured tag source e

def Resolution.Result.rename (result : Resolution.Result) : Resolution.Result :=
  result.mapError (ResolutionError.rename f)

def Search.rename : Search → Search
  | trying skipped rest => trying (skipped.map (Attempt.rename f)) rest
  | ended result => ended (Resolution.Result.rename f result)

def Searches.rename (searches : Searches) : Searches :=
  { searches with search? := fun tag ↦ (searches.search? tag).map (Search.rename f) }

def RunInputs.rename (i : RunInputs) : RunInputs :=
  { i with
    missingObservations := i.missingObservations.map (Prod.map id (ResolutionError.rename f))
    missingForecasts := i.missingForecasts.map (Prod.map id (ResolutionError.rename f)) }

/-- Two resolvers to which every candidate comes to the same, up to the names of failures. -/
structure Resolver.Renames (r r' : Resolver) : Prop where
  catalog : r'.catalog = r.catalog
  outcome : ∀ tag s, r'.outcome tag s = (r.outcome tag s).rename f

end Rename

variable {f : CandidateFailure → CandidateFailure} {g : ValueStore → ValueStore}
  {r r' : Resolver} {tag : Tag} {d : Description}

/-! ## One search -/

theorem Resolver.Renames.queries_eq (h : Renames f r r') (s : DataSource) :
    r'.queries s = r.queries s := by
  rw [queries, queries, h.catalog]

namespace Search

@[simp] theorem rename_start (tag : Tag) (sources : Option (List DataSource)) :
    (start tag sources).rename f = start tag sources := by
  cases sources <;> rfl

theorem result?_rename (search : Search) :
    (search.rename f).result? = search.result?.map (Resolution.Result.rename f) := by
  cases search <;> rfl

/-- **A turn commutes with renaming**, and makes the same queries. -/
theorem turn_rename (h : Resolver.Renames f r r') (tag : Tag) (search : Search) :
    (search.rename f).turn r' tag
      = ((search.turn r tag).1.rename f, (search.turn r tag).2) := by
  cases search with
  | ended result => rfl
  | trying skipped rest =>
    cases rest with
    | nil => rfl
    | cons s rest =>
      rw [rename, turn, turn, h.outcome, h.queries_eq, List.length_map]
      cases r.outcome tag s with
      | usable timed value => rfl
      | misconfigured e => rfl
      | skipped failure =>
        rw [Outcome.rename]
        dsimp only [Search.rename]
        rw [List.map_append]
        rfl

theorem turns_rename {stores : List ValueStore}
    (h : ∀ v ∈ stores, Resolver.Renames f { r with values := v } { r' with values := g v })
    (search : Search) :
    (search.rename f).turns r' tag (stores.map g)
      = ((search.turns r tag stores).1.rename f, (search.turns r tag stores).2) := by
  induction stores generalizing search with
  | nil => rfl
  | cons v later ih =>
    simp [turn_rename (h v List.mem_cons_self), ih fun v' hv' ↦ h v' (List.mem_cons_of_mem v hv')]

end Search

/-! ## Resolutions -/

namespace Resolver

/-- **A resolution is the same up to the names**, and makes the same queries. -/
theorem Renames.resolve_eq (h : Renames f r r') (d : Description) (tag : Tag) :
    (r'.resolve d tag).result = Resolution.Result.rename f (r.resolve d tag).result ∧
      (r'.resolve d tag).queries = (r.resolve d tag).queries := by
  -- A resolution is what enough turns come to while the store stays as it is.
  let search := Search.start tag (d.sources? tag)
  let stores := List.replicate search.turnsLeft r.values
  have hstores : ∀ v ∈ stores,
      Renames f { r with values := v } { r' with values := r'.values } := by
    intro v hv
    rw [List.eq_of_mem_replicate hv]
    exact h
  have hturns : (search.rename f).turns r' tag (stores.map fun _ ↦ r'.values)
      = ((search.turns r tag stores).1.rename f, (search.turns r tag stores).2) :=
    Search.turns_rename hstores search
  rw [Search.rename_start, List.map_replicate, Search.turns_replicate r',
    Search.turns_replicate r] at hturns
  obtain ⟨hsearch, hqueries⟩ := Prod.mk.inj hturns
  exact ⟨Search.ended.inj hsearch, hqueries⟩

end Resolver

/-! ## Inputs -/

namespace RunInputs

variable {τ : Type}

theorem resolved_rename (results : List (τ × Resolution.Result)) :
    resolved (results.map (Prod.map id (Resolution.Result.rename f))) = resolved results := by
  rw [resolved, resolved, List.filterMap_map]
  refine congrArg (List.filterMap · results) (funext fun entry ↦ ?_)
  obtain ⟨tag, result⟩ := entry
  cases result <;> rfl

theorem missing_rename (results : List (τ × Resolution.Result)) :
    missing (results.map (Prod.map id (Resolution.Result.rename f)))
      = (missing results).map (Prod.map id (ResolutionError.rename f)) := by
  rw [missing, missing, List.filterMap_map, List.map_filterMap]
  refine congrArg (List.filterMap · results) (funext fun entry ↦ ?_)
  obtain ⟨tag, result⟩ := entry
  cases result <;> rfl

theorem collect_rename (d : Description)
    (observations : List (ObservationTag × Resolution.Result))
    (forecasts : List (ForecastTag × Resolution.Result)) :
    collect d (observations.map (Prod.map id (Resolution.Result.rename f)))
        (forecasts.map (Prod.map id (Resolution.Result.rename f)))
      = (collect d observations forecasts).rename f := by
  rw [collect, resolved_rename, resolved_rename, missing_rename, missing_rename]
  rfl

end RunInputs

namespace Resolver

/-- **The inputs of a run are the same up to the names**, tag by tag. -/
theorem Renames.inputs_assemble (h : Renames f r r') (d : Description) :
    (r'.assemble d).inputs = (r.assemble d).inputs.rename f := by
  rw [assemble, assemble, ← RunInputs.collect_rename]
  simp only [List.map_map, Function.comp_def, Prod.map, id, (h.resolve_eq d _).1]

end Resolver

/-! ## Searches at the same time

A turn changes one search, and renaming goes through all of them, so it is enough that the turn of
the one commutes with it. -/

namespace Searches

@[simp] theorem rename_start (d : Description) (tags : List Tag) :
    (start d tags).rename f = start d tags := by
  rw [rename, start, Searches.mk.injEq]
  refine ⟨funext fun tag ↦ ?_, rfl⟩
  dsimp only
  split
  · rw [Option.map_some, Search.rename_start]
  · rfl

@[simp] theorem search?_rename (searches : Searches) (tag : Tag) :
    (searches.rename f).search? tag = (searches.search? tag).map (Search.rename f) := rfl

theorem take_rename {t : Turn}
    (h : Resolver.Renames f { r with values := t.values } { r' with values := g t.values })
    (searches : Searches) :
    (searches.rename f).take r' { t with values := g t.values }
      = (searches.take r t).rename f := by
  cases hsearch : searches.search? t.tag with
  | none =>
    have hnone : (searches.rename f).search? t.tag = none := by simp [hsearch]
    rw [take, take, hnone, hsearch]
  | some search =>
    have hsome : (searches.rename f).search? t.tag = some (search.rename f) := by simp [hsearch]
    rw [take_eq (t := { t with values := g t.values }) hsome, take_eq hsearch,
      Search.turn_rename h, rename, rename, Searches.mk.injEq]
    refine ⟨funext fun tag ↦ ?_, rfl⟩
    dsimp only
    split <;> rfl

theorem run_rename {turns : List Turn}
    (h : ∀ t ∈ turns, Resolver.Renames f { r with values := t.values }
      { r' with values := g t.values }) (searches : Searches) :
    (searches.rename f).run r' (turns.map fun t ↦ { t with values := g t.values })
      = (searches.run r turns).rename f := by
  induction turns generalizing searches with
  | nil => rfl
  | cons t later ih =>
    rw [List.map_cons, run, run, List.foldl_cons, List.foldl_cons,
      take_rename (h t List.mem_cons_self)]
    exact ih (fun t' ht' ↦ h t' (List.mem_cons_of_mem t ht')) _

theorem result?_rename (searches : Searches) (tag : Tag) :
    (searches.rename f).result? tag
      = (searches.result? tag).map (Resolution.Result.rename f) := by
  rw [result?, result?, search?_rename]
  cases searches.search? tag with
  | none => rfl
  | some search => exact search.result?_rename

theorem settled?_rename {τ : Type} (searches : Searches) (input : τ → Tag) (tags : List τ) :
    (searches.rename f).settled? input tags
      = (searches.settled? input tags).map
        (List.map (Prod.map id (Resolution.Result.rename f))) := by
  induction tags with
  | nil => rfl
  | cons tag rest ih =>
    rw [settled?, settled?] at ih
    rw [settled?, settled?, List.mapM_cons, List.mapM_cons, result?_rename, ih]
    cases searches.result? (input tag) with
    | none => rfl
    | some result =>
      cases rest.mapM fun tag ↦ (searches.result? (input tag)).map (tag, ·) <;> rfl

end Searches

namespace Resolver

/-- **Interleaved searches come to the same inputs up to the names**, and make the same queries in
the same order, with the store changing in between. -/
theorem assembleInTurns_rename {observing forecasting : List Turn}
    (h : ∀ t ∈ observing ++ forecasting, Renames f { r with values := t.values }
      { r' with values := g t.values }) (d : Description) :
    r'.assembleInTurns d (observing.map fun t ↦ { t with values := g t.values })
        (forecasting.map fun t ↦ { t with values := g t.values })
      = (r.assembleInTurns d observing forecasting).map (Prod.map (RunInputs.rename f) id) := by
  have hobserved := Searches.run_rename (fun t ht ↦ h t (List.mem_append_left _ ht))
    (.start d (ObservationTag.all.map .observation))
  have hforecasted := Searches.run_rename (fun t ht ↦ h t (List.mem_append_right _ ht))
    (.start d (d.requiredForecasts.map .forecast))
  rw [Searches.rename_start] at hobserved hforecasted
  simp only [assembleInTurns, observationSearches, forecastSearches, hobserved, hforecasted,
    Searches.settled?_rename]
  cases Searches.settled? _ Tag.observation ObservationTag.all with
  | none => rfl
  | some observations =>
    cases Searches.settled? _ Tag.forecast d.requiredForecasts with
    | none => rfl
    | some forecasts =>
      refine congrArg some (Prod.ext ?_ rfl)
      exact RunInputs.collect_rename d observations forecasts

end Resolver

/-! ## No new names

To rename nothing changes nothing. What has been said of renaming is then about equality. -/

theorem Resolution.Result.rename_id (result : Resolution.Result) :
    Resolution.Result.rename id result = result := by
  cases result with
  | ok v => rfl
  | error e =>
    refine congrArg Except.error ?_
    cases e with
    | exhausted tag attempts =>
      exact congrArg (ResolutionError.exhausted tag) (List.map_id attempts)
    | _ => rfl

namespace Resolver

/-- Two resolvers to which every source has the same to say. -/
structure SameAnswers (r r' : Resolver) : Prop where
  catalog : r.catalog = r'.catalog
  fetch : ∀ s, r.fetch s = r'.fetch s

theorem SameAnswers.outcome_eq (h : r.SameAnswers r') (tag : Tag) (s : DataSource) :
    r.outcome tag s = r'.outcome tag s := by
  rw [outcome, outcome, h.catalog, h.fetch]

theorem SameAnswers.renames (h : r.SameAnswers r') : Renames id r r' where
  catalog := h.catalog.symm
  outcome tag s := by
    rw [h.outcome_eq]
    cases r'.outcome tag s <;> rfl

theorem SameAnswers.result_resolve (h : r.SameAnswers r') (d : Description) (tag : Tag) :
    (r.resolve d tag).result = (r'.resolve d tag).result := by
  rw [(h.renames.resolve_eq d tag).1, Resolution.Result.rename_id]

theorem SameAnswers.inputs_assemble (h : r.SameAnswers r') (d : Description) :
    (r.assemble d).inputs = (r'.assemble d).inputs := by
  simp only [assemble, List.map_map, Function.comp_def, h.result_resolve]

end Resolver

end RoadWeather
