import RoadWeather.Proofs.Assembly
import RoadWeather.Proofs.FirstUsable

/-!
# Candidates that cannot feed the input

A candidate cannot feed an input if the catalog does not know its parameter, or if the parameter
does not list the input among those it feeds (`Catalog.Misfit`). It never gives the input a value,
whatever the store answers.

## When it shows

The two are found out at different times. An unknown parameter has no query to make, so the search
ends before the store is asked. Any other parameter is asked for a value first, and the search ends
once there is a value to convert.

A candidate of the second kind that has no plausible value in time is therefore skipped like any
other, and the search goes on after it (`Resolver.Meets`). So the same mistake in a description may
stop the search for an input in one hour and go unnoticed in the next. This is how the search is
built: it looks at the parameter when it converts, and it converts what it has found.

## The search

That a search comes to the candidate is said by what happens to the candidates before it: all of
them are skipped, each in its turn (`Resolver.SkippedBefore`). Then the first usable candidate is
not among them, and what is known of a search that ends there decides the rest
(`Resolver.FirstUsable.meets`).
-/

namespace RoadWeather

/-- A source cannot feed an input: the catalog does not know its parameter, or the parameter does
not feed the input. -/
inductive Catalog.Misfit (c : Catalog) (tag : Tag) (s : DataSource) : Prop where
  | unknown (unknown : c.get? s.parameter = none)
  | foreign {p : Parameter} (known : c.get? s.parameter = some p) (feeds : p.canFeed tag = false)

namespace Resolver

variable {r : Resolver} {stores : Nat → ValueStore} {tag : Tag} {s : DataSource} {p : Parameter}
  {sources : List DataSource} {n : Nat} {result : Resolution.Result} {queries : List Query}

/-! ## The candidate -/

theorem not_usable_of_misfit (h : r.catalog.Misfit tag s) (timed : TimedValue) (value : Float) :
    ¬ r.Usable tag s timed value := by
  rintro ⟨p, hoffers, hconvert⟩
  cases h with
  | unknown unknown => cases unknown.symm.trans hoffers.known
  | foreign known feeds =>
    obtain rfl := Option.some.inj (known.symm.trans hoffers.known)
    rw [Parameter.convert_of_not_canFeed feeds] at hconvert
    cases hconvert

/-- Without a plausible value in time, a candidate that does not feed the input is skipped, and not
for want of a code. -/
theorem exists_skips_of_not_offers (known : r.catalog.get? s.parameter = some p)
    (hnone : ∀ timed, ¬ r.Offers s p timed) :
    ∃ failure, r.Skips tag s failure ∧ ∀ value, failure ≠ .noCode value := by
  have hoffers : ∀ p' timed, ¬ r.Offers s p' timed := by
    intro p' timed h
    obtain rfl := Option.some.inj (known.symm.trans h.known)
    exact hnone timed h
  obtain ⟨o, ho⟩ := r.exists_verdict tag s
  cases o with
  | usable timed value =>
    obtain ⟨p', h, -⟩ := ho
    exact absurd h (hoffers p' timed)
  | misconfigured e =>
    cases ho with
    | unknown unknown => cases known.symm.trans unknown
    | foreign offers => exact absurd offers (hoffers _ _)
  | skipped failure =>
    refine ⟨failure, ho, fun value hvalue ↦ ?_⟩
    subst hvalue
    cases ho with
    | noCode offers => exact hoffers _ _ offers

/-! ## The search -/

theorem SkippedBefore.concat {failure : CandidateFailure}
    (h : r.SkippedBefore stores tag sources n) (candidate : sources[n]? = some s)
    (hskips : (r.inTurn stores n).Skips tag s failure) :
    r.SkippedBefore stores tag sources (n + 1) := by
  intro j hj
  rcases Nat.lt_succ_iff_lt_or_eq.mp hj with hlt | rfl
  · exact h j hlt
  · exact ⟨s, failure, candidate, hskips⟩

/-- What becomes of a search that comes to a candidate, with regard to whether the candidate can
feed the input. -/
structure Meets (r : Resolver) (stores : Nat → ValueStore) (tag : Tag) (sources : List DataSource)
    (n : Nat) (s : DataSource) (result : Resolution.Result) (queries : List Query) : Prop where
  /-- With an unknown parameter it ends the search unasked, and no later one is asked. -/
  unknown : r.catalog.get? s.parameter = none →
    result = .error (.misconfigured tag s (.unknownParameter s.parameter)) ∧
      queries = (sources.take n).map DataSource.query
  /-- Without feeding the input it ends the search by a plausible value in time, and no later one
  is asked. -/
  offered : ∀ p timed, r.catalog.get? s.parameter = some p → p.canFeed tag = false →
    (r.inTurn stores n).Offers s p timed →
      result = .error (.misconfigured tag s (.notConvertible s.parameter tag)) ∧
        queries = (sources.take (n + 1)).map DataSource.query
  /-- Without feeding the input and without such a value it is skipped, for the reason that there
  is no such value, and a later one or the end of the list decides. -/
  withheld : ∀ p, r.catalog.get? s.parameter = some p → p.canFeed tag = false →
    (∀ timed, ¬ (r.inTurn stores n).Offers s p timed) →
      (∃ failure, (r.inTurn stores n).Skips tag s failure ∧ ∀ value, failure ≠ .noCode value) ∧
        ∃ m, n < m ∧ r.SkippedBefore stores tag sources m ∧ r.EndsAt stores tag sources m result ∧
          (sources.take m).map DataSource.query <+: queries
  /-- In no case does it give the input a value. -/
  unused : r.catalog.Misfit tag s → ∀ v, result = .ok v → n < v.priority

theorem FirstUsable.of_refuses {e : ConversionError}
    (h : r.FirstUsable stores tag sources result queries)
    (before : r.SkippedBefore stores tag sources n) (candidate : sources[n]? = some s)
    (refuses : (r.inTurn stores n).Refuses tag s e) :
    result = .error (.misconfigured tag s e) ∧
      queries = (sources.take n).map DataSource.query ++
        ([s].filter r.knows).map DataSource.query := by
  obtain ⟨m, hm, -, hends, hqueries⟩ := h.decided
  obtain ⟨rfl, rfl⟩ := hends.unique hm before (.refused candidate refuses)
  rw [candidate] at hqueries
  exact ⟨rfl, hqueries⟩

/-- A search that ends at its first usable candidate does so whatever cannot feed the input. -/
theorem FirstUsable.meets (h : r.FirstUsable stores tag sources result queries)
    (before : r.SkippedBefore stores tag sources n) (candidate : sources[n]? = some s) :
    r.Meets stores tag sources n s result queries where
  unknown unknown := by
    have hunknown : r.knows s = false := by
      rw [knows, unknown]
      rfl
    obtain ⟨hresult, hqueries⟩ := h.of_refuses before candidate (.unknown unknown)
    rw [List.filter_cons_of_neg (by rw [hunknown]; exact Bool.false_ne_true)] at hqueries
    exact ⟨hresult, hqueries.trans (List.append_nil _)⟩
  offered p timed known feeds offers := by
    have hknown : r.knows s = true := by
      rw [knows, known]
      rfl
    obtain ⟨hresult, hqueries⟩ := h.of_refuses before candidate (.foreign offers feeds)
    rw [List.filter_cons_of_pos hknown] at hqueries
    refine ⟨hresult, hqueries.trans ?_⟩
    rw [List.take_add_one, candidate, List.map_append]
    rfl
  withheld p known feeds hnone := by
    obtain ⟨failure, hskips, hcode⟩ : ∃ failure, (r.inTurn stores n).Skips tag s failure ∧
        ∀ value, failure ≠ .noCode value := exists_skips_of_not_offers known hnone
    obtain ⟨m, hm, -, hends, hqueries⟩ := h.decided
    -- The search cannot end before it has passed the candidate.
    have hle : n + 1 ≤ m := hends.le (before.concat candidate hskips)
    refine ⟨⟨failure, hskips, hcode⟩, m, hle, hm, hends, ?_⟩
    rw [hqueries]
    exact List.prefix_append _ _
  unused misfit v hv := by
    obtain ⟨hbefore, hsource, timed, husable, -⟩ := (h.ok_iff v).mp hv
    rcases Nat.lt_trichotomy v.priority n with hlt | heq | hgt
    · obtain ⟨s', failure, hs', hskips⟩ := before v.priority hlt
      obtain rfl := Option.some.inj (hsource.symm.trans hs')
      cases (outcome_of_skips hskips).symm.trans (outcome_of_usable husable)
    · rw [heq, candidate] at hsource
      obtain rfl := Option.some.inj hsource
      exact absurd husable (not_usable_of_misfit (r := r.inTurn stores v.priority) misfit _ _)
    · exact hgt

/-- **A candidate that cannot feed the input stops the search as soon as this shows.** Once all
candidates before it are skipped, one with an unknown parameter ends the resolution whatever the
store answers. One whose parameter does not feed the input ends it just if the store has a plausible
value in time, and is skipped otherwise. The same holds of a search whose store changes from turn to
turn. -/
theorem resolveSources_meets (r : Resolver) (tag : Tag) {sources : List DataSource} {n : Nat}
    {s : DataSource} (candidate : sources[n]? = some s) :
    (r.SkippedBefore (fun _ ↦ r.values) tag sources n →
      r.Meets (fun _ ↦ r.values) tag sources n s (r.resolveSources tag (some sources)).result
        (r.resolveSources tag (some sources)).queries) ∧
    ∀ (stores : Nat → ValueStore) (count : Nat) (result : Resolution.Result)
      (queries : List Query), r.SkippedBefore stores tag sources n →
      (Search.start tag (some sources)).turns r tag ((List.range count).map stores)
        = (.ended result, queries) →
      r.Meets stores tag sources n s result queries := by
  constructor
  · intro before
    exact (firstUsable_resolveSources r tag sources).meets before candidate
  · intro stores count result queries before hend
    exact (firstUsable_of_ended hend).meets before candidate

end Resolver

/-! ## A hygrometer in the place of a dew point sensor -/

namespace Station

/-- Humidity is no dew point, whichever instrument measures it. -/
def hygrometer (sensorId : String) : DataSource :=
  sensor "Relative humidity in [%] @ 150cm above ground" sensorId

def dewPointSensor : DataSource :=
  sensor "Dew point temperature in [deg C] @ 150cm above ground" "spare"

theorem skips_hygrometer_mast :
    resolver.Skips (.observation .dewPoint) (hygrometer "mast") (.store "mast is down") :=
  (Resolver.outcome_eq_iff (o := .skipped _)).mp (by rfl)

/-- The spare hygrometer measures, so the search for the dew point ends there and the sensor after
it is not asked. -/
theorem resolveSources_hygrometers :
    let sources := [hygrometer "mast", hygrometer "spare", dewPointSensor]
    resolver.SkippedBefore (fun _ ↦ resolver.values) (.observation .dewPoint) sources 1 ∧
      (resolver.resolveSources (.observation .dewPoint) (some sources)).result
        = .error (.misconfigured (.observation .dewPoint) (hygrometer "spare")
          (.notConvertible (hygrometer "spare").parameter (.observation .dewPoint))) ∧
      (resolver.resolveSources (.observation .dewPoint) (some sources)).queries
        = [(hygrometer "mast").query, (hygrometer "spare").query] := by
  have hbefore : resolver.SkippedBefore (fun _ ↦ resolver.values) (.observation .dewPoint)
      [hygrometer "mast", hygrometer "spare", dewPointSensor] 1 := by
    intro j hj
    obtain rfl : j = 0 := Nat.lt_one_iff.mp hj
    exact ⟨_, _, rfl, skips_hygrometer_mast⟩
  have hoffers : resolver.Offers (hygrometer "spare") _ ⟨noon, 2⟩ :=
    ⟨rfl, ⟨fun limit hlimit ↦ by cases hlimit; decide, rfl⟩, by rfl⟩
  have hmeets := (Resolver.resolveSources_meets resolver (.observation .dewPoint) (n := 1)
    (s := hygrometer "spare") rfl).1 hbefore
  exact ⟨hbefore, hmeets.offered _ ⟨noon, 2⟩ hoffers.known (by decide) hoffers⟩

/-- **A misfit is hidden by missing data.** The hygrometer on the mast cannot feed the dew point,
but with the mast down the search goes on and takes the value of the next sensor. -/
theorem misfit_hidden_by_missing_data :
    let sources := [hygrometer "mast", dewPointSensor]
    resolver.catalog.Misfit (.observation .dewPoint) (hygrometer "mast") ∧
      resolver.SkippedBefore (fun _ ↦ resolver.values) (.observation .dewPoint) sources 0 ∧
      (resolver.resolveSources (.observation .dewPoint) (some sources)).result
        = .ok ⟨2, noon, dewPointSensor, 1⟩ ∧
      (resolver.resolveSources (.observation .dewPoint) (some sources)).queries
        = [(hygrometer "mast").query, dewPointSensor.query] ∧
      ∀ e, (resolver.resolveSources (.observation .dewPoint) (some sources)).result
        ≠ .error (.misconfigured (.observation .dewPoint) (hygrometer "mast") e) := by
  have hresult : (resolver.resolveSources (.observation .dewPoint)
      (some [hygrometer "mast", dewPointSensor])).result = .ok ⟨2, noon, dewPointSensor, 1⟩ := by
    rfl
  refine ⟨.foreign rfl (by decide), fun j hj ↦ absurd hj (Nat.not_lt_zero j), hresult, by rfl,
    fun e he ↦ ?_⟩
  cases hresult.symm.trans he

end Station

end RoadWeather
