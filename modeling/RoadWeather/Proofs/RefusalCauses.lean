import RoadWeather.Program
import RoadWeather.Proofs.CheckedSources
import RoadWeather.Proofs.FirstUsable
import RoadWeather.Proofs.LatestValues
import RoadWeather.Proofs.Misconfiguration
import RoadWeather.Proofs.Validation

/-!
# Nothing is refused without cause

The check of a description reports the first source that does not fit. For the two errors about the
parameter and the input, there is a store that lets a resolver find out the same: it comes to the
source that was reported and calls it misconfigured, for the same reason.

## Where the search comes to

In the list of its input all sources before the one reported do fit
(`Description.FirstMismatch`). So they are known to the catalog, and a store that has no value for
them makes a resolver skip them all. It then meets the source that was reported
(`Resolver.result_resolve_of_firstMismatch`).

## Which store it takes

If the parameter of that source is unknown, nothing else is needed, and the empty store will do. If
it cannot feed the input, one plausible value must be there to be refused. A store with a single
value has none for the sources before: these fit and name other parameters, so they have other keys,
however close their places are (`Description.FirstMismatch.parameter_ne`). Keys of places alone
would not tell them apart, as two places can share one.

That there is a plausible value at all is asked of the catalog. A parameter whose list of codes is
empty accepts none, and such a source would never be found out.
-/

namespace RoadWeather

/-! ## The first source that does not fit -/

namespace Description

/-- The first candidate for an input that names a parameter. -/
def firstNaming? (d : Description) (tag : Tag) (parameter : String) : Option DataSource :=
  (d.sources? tag).bind fun sources ↦ sources.find? (·.parameter == parameter)

/-- How a source of an input does not fit a catalog. -/
inductive Mismatches (catalog : Catalog) (tag : Tag) (s : DataSource) :
    DescriptionError → Prop where
  | unknown (unknown : catalog.get? s.parameter = none) :
      Mismatches catalog tag s (.unknownParameter tag s.parameter)
  | kind {p : Parameter} (known : catalog.get? s.parameter = some p)
      (kind : p.kind ≠ expectedKind s.kind) :
      Mismatches catalog tag s (.kindMismatch tag s.parameter s.kind p.kind)
  | foreign {p : Parameter} (known : catalog.get? s.parameter = some p)
      (feeds : p.canFeed tag = false) : Mismatches catalog tag s (.notConvertible tag s.parameter)

/-- A source of an input that does not fit a catalog, while those before it in its list do. -/
structure FirstMismatch (d : Description) (catalog : Catalog) (tag : Tag)
    (before : List DataSource) (s : DataSource) (e : DescriptionError) : Prop where
  listed : ∃ after, d.sources? tag = some (before ++ s :: after)
  fits : ∀ s' ∈ before, mismatch? catalog tag s' = none
  mismatches : Mismatches catalog tag s e

variable {d : Description} {catalog : Catalog} {tag : Tag} {before : List DataSource}
  {s : DataSource} {e : DescriptionError}

theorem mismatches_of_mismatch? (h : mismatch? catalog tag s = some e) :
    Mismatches catalog tag s e := by
  unfold mismatch? at h
  split at h
  · next unknown =>
    obtain rfl := Option.some.inj h
    exact .unknown unknown
  · next p known =>
    split at h
    · next kind =>
      obtain rfl := Option.some.inj h
      exact .kind known kind
    · split at h
      · next feeds =>
        obtain rfl := Option.some.inj h
        exact .foreign known (by simpa using feeds)
      · cases h

/-- **A check that fails is about the first source that does not fit.** -/
theorem exists_firstMismatch (h : d.checkSources catalog = .error e) :
    ∃ tag before s, d.FirstMismatch catalog tag before s e := by
  rw [checkSources, DescriptionConfig.findSome?_taggedSources] at h
  split at h
  · next fault hfault =>
    obtain rfl := Except.error.inj h
    obtain ⟨-, tag, -, -, hfound, -⟩ := List.findSome?_eq_some_iff.mp hfault
    obtain ⟨before, s, after, hlist, hs, hbefore⟩ := List.findSome?_eq_some_iff.mp hfound
    have hsources : d.sources? tag = d.config.sources? tag := by cases tag <;> rfl
    refine ⟨tag, before, s, ⟨after, ?_⟩, hbefore, mismatches_of_mismatch? hs⟩
    rw [hsources]
    cases hmapped : d.config.sources? tag with
    | none =>
      rw [hmapped] at hlist
      simp at hlist
    | some sources =>
      rw [hmapped] at hlist
      exact congrArg some hlist
  · cases h

theorem FirstMismatch.parameter_ne (h : d.FirstMismatch catalog tag before s e)
    (refused : ∀ p, catalog.get? s.parameter = some p → p.canFeed tag = false) :
    ∀ s' ∈ before, s'.parameter ≠ s.parameter := by
  intro s' hs' hsame
  obtain ⟨p, hknown, -, hfeed⟩ := canFeed_of_mismatch?_eq_none (h.fits s' hs')
  rw [hsame] at hknown
  cases (refused p hknown).symm.trans hfeed

theorem FirstMismatch.firstNaming?_eq (h : d.FirstMismatch catalog tag before s e)
    (refused : ∀ p, catalog.get? s.parameter = some p → p.canFeed tag = false) :
    d.firstNaming? tag s.parameter = some s := by
  obtain ⟨after, hlisted⟩ := h.listed
  rw [firstNaming?, hlisted, Option.bind_some, List.find?_eq_some_iff_append]
  exact ⟨by simp, before, after, rfl, fun s' hs' ↦ by simpa using h.parameter_ne refused s' hs'⟩

end Description

/-! ## What a resolver makes of it -/

/-- Where nothing is found for the sources before, a resolver comes to the one that does not fit. -/
theorem Resolver.result_resolve_of_firstMismatch {r : Resolver} {d : Description} {tag : Tag}
    {before : List DataSource} {s : DataSource} {e : DescriptionError} {error : ConversionError}
    (h : d.FirstMismatch r.catalog tag before s e)
    (silent : ∀ s' ∈ before, r.InTime s' ∧ (r.values s'.query).answer = .ok none)
    (refuses : r.Refuses tag s error) :
    (r.resolve d tag).result = .error (.misconfigured tag s error) := by
  obtain ⟨after, hlisted⟩ := h.listed
  rw [resolve, hlisted]
  refine ((r.firstUsable_resolveSources tag _).misconfigured_iff tag s error).mpr
    ⟨rfl, before.length, fun j hj ↦ ?_, by simp, refuses⟩
  have hmem : before[j] ∈ before := List.getElem_mem hj
  obtain ⟨p, hknown, -⟩ := Description.canFeed_of_mismatch?_eq_none (h.fits _ hmem)
  obtain ⟨inTime, answer⟩ := silent _ hmem
  refine ⟨before[j], .unavailable, ?_, .unavailable hknown inTime answer⟩
  rw [List.getElem?_append_left hj, List.getElem?_eq_getElem hj]

/-! ## Stores with a single value -/

def DataSource.record (s : DataSource) (timed : TimedValue) : ValueRecord :=
  ⟨s.parameter, s.sourceId, s.location, timed⟩

/-- To take a value of a source in. -/
def DataSource.report (s : DataSource) (timed : TimedValue) : Operation :=
  match s.kind with
  | .measurement => .recordMeasurement (s.record timed)
  | .forecast => .recordForecast (s.record timed)

theorem LatestValues.getElem?_record_empty (r : ValueRecord) (key : ValueKey) :
    (record ∅ r)[key]? = if r.key = key then some r.timed else none := by
  rw [getElem?_record, Std.ExtTreeMap.getElem?_empty, Std.ExtTreeMap.getElem?_empty]
  rfl

namespace Store

theorem latest?_after_nil (q : Query) : (after []).latest? q = none := by
  cases q <;> exact Std.ExtTreeMap.getElem?_empty

theorem latest?_after_report (s : DataSource) (timed : TimedValue) :
    (after [s.report timed]).latest? s.query = some timed := by
  have hfound := (LatestValues.getElem?_record_empty (s.record timed) _).trans (if_pos rfl)
  rw [DataSource.report, DataSource.query]
  cases s.kind with
  | measurement => exact hfound
  | forecast => exact hfound

theorem latest?_after_report_of_ne {s s' : DataSource} (h : s'.parameter ≠ s.parameter)
    (timed : TimedValue) : (after [s.report timed]).latest? s'.query = none := by
  have hkey : (s.record timed).key ≠ ⟨s'.parameter, s'.sourceId, s'.location.key⟩ :=
    fun heq ↦ h (congrArg ValueKey.parameter heq).symm
  have hnone := (LatestValues.getElem?_record_empty (s.record timed) _).trans (if_neg hkey)
  rw [DataSource.report, DataSource.query]
  cases s.kind with
  | measurement =>
    cases s'.kind with
    | measurement => exact hnone
    | forecast => exact Std.ExtTreeMap.getElem?_empty
  | forecast =>
    cases s'.kind with
    | measurement => exact Std.ExtTreeMap.getElem?_empty
    | forecast => exact hnone

end Store

/-! ## Causes -/

namespace Description

variable {d : Description} {catalog : Catalog} {tag : Tag} {parameter : String}

/-- An unknown parameter is found out without any value. -/
theorem exists_cause_of_unknown
    (h : d.checkSources catalog = .error (.unknownParameter tag parameter)) :
    ∃ s, d.firstNaming? tag parameter = some s ∧ ∀ timeout,
      ((Program.resolver catalog (Store.after []) timeout).resolve d tag).result
        = .error (.misconfigured tag s (.unknownParameter parameter)) := by
  obtain ⟨_, before, s, hfirst⟩ := exists_firstMismatch h
  cases hfirst.mismatches with
  | unknown unknown =>
    refine ⟨s, hfirst.firstNaming?_eq fun p known ↦ ?_, fun timeout ↦ ?_⟩
    · cases unknown.symm.trans known
    · refine Resolver.result_resolve_of_firstMismatch (r := Program.resolver catalog _ timeout)
        hfirst (fun s' _ ↦ ⟨fun _ _ ↦ Nat.zero_le _, ?_⟩) (.unknown unknown)
      exact congrArg Except.ok (Store.latest?_after_nil s'.query)

/-- A parameter that cannot feed the input is found out by any plausible value of it. -/
theorem exists_cause_of_foreign
    (h : d.checkSources catalog = .error (.notConvertible tag parameter)) :
    ∃ s p, d.firstNaming? tag parameter = some s ∧ catalog.get? parameter = some p ∧
      ∀ timed timeout, p.check timed.value = .ok () →
        ((Program.resolver catalog (Store.after [s.report timed]) timeout).resolve d tag).result
          = .error (.misconfigured tag s (.notConvertible parameter tag)) := by
  obtain ⟨_, before, s, hfirst⟩ := exists_firstMismatch h
  cases hfirst.mismatches with
  | @foreign p known feeds =>
    have refused : ∀ p, catalog.get? s.parameter = some p → p.canFeed tag = false := by
      intro q hq
      obtain rfl := Option.some.inj (known.symm.trans hq)
      exact feeds
    refine ⟨s, p, hfirst.firstNaming?_eq refused, known, fun timed timeout accepted ↦ ?_⟩
    refine Resolver.result_resolve_of_firstMismatch (r := Program.resolver catalog _ timeout)
      hfirst (fun s' hs' ↦ ⟨fun _ _ ↦ Nat.zero_le _, ?_⟩) (.foreign ⟨known, ?_, accepted⟩ feeds)
    · exact congrArg Except.ok
        (Store.latest?_after_report_of_ne (hfirst.parameter_ne refused s' hs') timed)
    · exact ⟨fun _ _ ↦ Nat.zero_le _, congrArg Except.ok (Store.latest?_after_report s timed)⟩

/-- **Nothing is refused without cause.** Let every parameter of a catalog accept some value. If a
description is refused for an unknown parameter, or for one that cannot feed its input, there is a
history after which a store makes the resolution of the input end as misconfigured, for the same
reason and at the first candidate that names the parameter, however long a query may take. -/
theorem refusals_have_causes (catalog : Catalog) (d : Description)
    (accepting : ∀ p ∈ catalog.parameters, ∃ x, p.check x = .ok ()) :
    (∀ tag parameter, d.checkSources catalog = .error (.unknownParameter tag parameter) →
      ∃ operations s, d.firstNaming? tag parameter = some s ∧ ∀ timeout,
        ((Program.resolver catalog (Store.after operations) timeout).resolve d tag).result
          = .error (.misconfigured tag s (.unknownParameter parameter))) ∧
    (∀ tag parameter, d.checkSources catalog = .error (.notConvertible tag parameter) →
      ∃ operations s, d.firstNaming? tag parameter = some s ∧ ∀ timeout,
        ((Program.resolver catalog (Store.after operations) timeout).resolve d tag).result
          = .error (.misconfigured tag s (.notConvertible parameter tag))) := by
  refine ⟨fun tag parameter h ↦ ⟨[], exists_cause_of_unknown h⟩, fun tag parameter h ↦ ?_⟩
  obtain ⟨s, p, hs, hknown, hcause⟩ := exists_cause_of_foreign h
  obtain ⟨x, hx⟩ := accepting p (Catalog.mem_of_get? hknown)
  -- Any time will do.
  exact ⟨[s.report ⟨default, x⟩], s, hs, fun timeout ↦ hcause _ timeout hx⟩

end Description

/-! ## A station with a second source for the dew point -/

namespace Station

/-- The dew point has a second source. -/
def configWith (second : DataSource) : DescriptionConfig :=
  { config with observations := observations.set .dewPoint [dewPointSensor, second] }

def humid : Description := ⟨configWith (hygrometer "mast"), by decide +kernel⟩

def misspelt : Description := ⟨configWith (sensor "Dew point" "mast"), by decide +kernel⟩

/-- A value to try a parameter with. -/
def sample (p : Parameter) : Float :=
  match p.validity with
  | .range min _ => min
  | .codes codes => codes.headD 0

theorem exists_check_standard : ∀ p ∈ Catalog.standard.parameters, ∃ x, p.check x = .ok () := by
  have hsample : ∀ p ∈ Catalog.standard.parameters, (p.check (sample p)).toBool = true := by
    decide +kernel
  intro p hp
  have hp := hsample p hp
  cases hcheck : p.check (sample p) with
  | ok _ => exact ⟨sample p, hcheck⟩
  | error e =>
    rw [hcheck] at hp
    cases hp

/-- Humidity is refused as a dew point, and so is what has no such name. In both cases there are
values to show why. -/
theorem refusals_of_dewPoint :
    (∀ p ∈ Catalog.standard.parameters, ∃ x, p.check x = .ok ()) ∧
      (∃ operations, ((Program.resolver .standard (Store.after operations) none).resolve humid
        (.observation .dewPoint)).result = .error (.misconfigured (.observation .dewPoint)
          (hygrometer "mast") (.notConvertible (hygrometer "mast").parameter
            (.observation .dewPoint)))) ∧
      ∃ operations, ((Program.resolver .standard (Store.after operations) none).resolve misspelt
        (.observation .dewPoint)).result = .error (.misconfigured (.observation .dewPoint)
          (sensor "Dew point" "mast") (.unknownParameter "Dew point")) := by
  refine ⟨exists_check_standard, ?_, ?_⟩
  · obtain ⟨operations, s, hs, hresult⟩ :=
      (Description.refusals_have_causes .standard humid exists_check_standard).2
        (.observation .dewPoint) (hygrometer "mast").parameter (by rfl)
    cases hs
    exact ⟨operations, hresult none⟩
  · obtain ⟨operations, s, hs, hresult⟩ :=
      (Description.refusals_have_causes .standard misspelt exists_check_standard).1
        (.observation .dewPoint) "Dew point" (by rfl)
    cases hs
    exact ⟨operations, hresult none⟩

end Station

end RoadWeather
