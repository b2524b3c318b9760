import RoadWeather.Store.History

/-!
# A store holds the latest values

What a store answers is determined by what has been recorded, and by the order of it: the answer for
a key is the record with the key of which none before is later and none after is as late
(`IsLatest`). A tie goes to the record that comes last, and only instants are compared. Two
timestamps on different clocks that denote one instant tie, and the answer has the clock of the
second.

## The invariant

The values at hand are the latest of all records so far (`LatestValues.Holds`): for every key that
of the latest record with it, and none just if there is no such record. Both halves are needed, as a
store without an answer for a key that was recorded would satisfy the first one alone.

One record keeps it (`LatestValues.Holds.record`). Either the record has another key, and nothing
changes, or it competes with the value at hand, which is the latest one so far. Snapshots and whole
histories follow by induction.

## Histories

A history is any list of operations, loads that fail among them. What an operation takes in is said
by `Operation.recorded`, and it takes in nothing else (`Store.perform_values`). So the values after
a history are those of one list of measurements and of one list of forecasts, and neither of the two
has to do with the other.
-/

namespace RoadWeather

/-! ## The latest record

A new record is held against the latest one before it. The records are taken apart at the place of
the latest, and the new one goes to the end. -/

/-- The instant of a record. -/
def ValueRecord.instant (r : ValueRecord) : Int := r.timed.timestamp.instant

/-- The value of the latest of the records with a key: among those with the greatest instant, the
last one. -/
def IsLatest (records : List ValueRecord) (key : ValueKey) (v : TimedValue) : Prop :=
  ∃ before r after, records = before ++ r :: after ∧ r.key = key ∧ r.timed = v ∧
    (∀ r' ∈ before, r'.key = key → r'.instant ≤ r.instant) ∧
    ∀ r' ∈ after, r'.key = key → r'.instant < r.instant

variable {records : List ValueRecord} {key : ValueKey} {v : TimedValue}

theorem IsLatest.instant_le (h : IsLatest records key v) {r : ValueRecord} (hr : r ∈ records)
    (hkey : r.key = key) : r.instant ≤ v.timestamp.instant := by
  obtain ⟨before, latest, after, rfl, -, rfl, hbefore, hafter⟩ := h
  rcases List.mem_append.mp hr with hmem | hmem
  · exact hbefore r hmem hkey
  rcases List.mem_cons.mp hmem with rfl | hmem
  · exact Int.le_refl _
  · exact Int.le_of_lt (hafter r hmem hkey)

theorem IsLatest.exists_mem (h : IsLatest records key v) :
    ∃ r ∈ records, r.key = key ∧ r.timed = v := by
  obtain ⟨before, r, after, rfl, hkey, hv, -⟩ := h
  exact ⟨r, List.mem_append_right _ List.mem_cons_self, hkey, hv⟩

theorem isLatest_append_of_ne {r : ValueRecord} (hne : r.key ≠ key) :
    IsLatest (records ++ [r]) key v ↔ IsLatest records key v := by
  constructor
  · rintro ⟨before, latest, after, heq, hkey, hv, hbefore, hafter⟩
    rcases List.eq_nil_or_concat after with rfl | ⟨after, last, rfl⟩
    · obtain ⟨-, rfl⟩ := List.append_singleton_inj.mp heq
      exact absurd hkey hne
    · rw [List.concat_eq_append, ← List.cons_append, ← List.append_assoc] at heq
      obtain ⟨rfl, rfl⟩ := List.append_singleton_inj.mp heq
      exact ⟨before, latest, after, rfl, hkey, hv, hbefore, fun r' hr' ↦
        hafter r' (by rw [List.concat_eq_append]; exact List.mem_append_left _ hr')⟩
  · rintro ⟨before, latest, after, rfl, hkey, hv, hbefore, hafter⟩
    refine ⟨before, latest, after ++ [r], by simp, hkey, hv, hbefore, fun r' hr' hkey' ↦ ?_⟩
    rcases List.mem_append.mp hr' with hmem | hmem
    · exact hafter r' hmem hkey'
    · obtain rfl := List.mem_singleton.mp hmem
      exact absurd hkey' hne

/-- A new record with the key is the latest if none is later, and the latest so far remains so if it
is later than the new one. -/
theorem isLatest_append_of_eq {r : ValueRecord} (heq : r.key = key) :
    IsLatest (records ++ [r]) key v ↔
      (v = r.timed ∧ ∀ r' ∈ records, r'.key = key → r'.instant ≤ r.instant) ∨
        (IsLatest records key v ∧ r.instant < v.timestamp.instant) := by
  constructor
  · rintro ⟨before, latest, after, hrecords, hkey, rfl, hbefore, hafter⟩
    -- The latest is the new record just if nothing comes after it.
    rcases List.eq_nil_or_concat after with rfl | ⟨after, last, rfl⟩
    · obtain ⟨rfl, rfl⟩ := List.append_singleton_inj.mp hrecords
      exact Or.inl ⟨rfl, hbefore⟩
    · rw [List.concat_eq_append, ← List.cons_append, ← List.append_assoc] at hrecords
      obtain ⟨rfl, rfl⟩ := List.append_singleton_inj.mp hrecords
      rw [List.concat_eq_append] at hafter
      refine Or.inr ⟨⟨before, latest, after, rfl, hkey, rfl, hbefore, fun r' hr' ↦
        hafter r' (List.mem_append_left _ hr')⟩, ?_⟩
      exact hafter r (List.mem_append_right _ (List.mem_singleton_self r)) heq
  · rintro (⟨rfl, hbefore⟩ | ⟨⟨before, latest, after, rfl, hkey, rfl, hbefore, hafter⟩, hlt⟩)
    · exact ⟨records, r, [], rfl, heq, rfl, hbefore, fun _ hr' ↦ absurd hr' List.not_mem_nil⟩
    · refine ⟨before, latest, after ++ [r], by simp, hkey, rfl, hbefore, fun r' hr' hkey' ↦ ?_⟩
      rcases List.mem_append.mp hr' with hmem | hmem
      · exact hafter r' hmem hkey'
      · obtain rfl := List.mem_singleton.mp hmem
        exact hlt

/-! ## The invariant -/

namespace LatestValues

/-- The values are the latest of the records: for every key that of the latest record with it, and
none just if there is no such record. -/
structure Holds (values : LatestValues) (records : List ValueRecord) : Prop where
  none_iff : ∀ key : ValueKey, values[key]? = none ↔ ∀ r ∈ records, r.key ≠ key
  some_iff : ∀ (key : ValueKey) v, values[key]? = some v ↔ IsLatest records key v

variable {values : LatestValues}

theorem holds_empty : Holds ∅ [] where
  none_iff key := by simp
  some_iff key v := by
    constructor
    · intro h
      simp at h
    · intro h
      obtain ⟨r, hr, -⟩ := h.exists_mem
      cases hr

/-- What a new record with a key makes of the value at hand. -/
theorem Holds.later_eq_iff (h : values.Holds records) {r : ValueRecord} (hkey : r.key = key) :
    r.timed.later values[key]? = v ↔ IsLatest (records ++ [r]) key v := by
  rw [isLatest_append_of_eq hkey]
  cases hold : values[key]? with
  | none =>
    have hnone := (h.none_iff key).mp hold
    constructor
    · rintro rfl
      exact Or.inl ⟨rfl, fun r' hr' hkey' ↦ absurd hkey' (hnone r' hr')⟩
    · rintro (⟨rfl, -⟩ | ⟨hlatest, -⟩)
      · rfl
      · obtain ⟨r', hr', hkey', -⟩ := hlatest.exists_mem
        exact absurd hkey' (hnone r' hr')
  | some old =>
    have hlatest := (h.some_iff key old).mp hold
    -- A key has one value, so the invariant also says that there is one latest record.
    have hunique : ∀ {v}, IsLatest records key v → old = v := fun hv ↦
      Option.some.inj (hold.symm.trans ((h.some_iff key _).mpr hv))
    have hlater : r.timed.later (some old)
        = if old.timestamp.instant ≤ r.instant then r.timed else old := rfl
    rw [hlater]
    by_cases hle : old.timestamp.instant ≤ r.instant
    · rw [if_pos hle]
      constructor
      · rintro rfl
        exact Or.inl ⟨rfl, fun r' hr' hkey' ↦ Int.le_trans (hlatest.instant_le hr' hkey') hle⟩
      · rintro (⟨rfl, -⟩ | ⟨hv, hlt⟩)
        · rfl
        · obtain rfl := hunique hv
          exact absurd hle (Int.not_le.mpr hlt)
    · rw [if_neg hle]
      constructor
      · rintro rfl
        exact Or.inr ⟨hlatest, Int.not_le.mp hle⟩
      · rintro (⟨-, hall⟩ | ⟨hv, -⟩)
        · obtain ⟨r', hr', hkey', rfl⟩ := hlatest.exists_mem
          exact absurd (hall r' hr' hkey') hle
        · exact hunique hv

/-- **One record keeps the values the latest.** -/
theorem Holds.record (h : values.Holds records) (r : ValueRecord) :
    (values.record r).Holds (records ++ [r]) where
  none_iff key := by
    by_cases hkey : r.key = key
    · simp [hkey]
    · simp [hkey, h.none_iff, or_imp, forall_and]
  some_iff key v := by
    by_cases hkey : r.key = key
    · simpa [hkey] using h.later_eq_iff hkey
    · simpa [hkey, isLatest_append_of_ne hkey] using h.some_iff key v

theorem Holds.recordAll (h : values.Holds records) (new : List ValueRecord) :
    (values.recordAll new).Holds (records ++ new) := by
  induction new generalizing values records with
  | nil =>
    rw [List.append_nil]
    exact h
  | cons r rest ih =>
    have hrest := ih (h.record r)
    rw [List.append_assoc] at hrest
    exact hrest

end LatestValues

/-! ## Operations -/

namespace Store

variable {s : Store}

theorem upsertAll_values (s : Store) (ds : List Description) :
    (s.upsertAll ds).1.measurements = s.measurements ∧
      (s.upsertAll ds).1.forecasts = s.forecasts := by
  induction ds generalizing s with
  | nil => exact ⟨rfl, rfl⟩
  | cons d rest ih => exact ih (s.upsert d)

theorem orElse_loadDescriptions_values (s : Store) (path : String) (content : FileContent) :
    (s.orElse (s.loadDescriptions path content)).measurements = s.measurements ∧
      (s.orElse (s.loadDescriptions path content)).forecasts = s.forecasts := by
  rw [loadDescriptions]
  cases decodeFile Description.listDecoder content with
  | error e => exact ⟨rfl, rfl⟩
  | ok ds => exact s.upsertAll_values ds

/-- **An operation takes in what it records, and nothing else.** -/
theorem perform_values (s : Store) (operation : Operation) :
    (s.perform operation).measurements
        = s.measurements.recordAll operation.recorded.measurements ∧
      (s.perform operation).forecasts = s.forecasts.recordAll operation.recorded.forecasts := by
  cases operation with
  | recordMeasurement r => exact ⟨rfl, rfl⟩
  | recordForecast r => exact ⟨rfl, rfl⟩
  | insertSnapshot snapshot => exact ⟨rfl, rfl⟩
  | upsert d => exact ⟨rfl, rfl⟩
  | loadDescriptions path content => exact s.orElse_loadDescriptions_values path content
  | loadValues path content =>
    rw [perform, loadValues, Operation.recorded]
    cases decodeFile Snapshot.decoder content with
    | error e => exact ⟨rfl, rfl⟩
    | ok snapshot => exact ⟨rfl, rfl⟩

theorem performAll_values (s : Store) (operations : List Operation) :
    (s.performAll operations).measurements
        = s.measurements.recordAll (Operation.measurements operations) ∧
      (s.performAll operations).forecasts
        = s.forecasts.recordAll (Operation.forecasts operations) := by
  induction operations generalizing s with
  | nil => exact ⟨rfl, rfl⟩
  | cons operation rest ih =>
    obtain ⟨hmeasurements, hforecasts⟩ := ih (s.perform operation)
    rw [(s.perform_values operation).1] at hmeasurements
    rw [(s.perform_values operation).2] at hforecasts
    exact ⟨hmeasurements.trans List.foldl_append.symm,
      hforecasts.trans List.foldl_append.symm⟩

theorem measurements_after (operations : List Operation) :
    (after operations).measurements
      = LatestValues.recordAll ∅ (Operation.measurements operations) :=
  (empty.performAll_values operations).1

theorem forecasts_after (operations : List Operation) :
    (after operations).forecasts
      = LatestValues.recordAll ∅ (Operation.forecasts operations) :=
  (empty.performAll_values operations).2

theorem holds_after (operations : List Operation) :
    (after operations).measurements.Holds (Operation.measurements operations) ∧
      (after operations).forecasts.Holds (Operation.forecasts operations) := by
  rw [measurements_after, forecasts_after]
  exact ⟨LatestValues.holds_empty.recordAll _, LatestValues.holds_empty.recordAll _⟩

/-- **A store answers with the latest of what was recorded.** After any history there is no answer
just if nothing was recorded under the key, and otherwise it is the value of the latest record, as
it was recorded. Measurements are answered from measurements alone, and forecasts from forecasts. -/
theorem latest?_after (operations : List Operation) :
    (∀ parameter sensorId location,
      ((after operations).latest? (.latestMeasurement parameter sensorId location) = none ↔
        ∀ r ∈ Operation.measurements operations, r.key ≠ ⟨parameter, sensorId, location.key⟩) ∧
      ∀ v, (after operations).latest? (.latestMeasurement parameter sensorId location) = some v ↔
        IsLatest (Operation.measurements operations) ⟨parameter, sensorId, location.key⟩ v) ∧
    (∀ parameter location modelId,
      ((after operations).latest? (.latestForecast parameter location modelId) = none ↔
        ∀ r ∈ Operation.forecasts operations, r.key ≠ ⟨parameter, modelId, location.key⟩) ∧
      ∀ v, (after operations).latest? (.latestForecast parameter location modelId) = some v ↔
        IsLatest (Operation.forecasts operations) ⟨parameter, modelId, location.key⟩ v) ∧
    ∀ others,
      (Operation.measurements others = Operation.measurements operations →
        ∀ parameter sensorId location,
          (after others).latest? (.latestMeasurement parameter sensorId location)
            = (after operations).latest? (.latestMeasurement parameter sensorId location)) ∧
      (Operation.forecasts others = Operation.forecasts operations →
        ∀ parameter location modelId,
          (after others).latest? (.latestForecast parameter location modelId)
            = (after operations).latest? (.latestForecast parameter location modelId)) := by
  obtain ⟨hmeasurements, hforecasts⟩ := holds_after operations
  refine ⟨fun parameter sensorId location ↦ ?_, fun parameter location modelId ↦ ?_,
    fun others ↦ ⟨fun heq parameter sensorId location ↦ ?_,
      fun heq parameter location modelId ↦ ?_⟩⟩
  · exact ⟨hmeasurements.none_iff _, hmeasurements.some_iff _⟩
  · exact ⟨hforecasts.none_iff _, hforecasts.some_iff _⟩
  · rw [latest?, latest?, measurements_after, measurements_after, heq]
  · rw [latest?, latest?, forecasts_after, forecasts_after, heq]

end Store

end RoadWeather
