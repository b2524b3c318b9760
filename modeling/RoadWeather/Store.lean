import Std.Data.ExtTreeMap
import RoadWeather.Description
import RoadWeather.Snapshot

/-!
# Stores

A store holds the latest value of every sensor and forecast model for a parameter and a place, and
the descriptions of the runs. Measurements and forecasts are kept apart. A place counts by its key,
so values a fraction of a metre apart belong together.

The maps are extensional: two stores with the same content are equal.
-/

namespace RoadWeather

/-! ## Keys -/

/-- What a value is the latest one of. -/
structure ValueKey where
  parameter : String
  sourceId : String
  location : String
  deriving DecidableEq, Repr

/-- The order of keys: by parameter, then by source, then by place. -/
def ValueKey.order : ValueKey → ValueKey → Ordering :=
  compareLex (compareOn ValueKey.parameter)
    (compareLex (compareOn ValueKey.sourceId) (compareOn ValueKey.location))

/-- The order of descriptions: by place, then by model. -/
def DescriptionKey.order : DescriptionKey → DescriptionKey → Ordering :=
  compareLex (compareOn DescriptionKey.location) (compareOn DescriptionKey.modelId)

instance : Std.TransCmp ValueKey.order :=
  inferInstanceAs <| Std.TransCmp <| compareLex (compareOn ValueKey.parameter)
    (compareLex (compareOn ValueKey.sourceId) (compareOn ValueKey.location))

instance : Std.TransCmp DescriptionKey.order :=
  inferInstanceAs <| Std.TransCmp <|
    compareLex (compareOn DescriptionKey.location) (compareOn DescriptionKey.modelId)

instance : Std.LawfulEqCmp ValueKey.order where
  eq_of_compare {a b} h := by
    simp only [ValueKey.order, compareLex, compareOn, Ordering.then_eq_eq,
      Std.LawfulEqCmp.compare_eq_iff_eq] at h
    cases a; cases b; simp_all

instance : Std.LawfulEqCmp DescriptionKey.order where
  eq_of_compare {a b} h := by
    simp only [DescriptionKey.order, compareLex, compareOn, Ordering.then_eq_eq,
      Std.LawfulEqCmp.compare_eq_iff_eq] at h
    cases a; cases b; simp_all

/-- The key of a value. -/
def ValueRecord.key (r : ValueRecord) : ValueKey := ⟨r.parameter, r.sourceId, r.location.key⟩

/-! ## Latest values -/

/-- The latest values by their keys. -/
abbrev LatestValues := Std.ExtTreeMap ValueKey TimedValue ValueKey.order

/-- The later of two values. Of two values of one instant the new one counts. -/
def TimedValue.later (new : TimedValue) : Option TimedValue → TimedValue
  | none => new
  | some old => if old.timestamp.instant ≤ new.timestamp.instant then new else old

namespace LatestValues

/-- Takes a value in, unless there is a later one. -/
def record (v : LatestValues) (r : ValueRecord) : LatestValues :=
  v.insert r.key (r.timed.later v[r.key]?)

/-- Takes many values in, one after the other. -/
def recordAll (v : LatestValues) (rs : List ValueRecord) : LatestValues := rs.foldl record v

@[simp] theorem getElem?_record (v : LatestValues) (r : ValueRecord) (k : ValueKey) :
    (v.record r)[k]? = if r.key = k then some (r.timed.later v[r.key]?) else v[k]? := by
  simp [record, Std.ExtTreeMap.getElem?_insert, Std.LawfulEqCmp.compare_eq_iff_eq]

end LatestValues

/-! ## Stores -/

/-- The latest values and the descriptions. -/
structure Store where
  measurements : LatestValues
  forecasts : LatestValues
  descriptions : Std.ExtTreeMap DescriptionKey Description DescriptionKey.order

namespace Store

def empty : Store := ⟨∅, ∅, ∅⟩

def recordMeasurement (s : Store) (r : ValueRecord) : Store :=
  { s with measurements := s.measurements.record r }

def recordForecast (s : Store) (r : ValueRecord) : Store :=
  { s with forecasts := s.forecasts.record r }

/-- Takes the values of a snapshot in, measurements first. -/
def insertSnapshot (s : Store) (snapshot : Snapshot) : Store :=
  { s with
    measurements := s.measurements.recordAll snapshot.measurements
    forecasts := s.forecasts.recordAll snapshot.forecasts }

/-- The answer to a query. -/
def latest? (s : Store) : Query → Option TimedValue
  | .latestMeasurement parameter sensorId location =>
    s.measurements[(⟨parameter, sensorId, location.key⟩ : ValueKey)]?
  | .latestForecast parameter location modelId =>
    s.forecasts[(⟨parameter, modelId, location.key⟩ : ValueKey)]?

/-- The description for a key. -/
def describing? (s : Store) (key : DescriptionKey) : Option Description := s.descriptions[key]?

/-- The description for a place and a model. -/
def description? (s : Store) (location : Location) (modelId : String) : Option Description :=
  s.describing? ⟨location.key, modelId⟩

/-- Puts a description in the place of the one with its key, if there is one. -/
def upsert (s : Store) (d : Description) : Store :=
  { s with descriptions := s.descriptions.insert d.key d }

/-- The store after a description has taken the place of the one with its key, and that one. -/
def replace (s : Store) (d : Description) : Store × Option Description :=
  (s.upsert d, s.describing? d.key)

/-- The descriptions in the order of their keys. -/
def allDescriptions (s : Store) : List Description := s.descriptions.toList.map Prod.snd

@[simp] theorem describing?_upsert (s : Store) (d : Description) (k : DescriptionKey) :
    (s.upsert d).describing? k = if d.key = k then some d else s.describing? k := by
  simp [upsert, describing?, Std.ExtTreeMap.getElem?_insert, Std.LawfulEqCmp.compare_eq_iff_eq]

end Store

end RoadWeather
