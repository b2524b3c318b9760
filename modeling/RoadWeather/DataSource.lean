import RoadWeather.Location

/-!
# Data sources

A provider of values for one parameter: a sensor or a forecast model, possibly away from the
station that it feeds. The candidates for an input are listed in the order in which they are tried.
-/

namespace RoadWeather

/-- What a source provides values of. -/
inductive SourceKind where
  | measurement
  | forecast
  deriving DecidableEq, Repr

namespace SourceKind

def describe : SourceKind → String
  | measurement => "measurement"
  | forecast => "forecast"

def name : SourceKind → String
  | measurement => "MEASUREMENT"
  | forecast => "FORECAST"

def named : List (String × SourceKind) :=
  [measurement, forecast].map fun kind ↦ (kind.name, kind)

theorem lookup_name (kind : SourceKind) : named.lookup kind.name = some kind := by
  cases kind <;> decide

end SourceKind

/-- A sensor, or a forecast model, as the provider of a parameter. -/
structure DataSource where
  kind : SourceKind
  location : Location
  /-- The label of the parameter. -/
  parameter : String
  /-- The name of the sensor or of the forecast model. -/
  sourceId : String

def DataSource.describe (s : DataSource) : String :=
  s!"{s.kind.describe} '{s.parameter}' from {s.sourceId} at {s.location.describe}"

/-- A question to a store: the latest value that a sensor has measured, or that a forecast model
has provided. -/
inductive Query where
  | latestMeasurement (parameter sensorId : String) (location : Location)
  | latestForecast (parameter : String) (location : Location) (modelId : String)

/-- The question that a source is asked. Its kind decides which of the two it is. -/
def DataSource.query (s : DataSource) : Query :=
  match s.kind with
  | .measurement => .latestMeasurement s.parameter s.sourceId s.location
  | .forecast => .latestForecast s.parameter s.location s.sourceId

/-- For each tag its candidates, the one to be tried first in front, or nothing where the tag is
not mapped. -/
abbrev Mapping (τ : Type) := τ → Option (List DataSource)

namespace Mapping

variable {τ : Type}

def empty : Mapping τ := fun _ ↦ none

/-- Maps a tag, whether it was mapped before or not. -/
def set [DecidableEq τ] (m : Mapping τ) (tag : τ) (sources : List DataSource) : Mapping τ :=
  fun other ↦ if other = tag then some sources else m other

/-- The mapping of a list of entries, of which the last one for a tag counts. -/
def ofEntries [DecidableEq τ] (entries : List (τ × List DataSource)) : Mapping τ :=
  entries.foldl (fun m entry ↦ m.set entry.1 entry.2) empty

/-- The entries for the given tags, in their order. -/
def entries (m : Mapping τ) (tags : List τ) : List (τ × List DataSource) :=
  tags.filterMap fun tag ↦ (m tag).map (tag, ·)

/-- The sources of the given tags, tag by tag, each with its tag. -/
def sources (m : Mapping τ) (tags : List τ) : List (τ × DataSource) :=
  (m.entries tags).flatMap fun entry ↦ entry.2.map (entry.1, ·)

/-- Whether the tag has a candidate. -/
def hasSource (m : Mapping τ) (tag : τ) : Bool := (m tag).any (!·.isEmpty)

theorem set_apply [DecidableEq τ] (m : Mapping τ) (tag other : τ) (sources : List DataSource) :
    m.set tag sources other = if other = tag then some sources else m other := rfl

theorem mem_sources {m : Mapping τ} {tags : List τ} {tag : τ} {source : DataSource} :
    (tag, source) ∈ m.sources tags ↔ tag ∈ tags ∧ ∃ list, m tag = some list ∧ source ∈ list := by
  simp only [sources, entries, List.mem_flatMap, List.mem_filterMap, Option.map_eq_some_iff,
    List.mem_map, Prod.mk.injEq]
  constructor
  · rintro ⟨entry, ⟨tag', htag', list, hlist, rfl⟩, source', hsource, rfl, rfl⟩
    exact ⟨htag', list, hlist, hsource⟩
  · rintro ⟨htag, list, hlist, hsource⟩
    exact ⟨(tag, list), ⟨tag, htag, list, hlist, rfl⟩, source, hsource, rfl, rfl⟩

end Mapping

end RoadWeather
