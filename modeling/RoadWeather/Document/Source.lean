import RoadWeather.DataSource
import RoadWeather.Json.Decoder

/-!
# Sources in documents

The form of locations, data sources and lists of them. An elevation that is not there is left out
in writing; in reading it may be left out or `null`.
-/

namespace RoadWeather

open Json

namespace Location

def toJson (l : Location) : Json :=
  .object <|
    [("latitude", .double l.latitude), ("longitude", .double l.longitude)] ++
      match l.elevation with
      | some elevation => [("elevation", .double elevation)]
      | none => []

def fields :=
  (Fields.required "latitude" Decoder.double).and <|
    (Fields.required "longitude" Decoder.double).and <|
      Fields.defaulted "elevation" (Decoder.optional Decoder.double) none

def decoder : Decoder Location := fun d ↦ do
  let (latitude, longitude, elevation) ← fields.decoder "Location" d
  return ⟨latitude, longitude, elevation⟩

end Location

def SourceKind.toJson (kind : SourceKind) : Json := .string kind.name

namespace DataSource

def toJson (s : DataSource) : Json :=
  .object [("kind", s.kind.toJson), ("location", s.location.toJson),
    ("parameter", .string s.parameter), ("source_id", .string s.sourceId)]

def fields :=
  (Fields.required "kind" (Decoder.name SourceKind.named)).and <|
    (Fields.required "location" Location.decoder).and <|
      (Fields.required "parameter" Decoder.string).and <|
        Fields.required "source_id" Decoder.string

def decoder : Decoder DataSource := fun d ↦ do
  let (kind, location, parameter, sourceId) ← fields.decoder "DataSource" d
  return ⟨kind, location, parameter, sourceId⟩

def listToJson (sources : List DataSource) : Json := .array (sources.map toJson)

def listDecoder : Decoder (List DataSource) := Decoder.list decoder

end DataSource

end RoadWeather
