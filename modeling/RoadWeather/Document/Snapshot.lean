import RoadWeather.Document.Source
import RoadWeather.Json.Printer
import RoadWeather.Snapshot
import RoadWeather.Timestamp.Rfc3339

/-!
# Snapshots in documents

The form of timestamps, timed values and snapshots. A record of a measurement names its sensor and
one of a forecast its model; otherwise the two have the same form.
-/

namespace RoadWeather

open Json

namespace Timestamp

def toJson (t : Timestamp) : Json := .string t.toText

def decoder : Decoder Timestamp := fun d ↦
  match d with
  | .string s => do
    match ofText (← wanted s) with
    | .ok t => .ok t
    | .error e => .error (.mismatch (.refused e.message))
  | d => expected "an RFC3339-formatted `OffsetDateTime`" d

end Timestamp

namespace TimedValue

def toJson (v : TimedValue) : Json :=
  .object [("timestamp", v.timestamp.toJson), ("value", .double v.value)]

def fields :=
  (Fields.required "timestamp" Timestamp.decoder).and <|
    Fields.required "value" Decoder.double

def decoder : Decoder TimedValue := fun d ↦ do
  let (timestamp, value) ← fields.decoder "TimedValue" d
  return ⟨timestamp, value⟩

end TimedValue

namespace ValueRecord

def toJson (sourceField : String) (r : ValueRecord) : Json :=
  .object [("parameter", .string r.parameter), (sourceField, .string r.sourceId),
    ("location", r.location.toJson), ("timestamp", r.timed.timestamp.toJson),
    ("value", .double r.timed.value)]

def fields (sourceField : String) :=
  (Fields.required "parameter" Decoder.string).and <|
    (Fields.required sourceField Decoder.string).and <|
      (Fields.required "location" Location.decoder).and <|
        (Fields.required "timestamp" Timestamp.decoder).and <|
          Fields.required "value" Decoder.double

def decoder (typeName sourceField : String) : Decoder ValueRecord := fun d ↦ do
  let (parameter, sourceId, location, timestamp, value) ← (fields sourceField).decoder typeName d
  return ⟨parameter, sourceId, location, ⟨timestamp, value⟩⟩

def measurementDecoder : Decoder ValueRecord := decoder "MeasurementRecord" "sensor_id"

def forecastDecoder : Decoder ValueRecord := decoder "ForecastRecord" "model_id"

end ValueRecord

namespace Snapshot

def toJson (s : Snapshot) : Json :=
  .object [("measurements", .array (s.measurements.map (·.toJson "sensor_id"))),
    ("forecasts", .array (s.forecasts.map (·.toJson "model_id")))]

/-- The timestamps in the form of a snapshot, in their order. -/
def timestamps (s : Snapshot) : List Timestamp :=
  (s.measurements ++ s.forecasts).map fun r ↦ r.timed.timestamp

/-- The compact text of a snapshot. -/
def toText (s : Snapshot) : Except Timestamp.WriteError String :=
  Timestamp.writing s.timestamps s.toJson.toText

/-- The indented text of a snapshot. -/
def toIndentedText (s : Snapshot) : Except Timestamp.WriteError String :=
  Timestamp.writing s.timestamps s.toJson.toIndentedText

def fields :=
  (Fields.defaulted "measurements" (Decoder.list ValueRecord.measurementDecoder) []).and <|
    Fields.defaulted "forecasts" (Decoder.list ValueRecord.forecastDecoder) []

def decoder : Decoder Snapshot := fun d ↦ do
  let (measurements, forecasts) ← fields.decoder "ValueSnapshot" d
  return ⟨measurements, forecasts⟩

end Snapshot

end RoadWeather
