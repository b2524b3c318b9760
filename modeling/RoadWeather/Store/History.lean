import RoadWeather.Store.Loading

/-!
# Histories of a store

What happens to a store from its start on, as a list of operations. A file that cannot be loaded
is an operation like any other, since whoever asked for it goes on with the store that was there
before.

Apart from the store a history can be read for what it records: the values and the descriptions
that any of its operations takes in, in the order in which they are taken in.
-/

namespace RoadWeather

/-- Something that is done to a store. -/
inductive Operation where
  | recordMeasurement (r : ValueRecord)
  | recordForecast (r : ValueRecord)
  | insertSnapshot (snapshot : Snapshot)
  | loadValues (path : String) (content : FileContent)
  | upsert (d : Description)
  | loadDescriptions (path : String) (content : FileContent)

namespace Store

/-- The store after a load, which is the one before it if the load fails. -/
def orElse (s : Store) : Except StoreError Loaded → Store
  | .ok loaded => loaded.store
  | .error _ => s

/-- The store after an operation. -/
def perform (s : Store) : Operation → Store
  | .recordMeasurement r => s.recordMeasurement r
  | .recordForecast r => s.recordForecast r
  | .insertSnapshot snapshot => s.insertSnapshot snapshot
  | .loadValues path content => s.orElse (s.loadValues path content)
  | .upsert d => s.upsert d
  | .loadDescriptions path content => s.orElse (s.loadDescriptions path content)

/-- The store after some operations, in their order. -/
def performAll (s : Store) (operations : List Operation) : Store := operations.foldl perform s

/-- The store after a history that starts with nothing. -/
def after (operations : List Operation) : Store := empty.performAll operations

end Store

namespace Operation

/-- The values that an operation takes in. Of a file that is no snapshot there are none. -/
def recorded : Operation → Snapshot
  | recordMeasurement r => { measurements := [r] }
  | recordForecast r => { forecasts := [r] }
  | insertSnapshot snapshot => snapshot
  | loadValues _ content =>
    match Store.decodeFile Snapshot.decoder content with
    | .ok snapshot => snapshot
    | .error _ => {}
  | upsert _ => {}
  | loadDescriptions _ _ => {}

/-- The descriptions that an operation takes in. Of a file that is no list of them there are
none. -/
def described : Operation → List Description
  | recordMeasurement _ => []
  | recordForecast _ => []
  | insertSnapshot _ => []
  | loadValues _ _ => []
  | upsert d => [d]
  | loadDescriptions _ content =>
    match Store.decodeFile Description.listDecoder content with
    | .ok ds => ds
    | .error _ => []

/-- The measurements that some operations take in, in their order. -/
def measurements (operations : List Operation) : List ValueRecord :=
  operations.flatMap (·.recorded.measurements)

/-- The forecasts that some operations take in, in their order. -/
def forecasts (operations : List Operation) : List ValueRecord :=
  operations.flatMap (·.recorded.forecasts)

/-- The descriptions that some operations take in, in their order. -/
def descriptions (operations : List Operation) : List Description := operations.flatMap described

end Operation

end RoadWeather
