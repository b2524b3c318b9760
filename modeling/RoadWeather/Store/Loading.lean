import RoadWeather.Document.Description
import RoadWeather.Document.Snapshot
import RoadWeather.Files
import RoadWeather.Log
import RoadWeather.Store

/-!
# Filling a store

Stores are filled from documents: a snapshot of values, or a list of descriptions. A document is
decoded as a whole before anything of it is taken in, so a document with a problem changes nothing.
-/

namespace RoadWeather

/-- Why a store gives no answer, or takes nothing in. -/
inductive StoreError where
  | unreadable (fault : ReadFault)
  | undecodable (error : Json.DecodeError)
  | unavailable (reason : String)

def Json.DecodeError.message : Json.DecodeError → String
  | .fault .unfinished => "the text ends inside a value"
  | .fault .malformed => "the text is not JSON"
  | .mismatch m => m.message

def StoreError.message : StoreError → String
  | unreadable fault => s!"Failed to read store file: {fault.message}"
  | undecodable error => s!"Failed to decode store file: {error.message}"
  | unavailable reason => s!"Store unavailable: {reason}"

/-- A store after something has been taken in, with how much it was and what is to be logged. -/
structure Loaded where
  store : Store
  count : Nat
  log : List LogLine

namespace Store

/-- The line about a description that takes the place of another one. -/
def replacementLog (s : Store) (d : Description) : List LogLine :=
  match s.describing? d.key with
  | some _ => [⟨.debug, s!"replaced description for {d.key.location} / {d.key.modelId}"⟩]
  | none => []

/-- Takes descriptions in, one after the other, and the lines about it. -/
def upsertAll (s : Store) : List Description → Store × List LogLine
  | [] => (s, [])
  | d :: ds =>
    let (store, log) := (s.upsert d).upsertAll ds
    (store, s.replacementLog d ++ log)

/-- The value of a document in a file. -/
def decodeFile {α : Type} (decoder : Json.Decoder α) (content : FileContent) :
    Except StoreError α :=
  match content.text with
  | .error fault => .error (.unreadable fault)
  | .ok text =>
    match Json.decode decoder text with
    | .error e => .error (.undecodable e)
    | .ok a => .ok a

/-- Takes the snapshot in a file in. -/
def loadValues (s : Store) (path : String) (content : FileContent) : Except StoreError Loaded := do
  let snapshot ← decodeFile Snapshot.decoder content
  return ⟨s.insertSnapshot snapshot, snapshot.size,
    [⟨.info, s!"loaded {snapshot.size} values from {path}"⟩]⟩

/-- Takes the list of descriptions in a file in. -/
def loadDescriptions (s : Store) (path : String) (content : FileContent) :
    Except StoreError Loaded := do
  let ds ← decodeFile Description.listDecoder content
  let (store, log) := s.upsertAll ds
  return ⟨store, ds.length,
    log ++ [⟨.info, s!"loaded {ds.length} location descriptions from {path}"⟩]⟩

end Store

end RoadWeather
