import RoadWeather.Store.Filling

/-!
# Loading a file step by step

A load as a task goes through it: it reads and decodes the file, then takes in what it has found
one by one, and in the end says how much it was. Nothing in the way the steps follow each other
makes a load all or nothing. Where a procedure fails it is left off, and what it has written up to
there stays written.
-/

namespace RoadWeather

/-- Something that a task does to a store, write by write, and that may fail. -/
abbrev Procedure (α : Type) := ExceptT StoreError (StateM Store) α

namespace Procedure

/-- The result of a procedure or its failure, and the store it leaves behind. -/
def on {α : Type} (p : Procedure α) (s : Store) : Except StoreError α × Store :=
  Id.run (p.run.run s)

def write (w : Write) : Procedure Unit := modify (·.write w)

def writeEach (ws : List Write) : Procedure Unit := ws.forM write

/-- Reads the text of a file, which must be a document of the expected form. -/
def decodeFile {α : Type} (decoder : Json.Decoder α) (content : FileContent) : Procedure α := do
  let text ← ofExcept (content.text.mapError .unreadable)
  ofExcept ((Json.decode decoder text).mapError .undecodable)

/-- Takes in the values of a snapshot, and counts them. -/
def insertSnapshot (c : Snapshot) : Procedure Nat := do
  let count := c.size
  writeEach (c.measurements.map .measurement)
  writeEach (c.forecasts.map .forecast)
  return count

def loadValues (content : FileContent) : Procedure Nat := do
  let c ← decodeFile Snapshot.decoder content
  insertSnapshot c

def loadDescriptions (content : FileContent) : Procedure Nat := do
  let ds ← decodeFile Description.listDecoder content
  let count := ds.length
  writeEach (ds.map .description)
  return count

end Procedure

end RoadWeather
