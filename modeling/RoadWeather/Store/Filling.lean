import RoadWeather.Store.History

/-!
# Filling a store by several tasks

Tasks may fill a store at the same time. A lock guards each of its maps, and an operation that
takes in many records takes the lock anew for each of them. So an operation is a list of writes,
and between two writes of one task any other task may write, and anyone may read.

In a turn a task makes its next write. A list of turns is one way in which the tasks can
interleave, and every list is allowed, even one that leaves some tasks unfinished: it stands for
what is in the store while they are still at it.
-/

namespace RoadWeather

/-- What is done to a store under one lock. -/
inductive Write where
  | measurement (r : ValueRecord)
  | forecast (r : ValueRecord)
  | description (d : Description)

namespace Write

def measurement? : Write → Option ValueRecord
  | measurement r => some r
  | forecast _ => none
  | description _ => none

def forecast? : Write → Option ValueRecord
  | measurement _ => none
  | forecast r => some r
  | description _ => none

/-- The description that a write puts in its place. -/
def description? : Write → Option Description
  | measurement _ => none
  | forecast _ => none
  | description d => some d

end Write

/-- The writes of an operation, in their order. A file is decoded before the first of them. -/
def Operation.writes (o : Operation) : List Write :=
  o.recorded.measurements.map .measurement ++ o.recorded.forecasts.map .forecast ++
    o.described.map .description

/-- The store after a write. -/
def Store.write (s : Store) : Write → Store
  | .measurement r => s.recordMeasurement r
  | .forecast r => s.recordForecast r
  | .description d => s.upsert d

/-- The store after some writes, in their order. -/
def Store.writeAll (s : Store) (ws : List Write) : Store := ws.foldl write s

/-- A store that tasks fill, with the writes that each of them has yet to make. -/
structure Filling where
  store : Store
  tasks : List (List Write)

namespace Filling

/-- A store before the first turn, with the operations that each task is to perform. -/
def start (s : Store) (tasks : List (List Operation)) : Filling :=
  ⟨s, tasks.map fun operations ↦ operations.flatMap Operation.writes⟩

/-- A turn of the task in a position. If it is done, or if there is none, nothing happens. -/
def turn (f : Filling) (position : Nat) : Filling :=
  match f.tasks[position]? with
  | some (w :: rest) => ⟨f.store.write w, f.tasks.set position rest⟩
  | some [] => f
  | none => f

/-- What comes of some turns, each of the task in the position given. -/
def run (f : Filling) (turns : List Nat) : Filling := turns.foldl turn f

/-- Whether all tasks are done. -/
def isDone (f : Filling) : Bool := f.tasks.all List.isEmpty

end Filling

end RoadWeather
