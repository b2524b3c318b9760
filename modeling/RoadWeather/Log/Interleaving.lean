import RoadWeather.Log
import RoadWeather.Text

/-!
# Logs of tasks that run at the same time

Tasks that run at the same time write one log. Each writes its own lines in order; before a line it
may wait, and it may take steps, such as reading from a store.

The tasks take turns, always in the same order, and in its turn a task goes on for as long as it
can. The turns of a round share a number of steps. Once these are spent, a task that needs a step
stops until the next round, while one that needs none still writes its lines. So no task keeps the
others from going on for long. Time passes only when every task waits for it.
-/

namespace RoadWeather

/-- A line of the log with what comes between it and the line before: how long is waited, and the
steps taken after that. -/
structure PacedLine where
  wait : Duration
  steps : Nat
  line : LogLine
  deriving DecidableEq, Repr

namespace Interleaving

/-- How many steps the turns of a round share. -/
def stepsPerRound : Nat := 128

/-- A turn of a task, from the lines that it has yet to write and the steps that may be taken: the
lines that it writes, the steps left, and the lines yet to be written. -/
def turn (left : Nat) : List PacedLine → List LogLine × Nat × List PacedLine
  | [] => ([], left, [])
  | l :: task =>
    if 0 < l.wait then ([], left, l :: task)
    else if left < l.steps then ([], 0, { l with steps := l.steps - left } :: task)
    else
      let (written, left, task) := turn (left - l.steps) task
      (l.line :: written, left, task)

def round (left : Nat) : List (List PacedLine) → List LogLine × Nat × List (List PacedLine)
  | [] => ([], left, [])
  | task :: tasks =>
    let (first, left, task) := turn left task
    let (others, left, tasks) := round left tasks
    (first ++ others, left, task :: tasks)

/-- How long every task waits at least. -/
def commonWait (tasks : List (List PacedLine)) : Duration :=
  ((tasks.filterMap List.head?).map PacedLine.wait).min?.getD 0

/-- A task after some time has passed. -/
def elapse (time : Duration) : List PacedLine → List PacedLine
  | [] => []
  | l :: task => { l with wait := l.wait - time } :: task

/-- The lines of tasks in rounds until all are done, and the steps left in the last round. The fuel
bounds the number of rounds. -/
def rounds : Nat → Nat → List (List PacedLine) → List LogLine × Nat
  | 0, left, _ => ([], left)
  | fuel + 1, left, tasks =>
    let (written, left, tasks) := round left tasks
    if tasks.all List.isEmpty then (written, left)
    else
      let (later, left) := rounds fuel stepsPerRound (tasks.map (elapse (commonWait tasks)))
      (written ++ later, left)

/-- The lines of tasks that start in a round with some steps left, and the steps left in the round
in which the last of them is done.

Every round but the first writes a line or takes a step, which bounds the rounds. -/
def run (left : Nat) (tasks : List (List PacedLine)) : List LogLine × Nat :=
  let work := tasks.flatten.foldl (fun n l ↦ n + l.steps + 1) 0
  rounds (work + 2) left tasks

end Interleaving

end RoadWeather
