import RoadWeather.Inputs

/-!
# Inputs resolved in turns

Inputs that are resolved at the same time do not wait for each other: while one of them waits for a
store, another one goes on. Nothing fixes the order in which their queries are made, and the store
may change between two of them.

Here a resolution is taken apart. In a turn, a search for an input tries its next candidate against
the store as it is then. A list of turns is one way in which the searches can interleave, and every
list is allowed: any input may be next, with any store. Observations and forecasts have turns of
their own, since no forecast is looked for before all observations are settled.

## Turns and rounds

The log depends on how the turns fall, and the rounds that fix its order are kept apart from this.
Results must not depend on it, so no order is singled out here.
-/

namespace RoadWeather

/-! ## One search -/

/-- A search for an input: the candidates skipped so far and those yet to be tried, or what the
search has come to. -/
inductive Search where
  | trying (skipped : List Attempt) (rest : List DataSource)
  | ended (result : Resolution.Result)

namespace Search

/-- A search before its first turn. For an input that is not mapped there is nothing to try. -/
def start (tag : Tag) : Option (List DataSource) → Search
  | none => ended (.error (.unmapped tag))
  | some sources => trying [] sources

/-- What the search has come to, once it has ended. -/
def result? : Search → Option Resolution.Result
  | trying _ _ => none
  | ended result => some result

/-- A turn of a search, and the queries made in it. Without a candidate left the search gives up. -/
def turn (r : Resolver) (tag : Tag) : Search → Search × List Query
  | ended result => (ended result, [])
  | trying skipped [] => (ended (.error (.exhausted tag skipped)), [])
  | trying skipped (s :: rest) =>
    let priority := skipped.length
    let next :=
      match r.outcome tag s with
      | .usable timed value => ended (.ok ⟨value, timed.timestamp, s, priority⟩)
      | .misconfigured e => ended (.error (.misconfigured tag s e))
      | .skipped failure => trying (skipped ++ [⟨priority, s, failure⟩]) rest
    (next, r.queries s)

/-- Turns of a search, one for each of the given states of the store, and the queries made. -/
def turns (r : Resolver) (tag : Tag) : List ValueStore → Search → Search × List Query
  | [], search => (search, [])
  | values :: later, search =>
    let (search, first) := search.turn { r with values } tag
    let (search, others) := search.turns r tag later
    (search, first ++ others)

@[simp] theorem turn_ended (r : Resolver) (tag : Tag) (result : Resolution.Result) :
    (ended result).turn r tag = (ended result, []) := rfl

@[simp] theorem turns_nil (r : Resolver) (tag : Tag) (search : Search) :
    search.turns r tag [] = (search, []) := rfl

@[simp] theorem turns_cons (r : Resolver) (tag : Tag) (values : ValueStore)
    (later : List ValueStore) (search : Search) :
    search.turns r tag (values :: later)
      = (((search.turn { r with values } tag).1.turns r tag later).1,
        (search.turn { r with values } tag).2 ++
          ((search.turn { r with values } tag).1.turns r tag later).2) := rfl

end Search

/-! ## Searches at the same time -/

/-- A turn of the search for an input, with the store as it is then. -/
structure Turn where
  tag : Tag
  values : ValueStore

/-- Searches by their inputs, and the queries made so far, each with the input it was made for. -/
structure Searches where
  search? : Tag → Option Search
  queries : List (Tag × Query) := []

namespace Searches

/-- The searches for some inputs of a description. -/
def start (d : Description) (tags : List Tag) : Searches where
  search? tag := if tag ∈ tags then some (.start tag (d.sources? tag)) else none

/-- The searches after a turn. One of an input that is not searched for changes nothing. -/
def take (r : Resolver) (searches : Searches) (t : Turn) : Searches :=
  match searches.search? t.tag with
  | none => searches
  | some search =>
    let (search, queries) := search.turn { r with values := t.values } t.tag
    { search? := fun tag ↦ if tag = t.tag then some search else searches.search? tag
      queries := searches.queries ++ queries.map (t.tag, ·) }

def run (r : Resolver) (searches : Searches) (turns : List Turn) : Searches :=
  turns.foldl (take r) searches

/-- What the search for an input has come to, once it has ended. -/
def result? (searches : Searches) (tag : Tag) : Option Resolution.Result :=
  searches.search? tag >>= Search.result?

/-- What the searches for some inputs have come to, once all of them have ended. -/
def settled? {τ : Type} (searches : Searches) (input : τ → Tag) (tags : List τ) :
    Option (List (τ × Resolution.Result)) :=
  tags.mapM fun tag ↦ (searches.result? (input tag)).map (tag, ·)

/-- The queries of a trace that were made for an input. -/
def queriesIn (trace : List (Tag × Query)) (tag : Tag) : List Query :=
  (trace.filter (·.1 = tag)).map Prod.snd

/-- The queries made for an input. -/
def queriesFor (searches : Searches) (tag : Tag) : List Query := queriesIn searches.queries tag

end Searches

namespace Resolver

/-- The searches for all observations, after some turns. -/
def observationSearches (r : Resolver) (d : Description) (turns : List Turn) : Searches :=
  (Searches.start d (ObservationTag.all.map .observation)).run r turns

/-- The searches for all forecasts that the run of a description needs, after some turns. -/
def forecastSearches (r : Resolver) (d : Description) (turns : List Turn) : Searches :=
  (Searches.start d (d.requiredForecasts.map .forecast)).run r turns

/-- Resolves all inputs that the run of a description needs in the given turns. Nothing comes of it
before all searches have ended. -/
def assembleInTurns (r : Resolver) (d : Description) (observing forecasting : List Turn) :
    Option (RunInputs × List (Tag × Query)) := do
  let observed := r.observationSearches d observing
  let observations ← observed.settled? .observation ObservationTag.all
  let forecasted := r.forecastSearches d forecasting
  let forecasts ← forecasted.settled? .forecast d.requiredForecasts
  return (.collect d observations forecasts, observed.queries ++ forecasted.queries)

end Resolver

end RoadWeather
