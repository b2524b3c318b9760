import RoadWeather.Description
import RoadWeather.Log.Interleaving
import RoadWeather.Snapshot
import RoadWeather.Text

/-!
# Resolutions

An input is resolved by trying its candidates in order until one of them gives a usable value: a
store answers in time, the value is plausible, and it converts. A candidate without a usable value
is skipped and the next one is tried. A candidate that the catalog cannot make sense of is a
mistake in the description, which ends the resolution at once.

## What is kept of a resolution

A resolution is data: its result, the queries that it made and the lines that it logged, each with
what it took to get there. Nothing else happens, so a store is a function from queries to replies.
A reply has a delay, and the clock is in that alone. Whether it comes in time is decided by
comparing the delay with the limit, and nothing waits.

The attempts at candidates that were skipped are part of a failure and not of a success. A value
comes with the position of its candidate only, and why those before it were passed over can be read
in the log.
-/

namespace RoadWeather

/-! ## Stores as seen from outside -/

/-- The answer of a store to a query, and how long it takes. -/
structure Reply where
  delay : Duration := 0
  answer : Except String (Option TimedValue)

/-- A store of values. -/
abbrev ValueStore := Query → Reply

/-- What resolves inputs: a catalog, a store of values, a store of descriptions, and how long
a query may take. -/
structure Resolver where
  catalog : Catalog
  values : ValueStore
  descriptions : Location → String → Except String (Option Description)
  timeout : Option Duration := none

/-! ## Candidates -/

/-- Why a candidate is skipped. -/
inductive CandidateFailure where
  | unavailable
  | timedOut (limit : Duration)
  | store (message : String)
  | invalid (error : InvalidValue)
  | noCode (value : Float)

namespace CandidateFailure

def message : CandidateFailure → String
  | unavailable => "no value available"
  | timedOut limit => s!"no answer within {limit.toText}"
  | store message => s!"store error: {message}"
  | invalid error => error.message
  | noCode value => s!"no METRo code for {plainText value}"

/-- How severe it is that the candidate is skipped. -/
def level : CandidateFailure → LogLevel
  | store _ => .warn
  | invalid _ | noCode _ => .info
  | unavailable | timedOut _ => .debug

end CandidateFailure

/-- What comes of a candidate. -/
inductive Outcome where
  | usable (timed : TimedValue) (value : Float)
  | skipped (failure : CandidateFailure)
  | misconfigured (error : ConversionError)

namespace Resolver

/-- The latest value of a source, if there is one in time. An answer that takes exactly as long as
a query may take is in time. -/
def fetch (r : Resolver) (s : DataSource) : Except CandidateFailure TimedValue :=
  let reply := r.values s.query
  let answered :=
    match reply.answer with
    | .ok (some timed) => .ok timed
    | .ok none => .error .unavailable
    | .error message => .error (.store message)
  match r.timeout with
  | some limit => if limit < reply.delay then .error (.timedOut limit) else answered
  | none => answered

/-- What a value of a candidate is good for. -/
def judge (p : Parameter) (tag : Tag) (timed : TimedValue) : Outcome :=
  match p.check timed.value with
  | .error e => .skipped (.invalid e)
  | .ok () =>
    match p.convert tag timed.value with
    | .ok value => .usable timed value
    | .error (.transformationFailed _ value) => .skipped (.noCode value)
    | .error e => .misconfigured e

/-- What comes of a candidate. One with an unknown parameter is not asked for a value. -/
def outcome (r : Resolver) (tag : Tag) (s : DataSource) : Outcome :=
  match r.catalog.get? s.parameter with
  | none => .misconfigured (.unknownParameter s.parameter)
  | some p =>
    match r.fetch s with
    | .error failure => .skipped failure
    | .ok timed => judge p tag timed

/-- The queries made for a candidate. -/
def queries (r : Resolver) (s : DataSource) : List Query :=
  if (r.catalog.get? s.parameter).isSome then [s.query] else []

/-- How long is waited for a candidate. -/
def wait (r : Resolver) (s : DataSource) : Duration :=
  if (r.catalog.get? s.parameter).isSome then
    match r.timeout with
    | some limit => min limit (r.values s.query).delay
    | none => (r.values s.query).delay
  else 0

/-- The steps taken for a candidate: one to go on after a wait, and one to read the value. A query
that is too late or fails reads nothing. -/
def steps (r : Resolver) (s : DataSource) : Nat :=
  if (r.catalog.get? s.parameter).isSome then
    let waking := if (r.values s.query).delay = 0 then 0 else 1
    match r.fetch s with
    | .ok _ | .error .unavailable => waking + 1
    | .error _ => waking
  else 0

end Resolver

/-! ## Results -/

/-- A candidate that was skipped. -/
structure Attempt where
  priority : Nat
  source : DataSource
  failure : CandidateFailure

def Attempt.describe (a : Attempt) : String :=
  s!"#{a.priority} {a.source.describe}: {a.failure.message}"

/-- An input, and where it comes from. -/
structure ResolvedValue where
  value : Float
  timestamp : Timestamp
  source : DataSource
  /-- The position of the source among the candidates. -/
  priority : Nat

/-- Why an input is missing. -/
inductive ResolutionError where
  | noDescription (location : Location) (modelId : String)
  | descriptionStore (message : String)
  | unmapped (tag : Tag)
  | misconfigured (tag : Tag) (source : DataSource) (error : ConversionError)
  | exhausted (tag : Tag) (attempts : List Attempt)

def ResolutionError.message : ResolutionError → String
  | noDescription location modelId =>
    s!"No location description for {location.describe} and model {modelId}"
  | descriptionStore message => s!"Failed to fetch location description: {message}"
  | unmapped tag => s!"No data sources configured for {tag.describe}"
  | misconfigured tag source error =>
    s!"Misconfigured data source for {tag.describe} ({source.describe}): {error.message}"
  | exhausted tag attempts =>
    s!"All {attempts.length} data sources for {tag.describe} failed"

/-- What a resolution comes to. -/
abbrev Resolution.Result := Except ResolutionError ResolvedValue

/-- A resolution: its result, the queries it made and the lines it logged. -/
structure Resolution where
  result : Resolution.Result
  queries : List Query := []
  log : List PacedLine := []

namespace Resolution

/-- The resolution with what came before it. -/
def after (r : Resolution) (queries : List Query) (log : List PacedLine) : Resolution :=
  { r with queries := queries ++ r.queries, log := log ++ r.log }

def lines (r : Resolution) : List LogLine := r.log.map PacedLine.line

end Resolution

/-! ## Resolving -/

namespace Resolver

def skippedLine (tag : Tag) (a : Attempt) : LogLine :=
  ⟨a.failure.level, s!"{tag.describe}: skipping {a.describe}"⟩

def usedLine (tag : Tag) (v : ResolvedValue) : LogLine :=
  ⟨.debug, s!"{tag.describe}: using #{v.priority} {v.source.describe} = {plainText v.value}"⟩

def misconfiguredLine (tag : Tag) (s : DataSource) (e : ConversionError) : LogLine :=
  ⟨.error, s!"{tag.describe}: misconfigured source {s.describe}: {e.message}"⟩

def exhaustedLine (tag : Tag) (attempts : List Attempt) : LogLine :=
  ⟨.warn, s!"{tag.describe}: all {attempts.length} data sources failed"⟩

/-- Tries candidates, after `skipped` ones. -/
def tryFrom (r : Resolver) (tag : Tag) (skipped : List Attempt) : List DataSource → Resolution
  | [] => ⟨.error (.exhausted tag skipped), [], [⟨0, 0, exhaustedLine tag skipped⟩]⟩
  | s :: rest =>
    let priority := skipped.length
    let log (line : LogLine) : List PacedLine := [⟨r.wait s, r.steps s, line⟩]
    match r.outcome tag s with
    | .usable timed value =>
      let resolved : ResolvedValue := ⟨value, timed.timestamp, s, priority⟩
      ⟨.ok resolved, r.queries s, log (usedLine tag resolved)⟩
    | .misconfigured e =>
      ⟨.error (.misconfigured tag s e), r.queries s, log (misconfiguredLine tag s e)⟩
    | .skipped failure =>
      let attempt : Attempt := ⟨priority, s, failure⟩
      (r.tryFrom tag (skipped ++ [attempt]) rest).after (r.queries s)
        (log (skippedLine tag attempt))

/-- Resolves an input from its candidates, if it is mapped to any. -/
def resolveSources (r : Resolver) (tag : Tag) : Option (List DataSource) → Resolution
  | none => { result := .error (.unmapped tag) }
  | some sources => r.tryFrom tag [] sources

/-- Resolves an input of a description. -/
def resolve (r : Resolver) (d : Description) (tag : Tag) : Resolution :=
  r.resolveSources tag (d.sources? tag)

/-- The description for a place and a model, which must be there. -/
def description (r : Resolver) (location : Location) (modelId : String) :
    Except ResolutionError Description :=
  match r.descriptions location modelId with
  | .error message => .error (.descriptionStore message)
  | .ok none => .error (.noDescription location modelId)
  | .ok (some d) => .ok d

/-- Looks a description up and resolves an input of it. -/
def resolveAt (r : Resolver) (location : Location) (modelId : String) (tag : Tag) : Resolution :=
  match r.description location modelId with
  | .error e => { result := .error e }
  | .ok d => r.resolve d tag

end Resolver

end RoadWeather
