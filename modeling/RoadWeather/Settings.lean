import RoadWeather.Log
import RoadWeather.Toml.Document

/-!
# Settings

What a user of the program can set, on the command line or in a settings file. Everything may be
left open; the program has a default for it then.
-/

namespace RoadWeather

/-- The settings of a run of the program. -/
structure Settings where
  /-- The path of a settings file. -/
  config : Option String := none
  /-- The least severity of the lines in the log. -/
  level : Option String := none
  /-- The path of the list of descriptions. -/
  descriptions : Option String := none
  /-- The path of the snapshot of values. -/
  values : Option String := none
  /-- The only model to resolve inputs for. -/
  modelId : Option String := none
  /-- How many milliseconds a source may take. -/
  sourceTimeout : Option Nat := none
  deriving DecidableEq, Repr

namespace Settings

/-- The text of a key, if the key is there; nothing else may stand for it. -/
def text? (t : Toml.Table) (key : String) : Option (Option String) :=
  match t.entries.lookup key with
  | none => some none
  | some (.value (.text s)) => some (some s)
  | some _ => none

/-- The natural number of a key, if the key is there; nothing else may stand for it. -/
def natural? (t : Toml.Table) (key : String) : Option (Option Nat) :=
  match t.entries.lookup key with
  | none => some none
  | some (.value (.integer (.ofNat n))) => some (some n)
  | some _ => none

/-- The settings of a table, in which other keys mean nothing. -/
def ofTable? (t : Toml.Table) : Option Settings := do
  let config ← text? t "config"
  let level ← text? t "level"
  let descriptions ← text? t "descriptions"
  let values ← text? t "values"
  let modelId ← text? t "model_id"
  let sourceTimeout ← natural? t "source_timeout_ms"
  return { config, level, descriptions, values, modelId, sourceTimeout }

/-- The settings of a settings file, if it is well formed. -/
def ofToml? (text : String) : Option Settings := Toml.read? text >>= ofTable?

/-- The least severity of the lines in the log: as set, else as the environment says. -/
def logLevel (s : Settings) (environment : Option String) : LogLevel :=
  .ofSetting (s.level.getD (environment.getD ""))

end Settings

end RoadWeather
