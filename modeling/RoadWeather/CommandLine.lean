import RoadWeather.Settings

/-!
# Command lines

The options that the program takes, and the reading of a command line.

The value of an option stands in the same argument or in the next one. In the first case the option
is complete at once. In the second it waits, and only the next option, or the end of the line,
brings to light what is wrong with it. An argument that has no meaning at all is reported before
that.
-/

namespace RoadWeather

/-! ## Options -/

/-- An option that takes a value. -/
inductive CommandOption where
  | config
  | level
  | descriptions
  | values
  | modelId
  | sourceTimeout
  deriving DecidableEq, Repr

namespace CommandOption

def all : List CommandOption := [config, level, descriptions, values, modelId, sourceTimeout]

def letter : CommandOption → Char
  | config => 'c'
  | level => 'l'
  | descriptions => 'd'
  | values => 'v'
  | modelId => 'm'
  | sourceTimeout => 's'

def name : CommandOption → String
  | config => "config"
  | level => "level"
  | descriptions => "descriptions"
  | values => "values"
  | modelId => "model-id"
  | sourceTimeout => "source-timeout-ms"

def placeholder : CommandOption → String
  | config => "CONFIG"
  | level => "LEVEL"
  | descriptions => "DESCRIPTIONS"
  | values => "VALUES"
  | modelId => "MODEL_ID"
  | sourceTimeout => "SOURCE_TIMEOUT_MS"

def help : CommandOption → String
  | config => "Path to Settings.toml file holding the rest of the cli options"
  | level => "Set the log level (default: info)"
  | descriptions =>
    "Path to the JSON list of METRo location descriptions (default: ./data/locations.json)"
  | values =>
    "Path to the JSON snapshot of latest measurements and forecasts (default: ./data/values.json)"
  | modelId => "Only resolve descriptions for this target model id"
  | sourceTimeout => "Give up on a single data source after this many milliseconds"

def ofLetter? (c : Char) : Option CommandOption := all.find? (·.letter = c)

def ofName? (s : String) : Option CommandOption := all.find? (·.name = s)

end CommandOption

/-! ## Results -/

/-- What a command line asks for. -/
inductive CommandRequest where
  | run (settings : Settings)
  | help
  | version
  deriving DecidableEq, Repr

/-- Why a command line asks for nothing. -/
inductive UsageError where
  | unknownArgument
  | missingValue
  | invalidValue
  | repeatedOption
  | unwantedValue
  deriving DecidableEq, Repr

/-! ## Words -/

/-- What an argument is by itself. -/
inductive CommandWord where
  /-- The mark after which there are no more options. -/
  | divider
  | option (o : CommandOption) (value : Option String)
  | request (r : CommandRequest)
  /-- A request with a value, which it does not take. -/
  | overfull
  /-- What looks like an option and is none. -/
  | unknown
  | text (s : String)
  deriving DecidableEq, Repr

namespace CommandWord

/-- A name after two dashes, with a value after an equals sign if there is one. -/
def long (s : List Char) : CommandWord :=
  let name := String.ofList (s.takeWhile (· ≠ '='))
  let value :=
    match s.dropWhile (· ≠ '=') with
    | [] => none
    | _ :: value => some (String.ofList value)
  match CommandOption.ofName? name with
  | some o => .option o value
  | none =>
    if name = "help" ∨ name = "version" then
      if value.isSome then .overfull
      else .request (if name = "help" then .help else .version)
    else .unknown

/-- A letter after one dash, with a value right behind it or after an equals sign. -/
def short (c : Char) (s : List Char) : CommandWord :=
  match CommandOption.ofLetter? c with
  | some o =>
    .option o <|
      match s with
      | [] => none
      | '=' :: value => some (String.ofList value)
      | value => some (String.ofList value)
  | none =>
    if c = 'h' then .request .help
    else if c = 'V' then .request .version
    else .unknown

/-- What an argument is by itself. A single dash is an ordinary word. -/
def ofArgument (s : String) : CommandWord :=
  match s.toList with
  | ['-', '-'] => .divider
  | '-' :: '-' :: s => long s
  | '-' :: c :: s => short c s
  | _ => .text s

end CommandWord

/-! ## Reading -/

namespace Settings

/-- A natural number of 64 bits. -/
def milliseconds? (s : String) : Option Nat :=
  let digits :=
    match s.toList with
    | '+' :: digits => digits
    | digits => digits
  let n := Nat.ofDigitChars 10 digits 0
  if digits ≠ [] ∧ digits.all Char.isDigit ∧ n < Nat.pow 2 64 then some n else none

def has (s : Settings) : CommandOption → Bool
  | .config => s.config.isSome
  | .level => s.level.isSome
  | .descriptions => s.descriptions.isSome
  | .values => s.values.isSome
  | .modelId => s.modelId.isSome
  | .sourceTimeout => s.sourceTimeout.isSome

/-- Takes the value of an option in. An option may be given only once. -/
def give (s : Settings) (o : CommandOption) (value : String) : Except UsageError Settings :=
  if s.has o then .error .repeatedOption
  else match o with
    | .config => .ok { s with config := some value }
    | .level => .ok { s with level := some value }
    | .descriptions => .ok { s with descriptions := some value }
    | .values => .ok { s with values := some value }
    | .modelId => .ok { s with modelId := some value }
    | .sourceTimeout =>
      match milliseconds? value with
      | some n => .ok { s with sourceTimeout := some n }
      | none => .error .invalidValue

end Settings

namespace CommandLine

/-- An option whose value is another argument, and that argument once it has come. -/
structure Waiting where
  option : CommandOption
  value : Option String := none
  deriving DecidableEq, Repr

/-- Takes the option that waits in, if there is one. -/
def settle (s : Settings) : Option Waiting → Except UsageError Settings
  | none => .ok s
  | some ⟨_, none⟩ => .error .missingValue
  | some ⟨o, some value⟩ => s.give o value

/-- Reads arguments after some settings and perhaps an option that waits. -/
def readFrom (s : Settings) (waiting : Option Waiting) :
    List String → Except UsageError CommandRequest
  | [] => (settle s waiting).map .run
  | argument :: rest =>
    match CommandWord.ofArgument argument with
    | .divider => if rest = [] then (settle s waiting).map .run else .error .unknownArgument
    | .option o value => do
      -- Only now does it show whether the option before this one has its value.
      let s ← settle s waiting
      match value with
      | some value => readFrom (← s.give o value) none rest
      | none => readFrom s (some ⟨o, none⟩) rest
    | .request r => (settle s waiting).map fun _ ↦ r
    | .overfull => .error .unwantedValue
    | .unknown => .error .unknownArgument
    | .text value =>
      match waiting with
      | some ⟨o, none⟩ => readFrom s (some ⟨o, some value⟩) rest
      | _ => .error .unknownArgument

/-- What a command line asks for. -/
def read (arguments : List String) : Except UsageError CommandRequest :=
  readFrom {} none arguments

/-! ## Help -/

def helpText : String :=
  let options := CommandOption.all.map fun o ↦
    (s!"-{o.letter}, --{o.name} <{o.placeholder}>", o.help)
  let requests := [("-h, --help", "Print help"), ("-V, --version", "Print version")]
  let entries := (options ++ requests).map fun (option, help) ↦
    s!"  {option}\n          {help}\n"
  "METRo input resolution for road weather stations\n\nUsage: rwis [OPTIONS]\n\nOptions:\n" ++
    String.join entries

def versionText : String := "rwis 0.1.0\n"

end CommandLine

end RoadWeather
