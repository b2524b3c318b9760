import RoadWeather.Catalog.Standard
import RoadWeather.CommandLine
import RoadWeather.Inputs
import RoadWeather.Store.Loading

/-!
# The program

Resolves the inputs of all described runs once: reads the descriptions and the latest values, and
writes what each run would get as JSON.

The program only reads files and says something in the end, so it is a function in whatever monad
files are read in. On files in memory that is no monad at all.
-/

namespace RoadWeather

/-- What the program leaves behind. -/
structure Report where
  /-- The exit status. -/
  status : Nat
  /-- What goes to the standard output. -/
  output : String := ""
  log : List LogLine := []
  /-- Why the program failed. -/
  error : Option String := none
  deriving DecidableEq, Repr

/-- Why the program fails. -/
inductive ProgramError where
  | unreadableSettings (path : String) (fault : ReadFault)
  | malformedSettings (path : String)
  | descriptions (error : StoreError)
  | values (error : StoreError)
  | output (error : Timestamp.WriteError)

def ProgramError.message : ProgramError → String
  | unreadableSettings path fault => s!"error reading {path}: {fault.message}"
  | malformedSettings path => s!"error deserializing {path}"
  | descriptions error => s!"error loading location descriptions: {error.message}"
  | values error => s!"error loading values: {error.message}"
  | output error => error.message

namespace Settings

/-! ## Settings files -/

/-- The settings that count: those of the settings file, as a whole, if one is named and can be
opened, else the given ones. -/
def effective (s : Settings) (path : String) (file : FileContent) : Except ProgramError Settings :=
  match file.text with
  | .ok text =>
    match ofToml? text with
    | some settings => .ok settings
    | none => .error (.malformedSettings path)
  | .error fault => if fault.isOpened then .error (.unreadableSettings path fault) else .ok s

/-- The settings in force. Without the name of a settings file they are the given ones. -/
def inForce {m : Type → Type} [Monad m] (read : String → m FileContent) (s : Settings) :
    m (Except ProgramError Settings) :=
  match s.config with
  | none => pure (.ok s)
  | some path => s.effective path <$> FileContent.readWith read path

end Settings

namespace Program

/-! ## Runs -/

/-- The resolver for the values and descriptions of a store, which answers at once. -/
def resolver (catalog : Catalog) (store : Store) (timeout : Option Duration) :
    Resolver where
  catalog
  values query := { answer := .ok (store.latest? query) }
  descriptions location modelId := .ok (store.description? location modelId)
  timeout

/-- How lines of the log name a run. -/
def runName (location : Location) (modelId : String) : String :=
  s!"{location.describe} / {modelId}"

def refusedLine (d : Description) (e : DescriptionError) : LogLine :=
  ⟨.error, s!"skipping {runName d.location d.modelId}: {e.message}"⟩

def assembledLine (i : RunInputs) : LogLine :=
  if i.isComplete then ⟨.info, s!"{runName i.location i.modelId}: all inputs resolved"⟩
  else ⟨.warn, s!"{runName i.location i.modelId}: run would lack some inputs"⟩

/-- The inputs for a description, unless it does not fit the catalog, and the lines about it. -/
def resolveRun (r : Resolver) (d : Description) : Option RunInputs × List LogLine :=
  match d.checkSources r.catalog with
  | .error e => (none, [refusedLine d e])
  | .ok () =>
    let assembly := r.assemble d
    (some assembly.inputs, assembly.log ++ [assembledLine assembly.inputs])

/-- The descriptions of a store for a model, or for all models. -/
def selected (store : Store) (modelId : Option String) : List Description :=
  store.allDescriptions.filter fun d ↦ modelId.all (· = d.modelId)

/-- Resolves the inputs of all selected runs. -/
def resolveAll (catalog : Catalog) (store : Store) (s : Settings) :
    List RunInputs × List LogLine :=
  let r := resolver catalog store (s.sourceTimeout.map .ofMilliseconds)
  let runs := (selected store s.modelId).map (resolveRun r)
  (runs.filterMap Prod.fst, runs.flatMap Prod.snd)

/-! ## The whole -/

/-- Where the descriptions are, unless set otherwise. -/
def defaultDescriptions : String := "./data/locations.json"

/-- Where the values are, unless set otherwise. -/
def defaultValues : String := "./data/values.json"

def catalogLine (catalog : Catalog) : LogLine :=
  ⟨.info, s!"parameter catalog holds {catalog.size} definitions"⟩

/-- The report of a program that fails after some lines. -/
def failed (e : ProgramError) (log : List LogLine) : Report :=
  { status := 1, log, error := some e.message }

variable {m : Type → Type} [Monad m]

/-- Loads the files and resolves all inputs. -/
def resolveFiles (read : String → m FileContent) (catalog : Catalog) (s : Settings) :
    m Report := do
  let log := [catalogLine catalog]
  let path := s.descriptions.getD defaultDescriptions
  match Store.empty.loadDescriptions path (← FileContent.readWith read path) with
  | .error e => return failed (.descriptions e) log
  | .ok described =>
    let log := log ++ described.log
    let path := s.values.getD defaultValues
    match described.store.loadValues path (← FileContent.readWith read path) with
    | .error e => return failed (.values e) log
    | .ok loaded =>
      let (runs, lines) := resolveAll catalog loaded.store s
      let log := log ++ loaded.log ++ lines
      match RunInputs.listToIndentedText runs with
      | .error e => return failed (.output e) log
      | .ok text => return { status := 0, output := text ++ "\n", log }

/-- Runs the program with the settings of a command line. -/
def runSettings (read : String → m FileContent) (environment : Option String) (s : Settings) :
    m Report := do
  match ← s.inForce read with
  | .error e => return failed e []
  | .ok settings =>
    let report ← resolveFiles read .standard settings
    return { report with log := LogLine.keep (settings.logLevel environment) report.log }

/-- Runs the program with some arguments; `environment` is the log level that holds where none is
set. -/
def run (read : String → m FileContent) (environment : Option String) (arguments : List String) :
    m Report :=
  match CommandLine.read arguments with
  | .error _ => return { status := 2 }
  | .ok .help => return { status := 0, output := CommandLine.helpText }
  | .ok .version => return { status := 0, output := CommandLine.versionText }
  | .ok (.run settings) => runSettings read environment settings

end Program

end RoadWeather
