/-!
# Log lines

What the program says about its work, as data: a severity and a message.
-/

namespace RoadWeather

/-- The severity of a line, the least first. -/
inductive LogLevel where
  | trace
  | debug
  | info
  | warn
  | error
  deriving DecidableEq, Repr

namespace LogLevel

def rank : LogLevel → Nat
  | trace => 0
  | debug => 1
  | info => 2
  | warn => 3
  | error => 4

def name : LogLevel → String
  | trace => "TRACE"
  | debug => "DEBUG"
  | info => "INFO"
  | warn => "WARN"
  | error => "ERROR"

/-- The level that a setting names, in letters of either case; any other text means `info`. -/
def ofSetting (s : String) : LogLevel :=
  match String.ofList (s.toList.map Char.toLower) with
  | "trace" => trace
  | "debug" => debug
  | "warn" => warn
  | "error" => error
  | _ => info

end LogLevel

/-- A line of the log. -/
structure LogLine where
  level : LogLevel
  message : String
  deriving DecidableEq, Repr

namespace LogLine

def toText (l : LogLine) : String := s!"{l.level.name} {l.message}"

/-- The lines that are at least as severe as a threshold. -/
def keep (threshold : LogLevel) (lines : List LogLine) : List LogLine :=
  lines.filter fun l ↦ threshold.rank ≤ l.level.rank

end LogLine

end RoadWeather
