import RoadWeather.Program

/-!
# The command

The program on the files of a disk: the log and errors go to the standard error stream, the inputs
to the standard output.
-/

namespace RoadWeather.Command

/-- Why the operating system gives no content. A path through a file is refused when it is opened,
which the error names; a directory only when it is read. -/
def fault : IO.Error → ReadFault
  | .noFileOrDirectory .. => .missing
  | .permissionDenied .. => .other "Permission denied (os error 13)"
  | .inappropriateType (some _) _ _ => .notDirectory
  | .inappropriateType none _ _ => .isDirectory
  | .invalidArgument _ 36 _ => .nameTooLong
  | e => .other (toString e)

def read (path : String) : IO FileContent := do
  match ← (IO.FS.readBinFile path).toBaseIO with
  | .ok bytes => return .ok bytes
  | .error e => return .error (fault e)

end RoadWeather.Command

open RoadWeather in
def main (arguments : List String) : IO UInt32 := do
  let report ← Program.run Command.read (← IO.getEnv "RUST_LOG") arguments
  for line in report.log do
    IO.eprintln line.toText
  if let some message := report.error then
    IO.eprintln s!"Error: {message}"
  if report.status = 2 then
    IO.eprint CommandLine.helpText
  IO.print report.output
  return report.status.toUInt32
