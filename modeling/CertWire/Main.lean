import CertWire.CommandLine.Commands
import Std.Time.Format

/-! The certificate command line as an executable: what it finds in the environment, in
files and on its standard input goes to the library, and the outcome goes to the terminal. -/

namespace CertWire.Main
open CommandLine

/-- The fault behind an error of the system, if it is one of a file that cannot be opened. -/
def openFault? : IO.Error → Option OpenFault
  | .noFileOrDirectory .. => some .notFound
  | .inappropriateType none .. => some .isDirectory
  | .inappropriateType (some _) .. => some .notDirectory
  | .invalidArgument .. => some .nameTooLong
  | _ => none

def readFile (path : String) : IO (Except OpenFault Octets) := do
  if let .error fault := pathOctets path then return .error fault
  try
    return .ok (← IO.FS.readBinFile path).toList
  catch problem =>
    match openFault? problem with
    | some fault => return .error fault
    | none => throw problem

/-- The surroundings, as far as a source of octets needs them. The person at the terminal is
told to type before the standard input is read. -/
def surroundingsFor (source : Option InputSource) (logLevel : Option Text.Points) : IO Surroundings := do
  let input ← IO.getStdin
  let bare : Surroundings := ⟨logLevel, ← input.isTty, [], fun _ => .error .notFound⟩
  match source with
  | some .standardInput =>
    for notice in InputSource.standardInput.notices bare do
      IO.eprint (notice.text "").toString
    return { bare with standardInput := (← input.readBinToEnd).toList }
  | some (.file path) =>
    let content ← readFile path.toString
    return { bare with openFile := fun _ => content }
  | _ => return bare

/-- The time stamp of a log line, with milliseconds. -/
def stamp : IO String := return (← Std.Time.DateTime.now).format "uuuu-MM-dd HH:mm:ss,SSS"

/-- Writes an outcome, but for the prompt, which has been shown. -/
def display (outcome : Outcome) : IO UInt32 := do
  let told : Outcome := { outcome with notices := outcome.notices.filter fun notice => notice ≠ .prompt }
  IO.eprint (told.errorText (← stamp)).toString
  IO.print outcome.output.toString
  return UInt32.ofNat outcome.status

def explanation : Escape → String
  | .cannotOpen fault path => fault.message path
  | .noHexText | .noKind | .noLength => "a separator stands in the place of a value"

/-- Runs the command line and gives the exit status. -/
def execute (arguments : List String) : IO UInt32 := do
  let arguments := arguments.map Text.Points.ofString
  let logLevel := (← IO.getEnv "I2PCERT_LOG_LEVEL").map Text.Points.ofString
  let source := (requestOf logLevel arguments).toOption.bind fun request => request.command.bind Command.source?
  match CommandLine.run (← surroundingsFor source logLevel) arguments with
  | .ok outcome => display outcome
  | .error escape =>
    IO.eprintln (explanation escape)
    return 1

end CertWire.Main

def main (arguments : List String) : IO UInt32 := CertWire.Main.execute arguments
