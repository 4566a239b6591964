import SerialSuite.CommandLine
import SerialSuite.Endpoints
import SerialSuite.Settings

/-!
The program as a whole: what it makes of its arguments, its environment and the files it finds.
-/

namespace SerialSuite

/-- What a call of the program leaves behind. -/
structure Report where
  exitCode : Nat
  output : Bytes := []
  /-- The error output, diagnostics apart. -/
  errors : Bytes := []
  journal : Array Diagnostic := #[]
  tree : FileTree

namespace Program

def usageExitCode : Nat := 2

def errorLine (e : RunError) : String := "Error: " ++ e.text ++ "\n"

/-- What is said at the end of a run. A run that breaks off does not come to say anything; the text
of what broke it stands alone. -/
def lastLine (result : Except RunError Ending) : String :=
  match result with
  | .ok _ => ""
  | .error e => if result = brokenOff then e.text ++ "\n" else errorLine e

/-- What is said of a filter that cannot be read; the run goes on without diagnostics. -/
def filterLine (settings : Settings) : String :=
  match LogFilter.ofText settings.logLevel with
  | .ok _ => ""
  | .error e => "Logging disabled: " ++ e.message ++ "\n"

/-- A run under the settings, before anything has arrived; `clock` is what the clock shows then. -/
def setup (settings : Settings) (nightly stopOnError colour : Bool) (clock : Nat) : Run where
  receiver := { arrivals := [], pacing := settings.pacing, clock }
  suite := { mode := settings.mode nightly stopOnError }
  console := { colour }
  settle := settings.settle

/-- Runs the suite on the files that the settings name. -/
def runSuite (settings : Settings) (nightly stopOnError : Bool) (t : FileTree) (clock : Nat) :
    Report :=
  let early := filterLine settings
  match Endpoints.openIn t settings.sinkPath settings.sourcePath with
  | .error e => { exitCode := e.exitCode, errors := utf8 (early ++ errorLine e), tree := t }
  | .ok ends =>
    let ((result, r), tree) := ends.run (setup settings nightly stopOnError false clock)
    { exitCode := SerialSuite.exitCode result, output := r.console.output
      errors := utf8 (early ++ lastLine result), journal := r.journal, tree }

/-- A call of the program where no output is a terminal. -/
def run (args : List String) (values : Variables) (t : FileTree) (clock : Nat := 0) : Report :=
  let styles := Styled.wanted values false
  match Command.parse args with
  | .error e => { exitCode := usageExitCode, errors := e.message.render styles, tree := t }
  | .ok .help => { exitCode := 0, output := Command.helpMessage.render styles, tree := t }
  | .ok .version => { exitCode := 0, output := Command.versionMessage.render styles, tree := t }
  | .ok (.run nightly stopOnError) =>
    runSuite (Settings.load (.ofVariables values)) nightly stopOnError t clock

end Program

end SerialSuite
