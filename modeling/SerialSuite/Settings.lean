import SerialSuite.FileTree
import SerialSuite.LogFilter
import SerialSuite.Receiver
import SerialSuite.Styled
import SerialSuite.Suite
import SerialSuite.Text.Numeral

/-!
Settings from the environment. Each has its own variable; a variable that is missing, or holds what
does not fit, leaves the default.
-/

namespace SerialSuite

inductive Variable where
  | sinkPath | sourcePath | settle | compensation | poll | timeout | logLevel | logFormat
  deriving DecidableEq, Repr

namespace Variable

def name : Variable → String
  | sinkPath => "TFW_PIPE_WRITE"
  | sourcePath => "TFW_PIPE_READ"
  | settle => "TFW_SETTLE_DELAY_MS"
  | compensation => "TFW_ELAPSED_COMPENSATION_MS"
  | poll => "TFW_POLL_INTERVAL_MS"
  | timeout => "TFW_READ_TIMEOUT_SECS"
  | logLevel => "TFW_LOG_LEVEL"
  | logFormat => "TFW_LOG_FORMAT"

def all : List Variable :=
  [sinkPath, sourcePath, settle, compensation, poll, timeout, logLevel, logFormat]

end Variable

/-- The text of each variable that is set. -/
abbrev Environment := Variable → Option String

/-- A value that is no UTF-8 counts as missing. -/
def Environment.ofVariables (values : Variables) : Environment := fun v =>
  (values v.name).bind fun b => String.fromUTF8? ⟨b.toArray⟩

/-- Times are in milliseconds. -/
structure Settings where
  sinkPath : String := "build/dbgpipe_osread"
  sourcePath : String := "build/dbgpipe_oswrite.txt"
  settle : Nat := 300
  compensation : Nat := 600
  pacing : Pacing := {}
  logLevel : String := "warn"
  logFormat : LogFormat := .pretty
  deriving DecidableEq, Repr

namespace Settings

/-- Bounds of the settle delay. -/
def minSettle : Nat := 300
def maxSettle : Nat := 600

/-- The number that a variable holds, with white space around it or not. -/
def number (env : Environment) (v : Variable) (default : Nat) : Nat :=
  ((env v).bind fun text => Text.numeral? (Text.trim text.toList)).getD default

/-- The text that a variable holds, as it is, unless it is blank. -/
def text (env : Environment) (v : Variable) (default : String) : String :=
  ((env v).filter fun text => !Text.allBlank text.toList).getD default

/-- Zero seconds are no watchdog. -/
def pacingOf (env : Environment) : Pacing where
  poll := max 1 (number env .poll 10)
  limit :=
    let seconds := number env .timeout 0
    if seconds = 0 then none else some (seconds * 1000)
  poll_pos := Nat.le_max_left ..

def load (env : Environment) : Settings where
  sinkPath := text env .sinkPath "build/dbgpipe_osread"
  sourcePath := text env .sourcePath "build/dbgpipe_oswrite.txt"
  settle := min maxSettle (max minSettle (number env .settle minSettle))
  compensation := number env .compensation 600
  pacing := pacingOf env
  logLevel := text env .logLevel "warn"
  logFormat := ((env .logFormat).bind fun text => (LogFormat.ofText text).toOption).getD .pretty

/-- Whether settings are those of an empty environment; paths may be written in another way. -/
def isDefault (s : Settings) : Bool :=
  let default := load fun _ => none
  { s with sinkPath := default.sinkPath, sourcePath := default.sourcePath } = default &&
    FileTree.components s.sinkPath = FileTree.components default.sinkPath &&
    FileTree.components s.sourcePath = FileTree.components default.sourcePath

/-- How the suite is run under these settings. -/
def mode (s : Settings) (nightly stopOnError : Bool) : Mode :=
  { nightly, stopOnError, compensation := .ofMillis s.compensation }

end Settings

end SerialSuite
