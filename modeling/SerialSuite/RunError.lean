import SerialSuite.LinkError
import SerialSuite.MessageError

/-!
How a run ends, and what the process reports of it.
-/

namespace SerialSuite

inductive Endpoint where
  | sink | source
  deriving DecidableEq, Repr

def Endpoint.label : Endpoint → String
  | sink => "write sink"
  | source => "read source"

/-- Why a run has no result. -/
inductive RunError where
  | link (error : LinkError)
  | message (error : MessageError)
  | opening (endpoint : Endpoint) (path : String) (cause : IoError)
  deriving DecidableEq, Repr

/-- How a run without an error ends. -/
inductive Ending where
  /-- The last result is in and its state was handed back. -/
  | completed
  /-- A test failed, and the run was to stop at the first failure. -/
  | aborted
  deriving DecidableEq, Repr

namespace ExitCode

def completed : Nat := 0
def aborted : Nat := 1
/-- Broken frames and messages. -/
def protocol : Nat := 2
/-- Endpoints that do not open, failing reads and writes, silence. -/
def link : Nat := 3
/-- A program that breaks off. -/
def brokenOff : Nat := 101

end ExitCode

def Ending.exitCode : Ending → Nat
  | completed => ExitCode.completed
  | aborted => ExitCode.aborted

def Ending.label : Ending → String
  | completed => "Completed"
  | aborted => "Aborted"

namespace RunError

def text : RunError → String
  | link e => e.message
  | message e => s!"malformed event: {e.message}"
  | opening endpoint path cause => s!"failed to open {endpoint.label} {path}: {cause.message}"

def exitCode : RunError → Nat
  | link (.misframed ..) | link (.oversized ..) | message _ => ExitCode.protocol
  | link (.io (.failed _)) | link (.silent _) | opening .. => ExitCode.link
  | link (.io .overflow) => ExitCode.brokenOff

end RunError

/-- What a run that breaks off comes to: nobody is given a result, and nothing is done behind it. -/
def brokenOff : Except RunError Ending := .error (.link (.io .overflow))

theorem ok_ne_brokenOff (ending : Ending) : Except.ok ending ≠ brokenOff := by
  simp [brokenOff]

instance (result : Except RunError Ending) : Decidable (result = brokenOff) :=
  match result with
  | .ok _ => .isFalse nofun
  | .error e => decidable_of_iff (e = .link (.io .overflow)) (by simp [brokenOff])

/-- The exit code of a run. -/
def exitCode : Except RunError Ending → Nat
  | .ok ending => ending.exitCode
  | .error e => e.exitCode

end SerialSuite
