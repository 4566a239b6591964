import SerialSuite.Message
import SerialSuite.RunError
import SerialSuite.Tally

/-!
What a run records about itself, apart from the console.
-/

namespace SerialSuite

inductive Level where
  | trace | debug | info | warn | error
  deriving DecidableEq, Repr

def Level.label : Level → String
  | trace => "TRACE"
  | debug => "DEBUG"
  | info => "INFO"
  | warn => "WARN"
  | error => "ERROR"

inductive Diagnostic where
  | packetDecoded (p : Packet)
  | sending (p : Packet)
  | firstContact
  | unknownCode (code kind : UInt8)
  /-- The target sent what only the host may send. -/
  | hostOnly (code : UInt8)
  | testStarted (name : TestName) (nightlyOnly : Bool) (stateLength : Nat)
  | answering (restoring : Bool)
  | testFinished (name : TestName) (outcome : Outcome) (isFinal : Bool) (elapsed : Duration)
  | aborting (name : TestName)
  | finished (ending : Ending) (tally : Tally)
  | stopped (e : RunError)
  | closeFailed (cause : IoError)
  | consoleFailed (cause : IoError)
  | linkOpen (sink source : String)
  deriving DecidableEq, Repr

def Outcome.label : Outcome → String
  | pass => "Pass"
  | fail => "Fail"

namespace Diagnostic

def level : Diagnostic → Level
  | packetDecoded _ | sending _ => .trace
  | firstContact | testStarted .. | answering _ | testFinished .. | consoleFailed _ | linkOpen .. =>
    .debug
  | aborting _ | finished .. => .info
  | unknownCode .. | hostOnly _ | closeFailed _ => .warn
  | stopped _ => .error

def message : Diagnostic → String
  | packetDecoded _ => "packet decoded"
  | sending _ => "sending packet"
  | firstContact => "first contact from target"
  | unknownCode .. => "ignoring unknown event code"
  | hostOnly _ => "ignoring host-only event sent by target"
  | testStarted .. => "test started"
  | answering _ => "answering state request"
  | testFinished .. => "test finished"
  | aborting _ => "stop-on-error: aborting run"
  | finished .. => "run finished"
  | stopped _ => "run stopped on fatal error"
  | closeFailed _ => "failed to close link sink"
  | consoleFailed _ => "console write failed"
  | linkOpen .. => "link endpoints open"

/-- How many payload bytes a decoded packet is recorded with. -/
def previewLength : Nat := 16

def fields : Diagnostic → List (String × String)
  | packetDecoded p =>
    [("kind", toString p.kind.toNat), ("size", toString p.payload.length),
      ("preview", Bytes.hex (p.payload.take previewLength))]
  | sending p =>
    (p.payload.head?.map fun b => ("code", toString b.toNat)).toList ++
      [("len", toString p.payload.length)]
  | firstContact => []
  | unknownCode code kind => [("code", toString code.toNat), ("kind", toString kind.toNat)]
  | hostOnly code => [("code", toString code.toNat)]
  | testStarted name nightlyOnly stateLength =>
    [("test", name.text), ("nightly_only", toString nightlyOnly),
      ("state_len", toString stateLength)]
  | answering restoring => [("restoring", toString restoring)]
  | testFinished name outcome isFinal elapsed =>
    [("test", name.text), ("outcome", outcome.label), ("is_final", toString isFinal),
      ("elapsed", elapsed.text)]
  | aborting name => [("test", name.text)]
  | finished ending tally => [("outcome", ending.label), ("tally", tally.inspect)]
  | stopped e => [("error", e.text)]
  | closeFailed cause => [("error", cause.message)]
  | consoleFailed cause => [("error", cause.message)]
  | linkOpen sink source => [("sink", sink), ("source", source)]

end Diagnostic

end SerialSuite
