import SerialSuite.Diagnostic
import SerialSuite.Notice

/-!
The suite of tests as the host follows it.

The host only answers what the target sends: a request for state with the state held, the start and
the result of a test with the state that came with it, twice. The last result begins the drain, the
next request for state ends it, and the suite with it.
-/

namespace SerialSuite

/-- How far the suite has come. -/
inductive Phase where
  | awaitingFirstContact | running | draining | done
  deriving DecidableEq, Repr

/-- How a suite is to be run. -/
structure Mode where
  nightly : Bool := false
  stopOnError : Bool := false
  /-- What the link itself takes of a test's time. -/
  compensation : Duration := .ofMillis 600
  deriving DecidableEq, Repr

/-- What the host knows of the suite. Instants are counted from a common start. -/
structure Progress where
  test : TestName := .empty
  startedAt : Option Duration := none
  nightlyOnly : Bool := false
  saved : Option SavedState := none
  drained : Bool := false
  tally : Tally := {}
  deriving DecidableEq, Repr

/-- The time since the test started, less the compensation; none if there is no test yet. -/
def Progress.elapsed (p : Progress) (now compensation : Duration) : Duration :=
  match p.startedAt with
  | none => .zero
  | some start => now - start - compensation

/-- What the host has to do about a message. -/
structure Reaction where
  /-- To be sent in order. -/
  replies : List Packet := []
  /-- Stop once the replies are out. -/
  abort : Bool := false
  deriving DecidableEq, Repr

/-- What the host does besides: records and shows. -/
inductive Activity where
  | record (d : Diagnostic)
  | announce (n : Notice)
  deriving DecidableEq, Repr

structure Suite where
  mode : Mode := {}
  phase : Phase := .awaitingFirstContact
  progress : Progress := {}
  deriving DecidableEq, Repr

namespace Suite

/-- A step of the suite: where it leads, what is done on the way, and what comes of it. -/
structure Step (α : Type) where
  suite : Suite
  activity : List Activity
  result : α

/-- The packet that makes the target say something. -/
def opening (s : Suite) : Packet := (Message.init s.mode.nightly).packet

/-- The answer with the state held now. -/
def stateReply (s : Suite) : Packet := (Message.stateResponse s.progress.saved).packet

/-- The acknowledgment of a start and of a result. -/
def acknowledgment (s : Suite) : List Packet := [s.stateReply, s.stateReply]

/-- Ends the suite while it drains. -/
def answerRequest (s : Suite) : Step Reaction where
  suite :=
    if s.phase = .draining then
      { s with phase := .done, progress := { s.progress with drained := true } }
    else s
  activity := [.record (.answering s.progress.saved.isSome)]
  result := { replies := [s.stateReply] }

def beginTest (s : Suite) (name : TestName) (nightlyOnly : Bool) (state : SavedState)
    (now : Duration) : Step Reaction :=
  let s := { s with progress := { s.progress with
    test := name, startedAt := some now, nightlyOnly, saved := some state } }
  { suite := s
    activity :=
      [.record (.testStarted name nightlyOnly state.bytes.length), .announce (.started name)]
    result := { replies := s.acknowledgment } }

/-- A test for nightly runs only does not count in another run, whatever its outcome. -/
def judge (s : Suite) (outcome : Outcome) (now : Duration) : Verdict :=
  let elapsed := s.progress.elapsed now s.mode.compensation
  if s.progress.nightlyOnly && !s.mode.nightly then .skipped
  else match outcome with
    | .pass => .passed elapsed
    | .fail => .failed elapsed

def endTest (s : Suite) (outcome : Outcome) (isFinal : Bool) (state : SavedState)
    (now : Duration) : Step Reaction :=
  let verdict := s.judge outcome now
  let tally := s.progress.tally.count verdict
  let abort := verdict.isFailure && s.mode.stopOnError
  let name := s.progress.test
  let finished := .testFinished name outcome isFinal (s.progress.elapsed now s.mode.compensation)
  let s := { s with
    phase := if isFinal && !abort then .draining else s.phase
    progress := { s.progress with saved := some state, tally } }
  { suite := s
    activity := [.announce (.verdict verdict), .record finished] ++
      if abort then [.record (.aborting name), .announce (.aborted tally)]
      else if isFinal then [.announce (.completed tally)]
      else []
    result := { replies := s.acknowledgment, abort } }

/-- Reacts to a message that arrived at `now`. -/
def handle (s : Suite) (m : Message) (now : Duration) : Step Reaction :=
  match m with
  | .stateRequest => s.answerRequest
  | .testStarted name nightlyOnly state => s.beginTest name nightlyOnly state now
  | .testResult outcome isFinal state => s.endTest outcome isFinal state now
  | .init _ | .stateResponse _ =>
    { suite := s, activity := [.record (.hostOnly m.code.byte)], result := {} }

/-- The first packet of the target, whatever it is, starts the suite. -/
def contact (s : Suite) : Suite × List Activity :=
  if s.phase = .awaitingFirstContact then
    ({ s with phase := .running }, [.record .firstContact])
  else (s, [])

/-- Reacts to a packet. A message that is not known is ignored; a malformed one is an error. -/
def dispatch (s : Suite) (p : Packet) (now : Duration) : Step (Except MessageError Reaction) :=
  let (s, first) := s.contact
  match Message.decode p.payload with
  | .ok m =>
    let step := s.handle m now
    { suite := step.suite, activity := first ++ step.activity, result := .ok step.result }
  | .error (.unknownCode code) =>
    { suite := s, activity := first ++ [.record (.unknownCode code p.kind)], result := .ok {} }
  | .error e => { suite := s, activity := first, result := .error e }

end Suite

end SerialSuite
