import SerialSuite.Console
import SerialSuite.Receiver
import SerialSuite.Sender
import SerialSuite.Suite

/-!
A whole run: open with the init packet, then read a packet, react to it and send the replies, until
the suite is done, a failure aborts it, or an error stops it. The sender is closed in each of these
cases; only a run that breaks off leaves it as it is.

A run ends because each round takes a frame off what is still to come (`round_shrinks`).
-/

namespace SerialSuite

/-- A run at one moment: both ends of the link, the suite, and where its output goes. -/
structure Run where
  receiver : Receiver
  sender : Sender := {}
  suite : Suite := {}
  console : Console := {}
  journal : Array Diagnostic := #[]
  /-- Milliseconds between a sync byte and the rest of its header. -/
  settle : Nat := 300

namespace Run

/-- The instant, counted from the start of the receiver's clock. -/
def now (r : Run) : Duration := .ofMillis r.receiver.clock

def record (r : Run) (d : Diagnostic) : Run := { r with journal := r.journal.push d }

/-- The run with other arrivals still to come. -/
def receiving (r : Run) (arrivals : List Arrival) : Run :=
  { r with receiver := { r.receiver with arrivals } }

theorem pending_receiving (r : Run) (arrivals : List Arrival) :
    (r.receiving arrivals).receiver.pending = arrivals.flatMap Arrival.bytes := rfl

/-- Does what a step of the suite does on its way. -/
def perform (r : Run) : Activity → Run
  | .record d => r.record d
  | .announce n =>
    let (console, failures) := r.console.report n
    { r with console, journal := r.journal ++ failures }

def performAll (r : Run) (activity : List Activity) : Run := activity.foldl perform r

/-- Sends a packet. -/
def transmit (r : Run) (p : Packet) : Except RunError Unit × Run :=
  match p.encode with
  | .error e => (.error (.link e), r)
  | .ok frame =>
    let r := r.record (.sending p)
    match r.sender.send frame with
    | (.error e, sender) => (.error (.link e), { r with sender })
    | (.ok (), sender) => (.ok (), { r with sender })

/-- Sends packets up to the first that fails. -/
def transmitAll (r : Run) : List Packet → Except RunError Unit × Run
  | [] => (.ok (), r)
  | p :: rest =>
    match r.transmit p with
    | (.ok (), r) => r.transmitAll rest
    | (.error e, r) => (.error e, r)

/-- Dispatches a packet: a step of the suite, with all it shows on its way. -/
def dispatch (r : Run) (p : Packet) (now : Duration) : Except MessageError Reaction × Run :=
  let step := r.suite.dispatch p now
  (step.result, { r with suite := step.suite }.performAll step.activity)

/-- Reacts to a packet; the ending, if the run ends with it. -/
def react (r : Run) (p : Packet) : Except RunError (Option Ending) × Run :=
  match r.dispatch p r.now with
  | (.error e, r) => (.error (.message e), r)
  | (.ok reaction, r) =>
    match r.transmitAll reaction.replies with
    | (.error e, r) => (.error e, r)
    | (.ok (), r) =>
      (.ok (if reaction.abort then some .aborted
        else if r.suite.phase = .done then some .completed
        else none), r)

/-- Goes on from what was read. -/
def meet (r : Run) : Except LinkError Packet × Receiver → Except RunError (Option Ending) × Run
  | (.error e, receiver) => (.error (.link e), { r with receiver })
  | (.ok p, receiver) => ({ r with receiver }.record (.packetDecoded p)).react p

/-- Reads one packet and reacts to it. -/
def round (r : Run) : Except RunError (Option Ending) × Run :=
  r.meet (r.receiver.readPacket r.settle)

theorem perform_receiver (r : Run) (a : Activity) : (r.perform a).receiver = r.receiver := by
  cases a <;> rfl

theorem performAll_receiver (r : Run) (activity : List Activity) :
    (r.performAll activity).receiver = r.receiver := by
  induction activity generalizing r with
  | nil => rfl
  | cons a rest ih => exact (ih _).trans (perform_receiver r a)

theorem transmit_receiver (r : Run) (p : Packet) : (r.transmit p).2.receiver = r.receiver := by
  unfold transmit
  split
  · rfl
  · dsimp only
    split <;> rfl

theorem transmitAll_receiver (r : Run) (ps : List Packet) :
    (r.transmitAll ps).2.receiver = r.receiver := by
  induction ps generalizing r with
  | nil => rfl
  | cons p rest ih =>
    have h := transmit_receiver r p
    unfold transmitAll
    split <;> rename_i hp <;> rw [hp] at h
    · exact (ih _).trans h
    · exact h

theorem react_receiver (r : Run) (p : Packet) : (r.react p).2.receiver = r.receiver := by
  have stepped : (r.dispatch p r.now).2.receiver = r.receiver := performAll_receiver ..
  unfold react
  split <;> rename_i hd <;> rw [hd] at stepped
  · exact stepped
  · rename_i reaction r₁
    have h := transmitAll_receiver r₁ reaction.replies
    split <;> rename_i ht <;> rw [ht] at h <;> exact h.trans stepped

/-- A round that does not end the run has taken a frame. -/
theorem round_shrinks {r r' : Run} (h : r.round = (.ok none, r')) :
    r'.receiver.pending.length < r.receiver.pending.length := by
  unfold round meet at h
  split at h
  · cases h
  · rename_i p receiver hp
    have hr := react_receiver ({ r with receiver }.record (.packetDecoded p)) p
    rw [h] at hr
    have := congrArg List.length (Receiver.readPacket_ok hp)
    simp only [List.length_append, Packet.frame_length] at this
    rw [hr]
    simp only [record]
    omega

/-- Rounds until the run ends. -/
def drive (r : Run) : Except RunError Ending × Run :=
  match _h : r.round with
  | (.ok none, r') => r'.drive
  | (.ok (some ending), r') => (.ok ending, r')
  | (.error e, r') => (.error e, r')
termination_by r.receiver.pending.length
decreasing_by exact round_shrinks _h

/-- Sends the first packet, then goes on with the rounds. -/
def converse (r : Run) (rounds : Run → Except RunError Ending × Run := drive) :
    Except RunError Ending × Run :=
  match r.transmit r.suite.opening with
  | (.error e, r) => (.error e, r)
  | (.ok (), r) => rounds r

/-- What is recorded at the end. -/
def conclusion (r : Run) : Except RunError Ending → Diagnostic
  | .ok ending => .finished ending r.suite.progress.tally
  | .error e => .stopped e

/-- Closes the sender; a failure is recorded only. -/
def release (r : Run) : Run :=
  match r.sender.close with
  | (.ok (), sender) => { r with sender }
  | (.error cause, sender) => { r with sender }.record (.closeFailed cause)

/-- Lets go of the run behind its rounds. One that breaks off gets no further. -/
def leave (r : Run) (result : Except RunError Ending) : Run :=
  if result = brokenOff then r else (r.record (r.conclusion result)).release

/-- Runs the suite to its end. -/
def finish (r : Run) (rounds : Run → Except RunError Ending × Run := drive) :
    Except RunError Ending × Run :=
  let (result, r) := r.converse rounds
  (result, r.leave result)

end Run

end SerialSuite
