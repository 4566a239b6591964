import SerialSuite.Proofs.Reliable
import SerialSuite.Proofs.Steady
import SerialSuite.Run

/-!
One round of a run, and from it the whole run. A frame lemma for each operation says which parts of
a run it may change (`react_frame`); equations say where a round leads the run.

The notices of a run are what it has for the console, whatever the console makes of them
(`finish_console`).
-/

namespace SerialSuite

/-- The notice that an activity announces. -/
def Activity.notice? : Activity → Option Notice
  | .record _ => none
  | .announce n => some n

/-- The console after notices in order. -/
def Console.reportAll (c : Console) (ns : List Notice) : Console :=
  ns.foldl (fun c n => (c.report n).1) c

theorem Console.reportAll_append (c : Console) (a b : List Notice) :
    c.reportAll (a ++ b) = (c.reportAll a).reportAll b := List.foldl_append

namespace Suite.Step

/-- The packets to be sent for a step. -/
def replies (s : Step (Except MessageError Reaction)) : List Packet :=
  match s.result with
  | .ok reaction => reaction.replies
  | .error _ => []

/-- What a step means for the run: an error, an ending, or neither. -/
def ending (s : Step (Except MessageError Reaction)) : Except RunError (Option Ending) :=
  match s.result with
  | .error e => .error (.message e)
  | .ok reaction => .ok (if reaction.abort then some .aborted
      else if s.suite.phase = .done then some .completed
      else none)

def notices (s : Step α) : List Notice := s.activity.filterMap Activity.notice?

end Suite.Step

namespace Run

/-- The notices of a round. -/
def roundNotices (r : Run) : List Notice :=
  match r.receiver.readPacket r.settle with
  | (.ok p, receiver) => (r.suite.dispatch p (.ofMillis receiver.clock)).notices
  | (.error _, _) => []

/-- The notices of all rounds to come. -/
def driveNotices (r : Run) : List Notice :=
  r.roundNotices ++
    match _h : r.round with
    | (.ok none, r') => r'.driveNotices
    | _ => []
termination_by r.receiver.pending.length
decreasing_by exact round_shrinks _h

/-- The notices of a whole run, from its first packet on. -/
def notices (r : Run) : List Notice :=
  match r.transmit r.suite.opening with
  | (.error _, _) => []
  | (.ok (), r) => r.driveNotices

/-! What an operation leaves alone. -/

theorem performAll_frame (r : Run) (activity : List Activity) : ∃ journal,
    r.performAll activity =
      { r with console := r.console.reportAll (activity.filterMap Activity.notice?), journal } := by
  induction activity generalizing r with
  | nil => exact ⟨r.journal, rfl⟩
  | cons a rest ih =>
    obtain ⟨journal, h⟩ := ih (r.perform a)
    refine ⟨journal, ?_⟩
    cases a with
    | record d => exact h
    | announce n => exact h

theorem transmit_frame (r : Run) (p : Packet) :
    ∃ sender journal, (r.transmit p).2 = { r with sender, journal } := by
  unfold transmit
  split
  · exact ⟨r.sender, r.journal, rfl⟩
  · dsimp only
    split <;> exact ⟨_, _, rfl⟩

theorem transmitAll_frame (r : Run) (ps : List Packet) :
    ∃ sender journal, (r.transmitAll ps).2 = { r with sender, journal } := by
  induction ps generalizing r with
  | nil => exact ⟨r.sender, r.journal, rfl⟩
  | cons p rest ih =>
    obtain ⟨sender, journal, first⟩ := transmit_frame r p
    unfold transmitAll
    split <;> rename_i hp <;> rw [hp] at first
    · obtain ⟨sender', journal', later⟩ := ih { r with sender, journal }
      exact ⟨sender', journal', by rw [← later, ← first]⟩
    · exact ⟨sender, journal, first⟩

/-- The run once a packet has been dispatched, before the replies are sent. -/
def stepped (r : Run) (p : Packet) : Run := (r.dispatch p r.now).2

theorem stepped_frame (r : Run) (p : Packet) : ∃ journal, r.stepped p =
    { r with
      suite := (r.suite.dispatch p r.now).suite
      console := r.console.reportAll (r.suite.dispatch p r.now).notices, journal } :=
  performAll_frame ..

theorem react_eq_error {r : Run} {p : Packet} {e : MessageError}
    (h : (r.suite.dispatch p r.now).result = .error e) :
    r.react p = (.error (.message e), r.stepped p) := by
  simp only [react, dispatch, h, stepped]

theorem react_of_sent {r r' : Run} {p : Packet} {reaction : Reaction}
    (h : (r.suite.dispatch p r.now).result = .ok reaction)
    (sent : (r.stepped p).transmitAll reaction.replies = (.ok (), r')) :
    r.react p = (.ok (if reaction.abort then some .aborted
      else if r'.suite.phase = .done then some .completed
      else none), r') := by
  rw [stepped, dispatch] at sent
  simp only [react, dispatch, h, sent]

theorem react_frame (r : Run) (p : Packet) : ∃ sender journal, (r.react p).2 =
    { r with
      suite := (r.suite.dispatch p r.now).suite
      console := r.console.reportAll (r.suite.dispatch p r.now).notices, sender, journal } := by
  obtain ⟨journal, stepped_eq⟩ := stepped_frame r p
  have sent : ∃ sender journal, (r.react p).2 = { r.stepped p with sender, journal } := by
    cases result : (r.suite.dispatch p r.now).result with
    | error e =>
      rw [react_eq_error result]
      exact ⟨_, _, rfl⟩
    | ok reaction =>
      obtain ⟨sender, journal, sent⟩ := transmitAll_frame (r.stepped p) reaction.replies
      refine ⟨sender, journal, ?_⟩
      simp only [react, dispatch, result]
      rw [← sent]
      split <;> rename_i ht <;> exact (congrArg Prod.snd ht).symm
  obtain ⟨sender, journal', sent⟩ := sent
  rw [stepped_eq] at sent
  exact ⟨sender, journal', sent⟩

theorem round_of_read {r : Run} {p : Packet} {receiver : Receiver}
    (h : r.receiver.readPacket r.settle = (.ok p, receiver)) :
    r.round = ({ r with receiver }.record (.packetDecoded p)).react p := by
  simp only [round, meet, h]

theorem round_of_error {r : Run} {e : LinkError} {receiver : Receiver}
    (h : r.receiver.readPacket r.settle = (.error e, receiver)) :
    r.round = (.error (.link e), { r with receiver }) := by
  simp only [round, meet, h]

theorem drive_of_next {r r' : Run} (h : r.round = (.ok none, r')) : r.drive = r'.drive := by
  rw [drive]
  split <;> simp_all

theorem drive_of_ending {r r' : Run} {ending : Ending} (h : r.round = (.ok (some ending), r')) :
    r.drive = (.ok ending, r') := by
  rw [drive]
  split <;> simp_all

theorem drive_of_error {r r' : Run} {e : RunError} (h : r.round = (.error e, r')) :
    r.drive = (.error e, r') := by
  rw [drive]
  split <;> simp_all

theorem driveNotices_of_next {r r' : Run} (h : r.round = (.ok none, r')) :
    r.driveNotices = r.roundNotices ++ r'.driveNotices := by
  rw [driveNotices]
  split <;> simp_all

theorem driveNotices_of_last {r : Run} (h : ∀ r', r.round ≠ (.ok none, r')) :
    r.driveNotices = r.roundNotices := by
  rw [driveNotices]
  split <;> simp_all

/-! The notices account for all that reaches the console. -/

theorem round_console (r : Run) : (r.round).2.console = r.console.reportAll r.roundNotices := by
  cases read : r.receiver.readPacket r.settle with
  | mk result receiver =>
    cases result with
    | error e =>
      rw [round_of_error read]
      simp only [roundNotices, read]
      rfl
    | ok p =>
      obtain ⟨sender, journal, reacted⟩ :=
        react_frame ({ r with receiver }.record (.packetDecoded p)) p
      rw [round_of_read read, reacted]
      simp only [roundNotices, read]
      rfl

theorem drive_console (r : Run) : (r.drive).2.console = r.console.reportAll r.driveNotices := by
  -- on what is to come: a round that goes on takes a frame off it
  induction hn : r.receiver.pending.length using Nat.strongRecOn generalizing r with
  | ind n ih =>
    subst hn
    have shown := round_console r
    cases hr : r.round with
    | mk result r' =>
      rw [hr] at shown
      rcases result with e | ending
      · rw [drive_of_error hr, driveNotices_of_last (by simp [hr])]
        exact shown
      · cases ending with
        | none =>
          rw [drive_of_next hr, driveNotices_of_next hr, Console.reportAll_append, ← shown]
          exact ih _ (round_shrinks hr) r' rfl
        | some ending =>
          rw [drive_of_ending hr, driveNotices_of_last (by simp [hr])]
          exact shown

theorem release_frame (r : Run) :
    ∃ journal, r.release = { r with sender := (r.sender.close).2, journal } := by
  unfold release
  split <;> rename_i closed <;> rw [closed] <;> exact ⟨_, rfl⟩

/-- The run with its sender closed. -/
def closed (r : Run) (journal : Array Diagnostic) : Run :=
  { r with sender := (r.sender.close).2, journal }

/-- The run as it ends with a result: closed, unless it breaks off. -/
def ended (r : Run) (result : Except RunError Ending) (journal : Array Diagnostic) : Run :=
  if result = brokenOff then { r with journal } else r.closed journal

section ended
variable (r : Run) (result : Except RunError Ending) (journal : Array Diagnostic)

theorem ended_brokenOff : r.ended brokenOff journal = { r with journal } := if_pos rfl

theorem ended_of_whole {result : Except RunError Ending} (whole : result ≠ brokenOff) :
    r.ended result journal = r.closed journal := if_neg whole

theorem ended_sender : (r.ended result journal).sender =
    if result = brokenOff then r.sender else (r.sender.close).2 := by
  unfold ended
  split <;> rfl

@[simp] theorem ended_receiver : (r.ended result journal).receiver = r.receiver := by
  unfold ended
  split <;> rfl

@[simp] theorem ended_suite : (r.ended result journal).suite = r.suite := by
  unfold ended
  split <;> rfl

@[simp] theorem ended_console : (r.ended result journal).console = r.console := by
  unfold ended
  split <;> rfl

end ended

theorem finish_of_converse {r r' : Run} {x : Except RunError Ending} (h : r.converse = (x, r')) :
    ∃ journal, r.finish = (x, r'.ended x journal) := by
  by_cases broken : x = brokenOff
  · subst broken
    refine ⟨r'.journal, ?_⟩
    rw [ended_brokenOff, finish, h]
    rfl
  · obtain ⟨journal, released⟩ := release_frame (r'.record (r'.conclusion x))
    refine ⟨journal, ?_⟩
    rw [ended_of_whole r' journal broken]
    simp only [finish, h, leave, if_neg broken, released]
    rfl

theorem converse_of_sent {r r' : Run} (h : r.transmit r.suite.opening = (.ok (), r')) :
    r.converse = r'.drive := by
  simp only [converse, h]

theorem converse_of_unsent {r r' : Run} {e : RunError}
    (h : r.transmit r.suite.opening = (.error e, r')) : r.converse = (.error e, r') := by
  simp only [converse, h]

/-- A run reports its notices to the console, in order, and nothing else. -/
theorem finish_console (r : Run) : (r.finish).2.console = r.console.reportAll r.notices := by
  obtain ⟨sender, journal, opened⟩ := transmit_frame r r.suite.opening
  have kept : (r.transmit r.suite.opening).2.console = r.console := by rw [opened]
  cases first : r.transmit r.suite.opening with
  | mk result r' =>
    rw [first] at kept
    cases result with
    | error e =>
      obtain ⟨_, finished⟩ := finish_of_converse (converse_of_unsent first)
      simp only [finished, ended_console, notices, first]
      exact kept
    | ok =>
      obtain ⟨_, finished⟩ := finish_of_converse (converse_of_sent first)
      simp only [finished, ended_console, notices, first, ← kept]
      exact drive_console r'

end Run

end SerialSuite
