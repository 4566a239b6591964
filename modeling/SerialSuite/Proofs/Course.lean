import SerialSuite.Proofs.History
import SerialSuite.Proofs.Quiet

/-!
The course of a quiet run on a list of packets: what is heard, with the history before it
(`course`), and how and where the run ends (`verdict`). `drive_course` says that the rounds of the
run take this course and no other.
-/

namespace SerialSuite

namespace History

/-- Each payload up to the one that ends the run, with what was heard before it. -/
def course (m : Mode) (before : History) : List Packet → List (History × Heard)
  | [] => []
  | p :: rest => (before, .ofPayload p.payload) ::
    match before.decision m (.ofPayload p.payload) with
    | .ok none => course m (.ofPayload p.payload :: before) rest
    | _ => []

/-- How the run ends, and the packets that it has not read then. -/
def verdict (m : Mode) (before : History) : List Packet → Except RunError Ending × List Packet
  | [] => (.error (.link (.io Receiver.exhausted)), [])
  | p :: rest =>
    match before.decision m (.ofPayload p.payload) with
    | .ok none => verdict m (.ofPayload p.payload :: before) rest
    | .ok (some ending) => (.ok ending, rest)
    | .error e => (.error e, rest)

/-- The packets that answer a course, in order. -/
def replies (c : List (History × Heard)) : List Packet := c.flatMap fun at_ => at_.1.answers at_.2

variable {m : Mode} {before : History} {p : Packet} {rest : List Packet}

theorem course_of_next (h : before.decision m (.ofPayload p.payload) = .ok none) :
    course m before (p :: rest) =
      (before, .ofPayload p.payload) :: course m (.ofPayload p.payload :: before) rest := by
  simp only [course, h]

theorem course_of_last (h : before.decision m (.ofPayload p.payload) ≠ .ok none) :
    course m before (p :: rest) = [(before, .ofPayload p.payload)] := by
  rw [course]
  split
  · rename_i next
    exact absurd next h
  · rfl

theorem verdict_of_next (h : before.decision m (.ofPayload p.payload) = .ok none) :
    verdict m before (p :: rest) = verdict m (.ofPayload p.payload :: before) rest := by
  simp only [verdict, h]

theorem verdict_of_ending {ending : Ending}
    (h : before.decision m (.ofPayload p.payload) = .ok (some ending)) :
    verdict m before (p :: rest) = (.ok ending, rest) := by
  simp only [verdict, h]

theorem verdict_of_error {e : RunError}
    (h : before.decision m (.ofPayload p.payload) = .error e) :
    verdict m before (p :: rest) = (.error e, rest) := by
  simp only [verdict, h]

theorem left_of_last (h : before.decision m (.ofPayload p.payload) ≠ .ok none) :
    (verdict m before (p :: rest)).2 = rest := by
  rw [verdict]
  split
  · rename_i next
    exact absurd next h
  · rfl
  · rfl

/-- The run has read the packets of the course, and no other. -/
theorem verdict_left (m : Mode) (before : History) (ps : List Packet) :
    (verdict m before ps).2 = ps.drop (course m before ps).length := by
  induction ps generalizing before with
  | nil => rfl
  | cons p rest ih =>
    by_cases next : before.decision m (.ofPayload p.payload) = .ok none
    · rw [verdict_of_next next, course_of_next next, ih]
      rfl
    · rw [left_of_last next, course_of_last next]
      rfl

theorem decision_of_verdict {ending : Ending}
    (h : before.decision m (.ofPayload p.payload) ≠ .ok none)
    (hv : (verdict m before (p :: rest)).1 = .ok ending) :
    before.decision m (.ofPayload p.payload) = .ok (some ending) := by
  rw [verdict] at hv
  split at hv
  · rename_i next
    exact absurd next h
  · rename_i decided
    rw [decided, Except.ok.inj hv]
  · cases hv

end History

open History

/-- What is left of a run that has taken its course. -/
structure Run.Ended (m : Mode) (before : History) (ps : List Packet) (frames : List Bytes)
    (r : Run) : Prop where
  left : r.receiver.pending = (verdict m before ps).2.flatMap Packet.frame
  quiet : r.Quiet (frames ++ (replies (course m before ps)).map Packet.frame)
  completed : (verdict m before ps).1 = .ok .completed → m.stopOnError = true →
    r.suite.progress.tally.failed = 0
  aborted : (verdict m before ps).1 = .ok .aborted → m.stopOnError = true →
    r.suite.progress.tally.failed = 1

theorem Run.ended_of_last {r : Run} {m : Mode} {frames : List Bytes} {before : History}
    {p : Packet} {rest : List Packet} {step : Suite.Step (Except MessageError Reaction)}
    (last : before.decision m (.ofPayload p.payload) ≠ .ok none)
    (agrees : Agrees m before (.ofPayload p.payload) step) (suite_eq : r.suite = step.suite)
    (left : r.receiver.pending = rest.flatMap Packet.frame)
    (quiet : r.Quiet (frames ++ step.replies.map Packet.frame)) :
    r.Ended m before (p :: rest) frames where
  left := by rw [left_of_last last, left]
  quiet := by
    rw [course_of_last last]
    simpa [replies, agrees.replies] using quiet
  completed hv := by
    rw [suite_eq]
    exact agrees.completed (decision_of_verdict last hv)
  aborted hv := by
    rw [suite_eq]
    exact agrees.aborted (decision_of_verdict last hv)

/-- A quiet run on the frames of packets takes their course. -/
theorem Run.drive_course {r : Run} {frames : List Bytes} {before : History} {ps : List Packet}
    (h : r.Quiet frames) (hf : Follows before r.suite)
    (fits : ∀ p ∈ ps, p.payload.length ≤ Packet.maxPayload)
    (hp : r.receiver.pending = ps.flatMap Packet.frame) :
    ∃ r', r.drive = ((verdict r.suite.mode before ps).1, r') ∧
      r'.Ended r.suite.mode before ps frames := by
  -- packet by packet; the suite follows the history, and the frames sent grow with it
  induction ps generalizing r frames before with
  | nil =>
    have early : EndsEarly r.receiver.pending := by simp [EndsEarly, hp]
    obtain ⟨receiver, read, -, left⟩ := Receiver.readPacket_endsEarly r.settle h.steady early
    obtain ⟨ended, quiet, -⟩ := round_broken h read
    refine ⟨_, drive_of_error ended, left, ?_, ?_, ?_⟩
    · simpa [course, replies] using quiet
    · simp [verdict]
    · simp [verdict]
  | cons p rest ih =>
    have fits_p := fits p List.mem_cons_self
    obtain ⟨now, r₁, round, suite_eq, left, quiet, -⟩ := round_packet h fits_p hp
    have agrees := dispatch_agrees hf fits_p now
    rw [agrees.ending] at round
    cases decided : before.decision r.suite.mode (.ofPayload p.payload) with
    | error e =>
      have last : before.decision r.suite.mode (.ofPayload p.payload) ≠ .ok none := by
        simp [decided]
      rw [decided] at round
      refine ⟨r₁, ?_, ended_of_last last agrees suite_eq left quiet⟩
      rw [drive_of_error round, verdict_of_error decided]
    | ok ending =>
      rw [decided] at round
      cases ending with
      | some ending =>
        have last : before.decision r.suite.mode (.ofPayload p.payload) ≠ .ok none := by
          simp [decided]
        refine ⟨r₁, ?_, ended_of_last last agrees suite_eq left quiet⟩
        rw [drive_of_ending round, verdict_of_ending decided]
      | none =>
        have mode_eq : r₁.suite.mode = r.suite.mode := by rw [suite_eq, agrees.mode]
        have follows : Follows (.ofPayload p.payload :: before) r₁.suite := by
          rw [suite_eq]
          exact agrees.follows decided
        have fits_rest : ∀ q ∈ rest, q.payload.length ≤ Packet.maxPayload := by
          intro q hq
          apply fits
          exact List.mem_cons_of_mem p hq
        obtain ⟨r', driven, ended⟩ := ih quiet follows fits_rest left
        rw [mode_eq] at driven ended
        refine ⟨r', ?_, ?_, ?_, ?_, ?_⟩
        · rw [drive_of_next round, driven, verdict_of_next decided]
        · rw [verdict_of_next decided]
          exact ended.left
        · rw [course_of_next decided]
          simpa [replies, agrees.replies, List.append_assoc] using ended.quiet
        · rw [verdict_of_next decided]
          exact ended.completed
        · rw [verdict_of_next decided]
          exact ended.aborted

/-- A run that is about to start on a steady receiver and a reliable sender. -/
structure Run.Ready (r : Run) : Prop where
  steady : r.receiver.Steady
  reliable : r.sender.Reliable
  unsent : r.sender.log = []
  fresh : r.suite = { mode := r.suite.mode }

theorem Run.Ready.quiet {r : Run} (h : r.Ready) : r.Quiet [] :=
  ⟨h.steady, Sender.holds_nil h.reliable h.unsent⟩

/-- What a run on the frames of packets comes to. -/
structure Run.Came (m : Mode) (ps : List Packet) (x : Except RunError Ending) (r : Run) : Prop where
  result : x = (verdict m [] ps).1
  left : r.receiver.pending = (verdict m [] ps).2.flatMap Packet.frame
  accepted : r.sender.accepted =
    (Message.init m.nightly).packet.frame ++ (replies (course m [] ps)).flatMap Packet.frame
  completed : x = .ok .completed → m.stopOnError = true → r.suite.progress.tally.failed = 0
  aborted : x = .ok .aborted → m.stopOnError = true → r.suite.progress.tally.failed = 1

theorem Run.finish_course {r : Run} {ps : List Packet} (h : r.Ready)
    (fits : ∀ p ∈ ps, p.payload.length ≤ Packet.maxPayload)
    (hp : r.receiver.pending = ps.flatMap Packet.frame) :
    Came r.suite.mode ps (r.finish).1 (r.finish).2 := by
  obtain ⟨r₁, quiet, receiver_eq, suite_eq, -, finished⟩ := finish_quiet h.quiet
  have follows : Follows [] r₁.suite := by
    rw [suite_eq, h.fresh]
    exact follows_nil _
  obtain ⟨r₂, driven, ended⟩ := drive_course quiet follows fits (receiver_eq ▸ hp)
  rw [suite_eq] at driven ended
  obtain ⟨journal, finish_eq⟩ := finished _ _ driven
  rw [finish_eq]
  refine ⟨rfl, ended.left, ?_, ended.completed, ended.aborted⟩
  calc
    _ = (r₂.sender.close).2.events.flatMap SinkEvent.bytes := (Sender.flatMap_bytes_events _).symm
    _ = _ := by
      rw [(Sender.close_holds ended.quiet.holds).2, List.flatMap_append, Sender.bytes_sent]
      simp [SinkEvent.bytes, Suite.opening, List.flatMap_def]

end SerialSuite
