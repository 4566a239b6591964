import SerialSuite.Proofs.Sending

/-!
Quiet runs: the receiver is steady and the sender reliable. A round of such a run does what the
grammar of frames makes of the bytes to come. A packet is a step of the suite, with all replies
sent (`round_packet`); anything else ends the run and leaves the suite as it was (`round_broken`).
-/

namespace SerialSuite

namespace Run

/-- The receiver is steady, and the sender reliable and given these frames so far. -/
structure Quiet (r : Run) (frames : List Bytes) : Prop where
  steady : r.receiver.Steady
  holds : r.sender.Holds frames

/-- A packet at the front of what is to come is a step of the suite; its replies are sent whole. -/
theorem round_packet {r : Run} {frames : List Bytes} {p : Packet} {rest : Bytes}
    (h : r.Quiet frames) (fits : p.payload.length ≤ Packet.maxPayload)
    (hp : r.receiver.pending = p.frame ++ rest) :
    ∃ now r', r.round = ((r.suite.dispatch p now).ending, r') ∧
      r'.suite = (r.suite.dispatch p now).suite ∧ r'.receiver.pending = rest ∧
      r'.Quiet (frames ++ (r.suite.dispatch p now).replies.map Packet.frame) ∧
      r.roundNotices = (r.suite.dispatch p now).notices := by
  obtain ⟨receiver, read, steady, left⟩ :=
    Receiver.readPacket_framed r.settle h.steady (.packet fits) hp
  obtain ⟨journal, round⟩ := round_eq read rfl
  obtain ⟨sender, sent, holds⟩ := Sender.sendAll_holds h.holds (Suite.Step.frames_ne_nil _)
  rw [sent] at round
  refine ⟨.ofMillis receiver.clock, _, round, rfl, left, ⟨steady, holds⟩, ?_⟩
  simp only [roundNotices, read]

/-- A frame with a wrong marker byte, or none, ends the run and leaves the suite as it was. -/
theorem round_broken {r : Run} {frames : List Bytes} {receiver : Receiver} {e : LinkError}
    (h : r.Quiet frames) (read : r.receiver.readPacket r.settle = (.error e, receiver)) :
    r.round = (.error (.link e), { r with receiver }) ∧ { r with receiver }.Quiet frames ∧
      r.roundNotices = [] := by
  refine ⟨round_of_error read, ⟨?_, h.holds⟩, by simp only [roundNotices, read]⟩
  have steady := Receiver.readPacket_steady r.settle h.steady
  rwa [read] at steady

/-- A quiet run goes on quietly. -/
theorem round_quiet {r : Run} {frames : List Bytes} (h : r.Quiet frames) :
    ∃ frames', (r.round).2.Quiet frames' := by
  have steady := Receiver.readPacket_steady r.settle h.steady
  rcases r.round_cases with
    ⟨e, receiver, read, round⟩ | ⟨p, receiver, step, journal, read, -, round⟩
  · rw [read] at steady
    rw [round]
    exact ⟨frames, steady, h.holds⟩
  · obtain ⟨sender, sent, holds⟩ := Sender.sendAll_holds h.holds step.frames_ne_nil
    rw [read] at steady
    rw [sent] at round
    rw [round]
    exact ⟨_, steady, holds⟩

/-- A quiet run does not break off. -/
theorem drive_whole {r : Run} {frames : List Bytes} (h : r.Quiet frames) :
    (r.drive).1 ≠ brokenOff := by
  fun_induction Run.drive r generalizing frames with
  | case1 r r' next ih =>
    obtain ⟨frames', quiet⟩ := round_quiet h
    rw [next] at quiet
    exact ih quiet
  | case2 r ending r' last => simp [brokenOff]
  | case3 r e r' last =>
    have whole := mt r.round_brokenOff_iff.1 (Receiver.readPacket_whole r.settle h.steady)
    rw [last] at whole
    simpa [brokenOff] using whole

/-- A quiet run sends its first packet and goes on quietly. -/
theorem finish_quiet {r : Run} (h : r.Quiet []) : ∃ r' : Run,
    r'.Quiet [r.suite.opening.frame] ∧ r'.receiver = r.receiver ∧ r'.suite = r.suite ∧
    r.notices = r'.driveNotices ∧ ∀ x r'', r'.drive = (x, r'') →
      ∃ journal, r.finish = (x, r''.closed journal) := by
  have opening_ne : r.suite.opening.frame ≠ [] := by simp [Packet.frame]
  obtain ⟨journal, sent⟩ := transmit_eq r.suite.opening_fits
  obtain ⟨sender, taken, holds⟩ := Sender.send_holds h.holds opening_ne
  rw [taken] at sent
  refine ⟨{ r with sender, journal }, ⟨h.steady, holds⟩, rfl, rfl, ?_, fun x r'' driven => ?_⟩
  · simp only [notices, sent]
    rfl
  · obtain ⟨journal', finished⟩ := finish_of_converse ((converse_of_sent sent).trans driven)
    have quiet : Run.Quiet { r with sender, journal } [r.suite.opening.frame] := ⟨h.steady, holds⟩
    have whole := drive_whole quiet
    rw [driven] at whole
    exact ⟨journal', by rw [finished, ended_of_whole _ _ whole]⟩

end Run

end SerialSuite
