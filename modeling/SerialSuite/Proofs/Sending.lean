import SerialSuite.Proofs.Rounds

/-!
What a run sends. Every reply of the suite fits a frame (`dispatch_replies_fit`), so that only the
sender can fail. What a round makes of a packet then depends on the suite, the instant and the
sender, and on nothing else (`round_eq`); where nothing is read, a round is the error of its read
(`round_cases`).
-/

namespace SerialSuite

/-- Sends frames up to the first that fails. -/
def Sender.sendAll (s : Sender) : List Bytes → Except LinkError Unit × Sender
  | [] => (.ok (), s)
  | f :: rest =>
    match s.send f with
    | (.ok (), s) => s.sendAll rest
    | (.error e, s) => (.error e, s)

theorem Sender.sendAll_of_sent {s s' : Sender} {f : Bytes} (h : s.send f = (.ok (), s'))
    (rest : List Bytes) : s.sendAll (f :: rest) = s'.sendAll rest := by
  simp only [sendAll, h]

theorem Sender.sendAll_of_unsent {s s' : Sender} {f : Bytes} {e : LinkError}
    (h : s.send f = (.error e, s')) (rest : List Bytes) :
    s.sendAll (f :: rest) = (.error e, s') := by
  simp only [sendAll, h]

/-- A sender knows no deadlines. -/
theorem Sender.send_whole (s : Sender) (f : Bytes) : (s.send f).1 ≠ .error (.io .overflow) := by
  unfold send
  split
  · simp
  · split <;> simp

theorem Sender.sendAll_whole (s : Sender) (frames : List Bytes) :
    (s.sendAll frames).1 ≠ .error (.io .overflow) := by
  induction frames generalizing s with
  | nil => simp [sendAll]
  | cons f rest ih =>
    have first := s.send_whole f
    unfold sendAll
    split <;> rename_i sent
    · exact ih _
    · rwa [sent] at first

/-- A reliable sender takes frames whole. -/
theorem Sender.sendAll_holds {s : Sender} {frames more : List Bytes} (h : s.Holds frames)
    (nonempty : ∀ f ∈ more, f ≠ []) :
    ∃ s', s.sendAll more = (.ok (), s') ∧ s'.Holds (frames ++ more) := by
  induction more generalizing s frames with
  | nil => exact ⟨s, rfl, by simpa using h⟩
  | cons f rest ih =>
    obtain ⟨s', sent, hs'⟩ := send_holds h (nonempty f List.mem_cons_self)
    obtain ⟨s'', all, hs''⟩ := ih hs' (fun g hg => nonempty g (List.mem_cons_of_mem f hg))
    exact ⟨s'', (sendAll_of_sent sent rest).trans all, by simpa using hs''⟩

namespace Suite.Step

/-- The frames to be sent for a step. -/
def frames (s : Step (Except MessageError Reaction)) : List Bytes := s.replies.map Packet.frame

/-- What a step means for the run, with its frames sent or not. -/
def outcome (s : Step (Except MessageError Reaction)) :
    Except LinkError Unit → Except RunError (Option Ending)
  | .ok () => s.ending
  | .error e => .error (.link e)

theorem outcome_whole (s : Step (Except MessageError Reaction)) {sent : Except LinkError Unit}
    (whole : sent ≠ .error (.io .overflow)) : s.outcome sent ≠ .error (.link (.io .overflow)) := by
  cases sent with
  | ok => cases result : s.result <;> simp [outcome, ending, result]
  | error e => simpa [outcome] using whole

theorem frames_ne_nil (s : Step (Except MessageError Reaction)) : ∀ f ∈ s.frames, f ≠ [] := by
  intro f hf
  obtain ⟨p, -, rfl⟩ := List.mem_map.1 hf
  simp [Packet.frame]

end Suite.Step

theorem Suite.opening_fits (s : Suite) : s.opening.payload.length ≤ Packet.maxPayload := by
  simp [opening, Message.packet, Packet.host, Message.encode, Packet.maxPayload]

theorem Suite.stateReply_fits (s : Suite) : s.stateReply.payload.length ≤ Packet.maxPayload := by
  unfold stateReply
  cases s.progress.saved with
  | none => decide
  | some state =>
    have fits : Code.stateOffset + state.bytes.length ≤ Packet.maxPayload :=
      Nat.add_le_of_le_sub' (by decide) state.length_le
    simpa only [Message.packet, Packet.host, Message.encode, Message.length_withState] using fits

theorem Suite.handle_replies (s : Suite) (m : Message) (now : Duration) {q : Packet}
    (h : q ∈ (s.handle m now).result.replies) : ∃ s' : Suite, q = s'.stateReply := by
  cases m with
  | init nightly => simp [handle] at h
  | stateResponse state => simp [handle] at h
  | stateRequest => exact ⟨s, by simpa [handle, answerRequest] using h⟩
  | testStarted name nightlyOnly state =>
    simp only [handle, beginTest, acknowledgment, List.mem_cons, List.not_mem_nil, or_false,
      or_self] at h
    exact ⟨_, h⟩
  | testResult outcome isFinal state =>
    simp only [handle, endTest, acknowledgment, List.mem_cons, List.not_mem_nil, or_false,
      or_self] at h
    exact ⟨_, h⟩

/-- Every reply fits a frame. -/
theorem Suite.dispatch_replies_fit (s : Suite) (p : Packet) (now : Duration) {q : Packet}
    (h : q ∈ (s.dispatch p now).replies) : q.payload.length ≤ Packet.maxPayload := by
  unfold Step.replies dispatch at h
  split at h
  · rename_i reaction result
    dsimp only at result
    split at result
    · rename_i m _
      obtain rfl := Except.ok.inj result
      obtain ⟨s', rfl⟩ := handle_replies _ m now h
      exact s'.stateReply_fits
    · obtain rfl := Except.ok.inj result
      simp at h
    · cases result
  · simp at h

namespace Run

theorem transmit_eq {r : Run} {p : Packet} (fits : p.payload.length ≤ Packet.maxPayload) :
    ∃ journal, r.transmit p = ((r.sender.send p.frame).1.mapError .link,
      { r with sender := (r.sender.send p.frame).2, journal }) := by
  refine ⟨r.journal.push (.sending p), ?_⟩
  simp only [transmit, Receiver.encode_eq_ok_iff.2 ⟨fits, rfl⟩, record]
  cases r.sender.send p.frame with
  | mk result sender => cases result <;> rfl

theorem transmitAll_eq {r : Run} {ps : List Packet}
    (fits : ∀ p ∈ ps, p.payload.length ≤ Packet.maxPayload) :
    ∃ journal, r.transmitAll ps = ((r.sender.sendAll (ps.map Packet.frame)).1.mapError .link,
      { r with sender := (r.sender.sendAll (ps.map Packet.frame)).2, journal }) := by
  induction ps generalizing r with
  | nil => exact ⟨r.journal, rfl⟩
  | cons p rest ih =>
    obtain ⟨journal, first⟩ := @transmit_eq r p (fits p List.mem_cons_self)
    rw [List.map_cons]
    cases sent : r.sender.send p.frame with
    | mk result sender =>
      rw [sent] at first
      cases result with
      | error e =>
        refine ⟨journal, ?_⟩
        rw [Sender.sendAll_of_unsent sent]
        simp only [transmitAll, first]
        rfl
      | ok =>
        have fits_rest : ∀ q ∈ rest, q.payload.length ≤ Packet.maxPayload := by
          intro q hq
          apply fits
          exact List.mem_cons_of_mem p hq
        obtain ⟨journal', later⟩ := @ih { r with sender, journal } fits_rest
        refine ⟨journal', ?_⟩
        rw [Sender.sendAll_of_sent sent, ← later]
        simp only [transmitAll, first]
        rfl

theorem react_of_unsent {r r' : Run} {p : Packet} {reaction : Reaction} {e : RunError}
    (h : (r.suite.dispatch p r.now).result = .ok reaction)
    (unsent : (r.stepped p).transmitAll reaction.replies = (.error e, r')) :
    r.react p = (.error e, r') := by
  rw [stepped, dispatch] at unsent
  simp only [react, dispatch, h, unsent]

/-- What a packet does to a run: a step of the suite, shown on the console, and its frames sent. -/
theorem react_eq (r : Run) (p : Packet) : ∃ journal,
    r.react p = ((r.suite.dispatch p r.now).outcome
        (r.sender.sendAll (r.suite.dispatch p r.now).frames).1,
      { r with
        suite := (r.suite.dispatch p r.now).suite
        console := r.console.reportAll (r.suite.dispatch p r.now).notices
        sender := (r.sender.sendAll (r.suite.dispatch p r.now).frames).2, journal }) := by
  obtain ⟨journal, stepped_eq⟩ := stepped_frame r p
  have fit := fun q => r.suite.dispatch_replies_fit p r.now (q := q)
  unfold Suite.Step.frames
  cases result : (r.suite.dispatch p r.now).result with
  | error e =>
    have unanswered : (r.suite.dispatch p r.now).replies = [] := by
      simp only [Suite.Step.replies, result]
    refine ⟨journal, ?_⟩
    rw [react_eq_error result, stepped_eq, unanswered]
    simp only [List.map_nil, Sender.sendAll, Suite.Step.outcome, Suite.Step.ending, result]
  | ok reaction =>
    have replies_eq : (r.suite.dispatch p r.now).replies = reaction.replies := by
      simp only [Suite.Step.replies, result]
    rw [replies_eq] at fit ⊢
    obtain ⟨journal', sent⟩ := @transmitAll_eq (r.stepped p) _ fit
    have sender_eq : (r.stepped p).sender = r.sender := by rw [stepped_eq]
    rw [sender_eq] at sent
    refine ⟨journal', ?_⟩
    cases all : r.sender.sendAll (reaction.replies.map Packet.frame) with
    | mk done sender =>
      rw [all] at sent
      cases done with
      | ok =>
        rw [react_of_sent result sent, stepped_eq]
        simp only [Suite.Step.outcome, Suite.Step.ending, result]
      | error e => rw [react_of_unsent result sent, stepped_eq, Suite.Step.outcome]

/-- A round whose read succeeds, part by part. -/
theorem round_eq {r : Run} {p : Packet} {receiver : Receiver}
    {step : Suite.Step (Except MessageError Reaction)}
    (read : r.receiver.readPacket r.settle = (.ok p, receiver))
    (h : r.suite.dispatch p (.ofMillis receiver.clock) = step) : ∃ journal,
    r.round = (step.outcome (r.sender.sendAll step.frames).1, { r with
      receiver
      suite := step.suite
      console := r.console.reportAll step.notices
      sender := (r.sender.sendAll step.frames).2, journal }) := by
  subst h
  obtain ⟨journal, reacted⟩ := react_eq ({ r with receiver }.record (.packetDecoded p)) p
  exact ⟨journal, (round_of_read read).trans reacted⟩

/-- A round ends with the error of its read, or it is a step of the suite, shown and answered. -/
theorem round_cases (r : Run) :
    (∃ e receiver, r.receiver.readPacket r.settle = (.error e, receiver) ∧
      r.round = (.error (.link e), { r with receiver })) ∨
    ∃ p receiver step journal, r.receiver.readPacket r.settle = (.ok p, receiver) ∧
      r.suite.dispatch p (.ofMillis receiver.clock) = step ∧
      r.round = (step.outcome (r.sender.sendAll step.frames).1, { r with
        receiver
        suite := step.suite
        console := r.console.reportAll step.notices
        sender := (r.sender.sendAll step.frames).2, journal }) := by
  cases read : r.receiver.readPacket r.settle with
  | mk result receiver =>
    cases result with
    | error e => exact .inl ⟨e, receiver, rfl, round_of_error read⟩
    | ok p =>
      obtain ⟨journal, round⟩ := round_eq read rfl
      exact .inr ⟨p, receiver, _, journal, rfl, rfl, round⟩

/-- A round breaks off where its read does, and nowhere else. -/
theorem round_brokenOff_iff (r : Run) : (r.round).1 = .error (.link (.io .overflow)) ↔
    (r.receiver.readPacket r.settle).1 = .error (.io .overflow) := by
  rcases r.round_cases with
    ⟨e, receiver, read, round⟩ | ⟨p, receiver, step, journal, read, -, round⟩
  · rw [read, round]
    simp
  · rw [read, round]
    simpa using Suite.Step.outcome_whole _ (Sender.sendAll_whole _ _)

end Run

end SerialSuite
