import SerialSuite.Proofs.Growth
import SerialSuite.Proofs.Summary

/-!
What stopping on errors does to a run. Step by step the suite that stops on errors is the one that
does not, up to its mode, until a failure that counts aborts it (`receive_lenient`). So a run that
is not aborted is the same run without stopping, and one that is aborted is the front of it, with a
block of its own at the end (`finish_halting`).
-/

namespace SerialSuite

theorem Verdict.eq_failed {v : Verdict} (h : v.isFailure = true) :
    ∃ elapsed, v = .failed elapsed := by
  cases v with
  | failed elapsed => exact ⟨elapsed, rfl⟩
  | passed | skipped => cases h

namespace Suite

/-- The suite in the mode that stops on errors, or in the one that does not. -/
def halting (s : Suite) (stop : Bool) : Suite :=
  { s with mode := { s.mode with stopOnError := stop } }

theorem contact_halting (s : Suite) (stop : Bool) :
    (s.halting stop).contact = ((s.contact).1.halting stop, (s.contact).2) := by
  by_cases first : s.phase = .awaitingFirstContact <;> simp [contact, halting, first]

theorem judge_halting (s : Suite) (stop : Bool) (outcome : Outcome) (now : Duration) :
    (s.halting stop).judge outcome now = s.judge outcome now := rfl

/-- A message that does not abort the run is handled alike without stopping on errors. -/
theorem handle_lenient {s : Suite} {m : Message} {now : Duration}
    (on : (s.handle m now).result.abort = false) : (s.halting false).handle m now =
      { s.handle m now with suite := (s.handle m now).suite.halting false } := by
  cases m with
  | stateRequest =>
    by_cases draining : s.phase = .draining <;>
      simp [handle, answerRequest, halting, draining, stateReply]
  | testStarted | init | stateResponse => rfl
  | testResult outcome isFinal state =>
    have no_abort : ((s.judge outcome now).isFailure && s.mode.stopOnError) = false := on
    have lenient : (((s.halting false).judge outcome now).isFailure &&
        (s.halting false).mode.stopOnError) = false := Bool.and_false _
    simp only [handle, endTest, no_abort, lenient]
    rfl

/-- A packet that does not abort the run makes the same step without stopping on errors. -/
theorem receive_lenient {s : Suite} {x : Timed Packet} (on : (s.receive x).aborts = false) :
    (s.halting false).receive x =
      { s.receive x with suite := (s.receive x).suite.halting false } := by
  cases decoded : Message.decode x.1.payload with
  | ok m =>
    have goes_on : ((s.contact).1.handle m x.2).result.abort = false := by
      rw [Step.aborts, (s.receive_of_decode decoded).2.2] at on
      exact on
    simp only [receive, dispatch, decoded, contact_halting, handle_lenient goes_on]
  | error e =>
    simp only [receive, dispatch, decoded, contact_halting]
    cases e <;> rfl

/-- What aborts the run is a failure that counts. Without stopping on errors it has the same answers
and the same verdict. -/
theorem receive_aborting {s : Suite} {x : Timed Packet} (aborts : (s.receive x).aborts = true) :
    ∃ elapsed later,
      (s.receive x).notices = [.verdict (.failed elapsed),
        .aborted (s.receive x).suite.progress.tally] ∧
      ((s.halting false).receive x).notices = .verdict (.failed elapsed) :: later ∧
      ((s.halting false).receive x).frames = (s.receive x).frames := by
  cases decoded : Message.decode x.1.payload with
  | error e =>
    rw [(s.receive_of_undecoded decoded).2.2] at aborts
    cases aborts
  | ok m =>
    obtain ⟨suite_eq, noticed, result⟩ := s.receive_of_decode decoded
    obtain ⟨-, noticed', result'⟩ := (s.halting false).receive_of_decode decoded
    rw [contact_halting] at noticed' result'
    rw [Step.aborts, result] at aborts
    simp only [Step.frames, Step.replies, noticed, noticed', result, result', suite_eq]
    cases m with
    | testResult outcome isFinal state =>
      have stops : ((s.contact).1.judge outcome x.2).isFailure &&
          (s.contact).1.mode.stopOnError := aborts
      obtain ⟨elapsed, verdict⟩ := Verdict.eq_failed (Bool.and_eq_true_iff.1 stops).1
      have shown := (s.contact).1.heed_closing outcome isFinal state x.2
      have shown' := ((s.contact).1.halting false).heed_closing outcome isFinal state x.2
      rw [verdict] at shown
      rw [judge_halting, verdict] at shown'
      refine ⟨elapsed, _, ?_, shown', rfl⟩
      rw [shown, closing, if_pos aborts]
    | stateRequest | init | stateResponse | testStarted => cases aborts

theorem behind_lenient {s : Suite} {ps : List (Timed Packet)} (on : s.GoesOn ps) :
    (s.halting false).shown receive ps = s.shown receive ps ∧
      (s.halting false).behind receive ps = (s.behind receive ps).halting false := by
  induction ps using List.reverseRecOn with
  | nil => exact ⟨rfl, rfl⟩
  | append_singleton ps x ih =>
    obtain ⟨earlier, last⟩ := goesOn_append.1 on
    obtain ⟨shown_eq, behind_eq⟩ := ih earlier
    have step := receive_lenient (Step.not_aborts (goesOn_singleton.1 last))
    rw [shown_concat, shown_concat, behind_concat, behind_concat, shown_eq, behind_eq, step]
    exact ⟨rfl, rfl⟩

end Suite

open Suite (receive)

namespace Run

/-- The run that stops on errors, or the one that does not. -/
def halting (r : Run) (stop : Bool) : Run := { r with suite := r.suite.halting stop }

/-- The second run is the first one without stopping on errors, what was recorded apart. -/
def Lenient (r g : Run) : Prop := ∃ journal, g = { r.halting false with journal }

section
variable {r g : Run} {p : Packet} {receiver : Receiver}

/-- Nothing is read in the one round and in the other. -/
theorem round_lenient_unread (h : Lenient r g) {e : LinkError}
    (read : r.receiver.readPacket r.settle = (.error e, receiver)) :
    (r.round).1 = (g.round).1 ∧ Lenient (r.round).2 (g.round).2 := by
  obtain ⟨journal, rfl⟩ := h
  have ended := @round_of_error { r.halting false with journal } _ _ read
  rw [round_of_error read, ended]
  exact ⟨rfl, journal, rfl⟩

/-- A packet that does not abort the run is answered alike in both rounds. -/
theorem round_lenient (h : Lenient r g)
    (read : r.receiver.readPacket r.settle = (.ok p, receiver))
    (on : (r.suite.receive (p, .ofMillis receiver.clock)).aborts = false) :
    (r.round).1 = (g.round).1 ∧ Lenient (r.round).2 (g.round).2 := by
  obtain ⟨journal, rfl⟩ := h
  obtain ⟨journal₁, round⟩ := round_eq read rfl
  obtain ⟨journal₂, round'⟩ := @round_eq { r.halting false with journal } p _ _ read
    (Suite.receive_lenient on)
  rw [round, round']
  exact ⟨rfl, journal₂, rfl⟩

theorem Lenient.read (h : Lenient r g)
    (read : r.receiver.readPacket r.settle = (.ok p, receiver)) :
    g.receiver.readPacket g.settle = (.ok p, receiver) := by
  obtain ⟨journal, rfl⟩ := h
  exact read

/-- A round sends the same on both sides, also with a packet that aborts the run. -/
theorem round_lenient_sender (h : Lenient r g)
    (read : r.receiver.readPacket r.settle = (.ok p, receiver)) :
    (g.round).2.sender = (r.round).2.sender := by
  cases aborts : (r.suite.receive (p, .ofMillis receiver.clock)).aborts with
  | false =>
    obtain ⟨-, journal, later⟩ := round_lenient h read aborts
    rw [later]
    rfl
  | true =>
    obtain ⟨-, -, -, -, frames_eq⟩ := Suite.receive_aborting aborts
    obtain ⟨journal, rfl⟩ := h
    obtain ⟨journal₁, round⟩ := round_eq read rfl
    obtain ⟨journal₂, round'⟩ := @round_eq { r.halting false with journal } p _ _ read rfl
    rw [round, round']
    exact congrArg (fun frames => (r.sender.sendAll frames).2) frames_eq

theorem round_lenient_of_intake (h : Lenient r g)
    (on : ∀ step ∈ r.suite.steps receive r.intake, step.aborts = false) :
    (r.round).1 = (g.round).1 ∧ Lenient (r.round).2 (g.round).2 := by
  cases read : r.receiver.readPacket r.settle with
  | mk result receiver =>
    cases result with
    | error e => exact round_lenient_unread h read
    | ok p =>
      obtain ⟨more, taken⟩ := intake_of_read read
      apply round_lenient h read
      apply on
      rw [taken]
      exact List.mem_cons_self

/-- Rounds that take in nothing that aborts the run come to the same end. -/
theorem drive_lenient (h : Lenient r g)
    (on : ∀ step ∈ r.suite.steps receive r.intake, step.aborts = false) :
    (r.drive).1 = (g.drive).1 ∧ Lenient (r.drive).2 (g.drive).2 := by
  fun_induction Run.drive r generalizing g with
  | case1 r r' next ih =>
    obtain ⟨same, later⟩ := round_lenient_of_intake h on
    rw [next] at same later
    have next' : g.round = (.ok none, (g.round).2) := Prod.ext same.symm rfl
    rw [drive_of_next next']
    apply ih later
    obtain ⟨p, receiver, read⟩ := read_of_round (congrArg Prod.fst next)
    obtain ⟨suite_eq, -⟩ := round_step read
    rw [next] at suite_eq
    dsimp only at suite_eq
    rw [intake_of_next read next] at on
    rw [suite_eq]
    exact (List.forall_mem_cons.1 on).2
  | case2 r ending r' last =>
    obtain ⟨same, later⟩ := round_lenient_of_intake h on
    rw [last] at same later
    have last' : g.round = (.ok (some ending), (g.round).2) := Prod.ext same.symm rfl
    rw [drive_of_ending last']
    exact ⟨rfl, later⟩
  | case3 r e r' last =>
    obtain ⟨same, later⟩ := round_lenient_of_intake h on
    rw [last] at same later
    have last' : g.round = (.error e, (g.round).2) := Prod.ext same.symm rfl
    rw [drive_of_error last']
    exact ⟨rfl, later⟩

/-- Rounds that come to an ending are the first ones without stopping on errors. -/
theorem drive_cut (h : Lenient r g) {ending : Ending} (ended : (r.drive).1 = .ok ending) :
    (∃ more, g.intake = r.intake ++ more) ∧
      (r.drive).2.sender.accepted <+: (g.drive).2.sender.accepted := by
  fun_induction Run.drive r generalizing g with
  | case1 r r' next ih =>
    obtain ⟨p, receiver, read⟩ := read_of_round (congrArg Prod.fst next)
    have on := Suite.Step.not_aborts (round_sent read (congrArg Prod.fst next)).1
    obtain ⟨same, later⟩ := round_lenient h read on
    rw [next] at same later
    have next' : g.round = (.ok none, (g.round).2) := Prod.ext same.symm rfl
    obtain ⟨⟨more, taken⟩, sent⟩ := ih later ended
    rw [intake_of_next read next, intake_of_next (h.read read) next', taken, drive_of_next next']
    exact ⟨⟨more, rfl⟩, sent⟩
  | case2 r ending r' last =>
    obtain ⟨p, receiver, read⟩ := read_of_round (congrArg Prod.fst last)
    obtain ⟨more, taken⟩ := intake_of_read (h.read read)
    have sender_eq := round_lenient_sender h read
    rw [last] at sender_eq
    dsimp only at sender_eq
    rw [intake_of_last read (by simp [last]), taken, ← sender_eq]
    -- the other run may go on from here, but what it has sent stays sent
    have grown : Grows (g.round).2 (g.drive).2 :=
      drive_keeps (fun r' h => h.trans r'.round_grows) (grows_refl _)
    exact ⟨⟨more, rfl⟩, grown.accepted⟩
  | case3 => cases ended

/-- A run in which nothing aborts is the same run without stopping on errors. -/
theorem finish_lenient (h : Lenient r g)
    (on : ∀ step ∈ r.suite.steps receive r.packets, step.aborts = false) : r.answer = g.answer := by
  obtain ⟨journal₀, rfl⟩ := h
  cases first : r.sender.send r.suite.opening.frame with
  | mk result sender =>
    cases result with
    | error e =>
      obtain ⟨journal, finish_eq⟩ := finish_of_unopened first
      obtain ⟨journal', finish_eq'⟩ :=
        @finish_of_unopened { r.halting false with journal := journal₀ } _ _ first
      simp only [answer, finish_eq, finish_eq', ended_receiver, ended_sender, ended_console]
      rfl
    | ok =>
      obtain ⟨journal, later, packets_eq, -, finish_eq⟩ := packets_of_opened first
      obtain ⟨journal', later', -, -, finish_eq'⟩ :=
        @packets_of_opened { r.halting false with journal := journal₀ } _ first
      rw [packets_eq] at on
      have lenient : Lenient { r with sender, journal }
          { r.halting false with sender, journal := journal' } := ⟨journal', rfl⟩
      obtain ⟨same, last, driven⟩ := drive_lenient lenient on
      simp only [answer, finish_eq, finish_eq', same, ended_receiver, ended_sender, ended_console]
      rw [driven]
      rfl

/-- A run that comes to an ending has taken in the first packets that the run takes in without
stopping on errors, and sent the first bytes. -/
theorem finish_cut (h : Lenient r g) {ending : Ending} (ended : (r.finish).1 = .ok ending) :
    (∃ more, g.packets = r.packets ++ more) ∧
      (r.finish).2.sender.accepted <+: (g.finish).2.sender.accepted := by
  obtain ⟨journal₀, rfl⟩ := h
  cases first : r.sender.send r.suite.opening.frame with
  | mk result sender =>
    cases result with
    | error e =>
      obtain ⟨journal, finish_eq⟩ := finish_of_unopened first
      rw [finish_eq] at ended
      cases ended
    | ok =>
      obtain ⟨journal, later, packets_eq, -, finish_eq⟩ := packets_of_opened first
      obtain ⟨journal', later', packets_eq', -, finish_eq'⟩ :=
        @packets_of_opened { r.halting false with journal := journal₀ } _ first
      rw [finish_eq] at ended ⊢
      have lenient : Lenient { r with sender, journal }
          { r.halting false with sender, journal := journal' } := ⟨journal', rfl⟩
      obtain ⟨taken, sent⟩ := drive_cut lenient ended
      rw [packets_eq, packets_eq', finish_eq', ended_accepted, ended_accepted]
      exact ⟨taken, sent⟩

end

end Run

/-- A failure that counts. -/
def Fails (m : Mode) (before : List (Timed Packet)) (x : Timed Packet) : Prop :=
  (∃ isFinal state, Heard.ofPayload x.1.payload = .result true isFinal state) ∧
    (heard before).skips m = false

theorem decision_of_fails {m : Mode} {before : List (Timed Packet)} {x : Timed Packet}
    (stop : m.stopOnError = true) :
    (heard before).decision m (.ofPayload x.1.payload) = .ok (some .aborted) ↔
      Fails m before x := by
  unfold Fails
  cases Heard.ofPayload x.1.payload with
  | result failed isFinal state =>
    cases failed with
    | false => simp [History.decision]
    | true => simp [History.decision, stop]
  | request => simp [History.decision]
  | malformed | start | other => simp [History.decision]

/-- What a run holds that stops on errors and is aborted by the last of these packets. -/
theorem Suite.Ends.failure {m : Mode} {ps : List (Timed Packet)} (stop : m.stopOnError = true)
    (fits : ∀ x ∈ ps, x.1.payload.length ≤ Packet.maxPayload)
    (h : Suite.Ends { mode := m } ps .aborted) : ∃ before x, ps = before ++ [x] ∧
      Suite.GoesOn { mode := m } before ∧
      ((Suite.behind receive { mode := m } before).receive x).aborts = true ∧
      Fails m before x ∧
      (∀ earlier y rest, before = earlier ++ y :: rest → ¬ Fails m earlier y) ∧
      ((Suite.behind receive { mode := m } before).receive x).frames =
        List.replicate 2 (History.response (History.held (heard (before ++ [x])))).frame := by
  obtain ⟨before, x, rfl, on, last⟩ := h
  obtain ⟨decided, answered⟩ := receive_heard fits on
  have fails := (decision_of_fails stop).1 (decided.symm.trans last)
  refine ⟨before, x, rfl, on, ?_, fails, ?_, ?_⟩
  · have ended := Suite.Step.eq_of_ending last
    by_contra goes_on
    rw [if_neg goes_on] at ended
    split at ended <;> cases ended
  · -- an earlier failure that counts would have been the last packet
    rintro earlier y rest rfl fails
    obtain ⟨on_earlier, on_later⟩ := Suite.goesOn_append.1 on
    have fits_y : ∀ z ∈ earlier ++ [y], z.1.payload.length ≤ Packet.maxPayload := by
      intro z hz
      apply fits
      simp only [List.mem_append, List.mem_cons] at hz ⊢
      tauto
    have decided := (receive_heard fits_y on_earlier).1
    rw [(Suite.goesOn_cons.1 on_later).1, (decision_of_fails stop).2 fails] at decided
    cases decided
  · obtain ⟨⟨isFinal, state, result⟩, -⟩ := fails
    rw [Suite.Step.frames, answered, heard_concat, History.answers, result]
    rfl

/-- The first run is aborted with the packet `x` behind others; the second goes on. -/
structure CutShort (a b : Run) (before : List (Timed Packet)) (x : Timed Packet) : Prop where
  taken : a.packets = before ++ [x]
  further : ∃ more, b.packets = before ++ x :: more
  fails : Fails a.suite.mode before x
  first : ∀ earlier y rest, before = earlier ++ y :: rest → ¬ Fails a.suite.mode earlier y
  /-- The last that is sent acknowledges the failure. -/
  accepted :
    let ack := (History.response (History.held (heard (before ++ [x])))).frame
    (a.finish).2.sender.accepted = a.sender.accepted ++ a.suite.opening.frame ++
      (a.suite.answers before).flatten ++ ack ++ ack
  sent : (a.finish).2.sender.accepted <+: (b.finish).2.sender.accepted
  /-- Both show the same up to the verdict; the one goes on with its block only. -/
  text : ∃ elapsed later,
    let upto := a.console.output ++ printed a.console.colour
      (linesOf (b.suite.shown receive before ++ [.verdict (.failed elapsed)]))
    b.notices = b.suite.shown receive before ++ .verdict (.failed elapsed) :: later ∧
    (a.finish).2.console.output = upto ++
      printed a.console.colour (Notice.aborted (a.finish).2.suite.progress.tally).lines ∧
    (b.finish).2.console.output = upto ++ printed a.console.colour (linesOf later)

/-- What a run shows that is aborted by its last packet, and what it shows without stopping. -/
theorem Run.notices_cut {a b : Run} {before more : List (Timed Packet)} {x : Timed Packet}
    (suite_eq : b.suite = a.suite.halting false) (taken : a.packets = before ++ [x])
    (further : b.packets = before ++ x :: more) (on : a.suite.GoesOn before)
    (aborts : ((a.suite.behind receive before).receive x).aborts = true) : ∃ elapsed later,
      a.notices = b.suite.shown receive before ++
        [.verdict (.failed elapsed), .aborted (a.finish).2.suite.progress.tally] ∧
      b.notices = b.suite.shown receive before ++ .verdict (.failed elapsed) :: later := by
  obtain ⟨elapsed, later, shown, shown', -⟩ := Suite.receive_aborting aborts
  obtain ⟨shown_eq, behind_eq⟩ := Suite.behind_lenient on
  obtain ⟨last, noticed⟩ := a.finish_packets
  have noticed' := b.finish_packets.2
  rw [taken, Suite.behind_concat] at last
  rw [taken, Suite.shown_concat, shown, ← last, ← shown_eq, ← suite_eq] at noticed
  rw [further, Suite.shown_append, Suite.shown_cons, suite_eq, behind_eq, shown', ← suite_eq,
    List.cons_append] at noticed'
  exact ⟨elapsed, _, noticed, noticed'⟩

/-- Stopping on errors only cuts a run short. If nothing aborts the run, it has the same result, the
same end, the same log of its sink and the same text on the console as without stopping. If it is
aborted, then with the first failure that counts: what it has sent are the first bytes that are sent
without stopping, up to the acknowledgment of that failure, and what it shows is the same up to the
verdict, with its block behind it and nothing else. -/
theorem finish_halting {r : Run} (fresh : r.suite = { mode := r.suite.mode })
    (works : r.console.Works) :
    let a := r.halting true
    let b := r.halting false
    ((∀ step ∈ a.suite.steps receive a.packets, step.aborts = false) → a.answer = b.answer) ∧
    ((a.finish).1 = .ok .aborted → ∃ before x, CutShort a b before x) := by
  intro a b
  have lenient : Run.Lenient a b := ⟨r.journal, rfl⟩
  refine ⟨Run.finish_lenient lenient, ?_⟩
  intro aborted
  have stop : a.suite.mode.stopOnError = true := rfl
  have fresh_a : a.suite = { mode := a.suite.mode } := by
    change r.suite.halting true = _
    rw [fresh]
    rfl
  obtain ⟨ends, sent⟩ := Run.finish_ended aborted
  rw [fresh_a] at ends
  obtain ⟨before, x, taken, on, aborts, fails, first, acks⟩ := ends.failure stop a.packets_fit
  rw [← fresh_a] at on aborts acks
  obtain ⟨⟨more, further⟩, front⟩ := Run.finish_cut lenient aborted
  rw [taken, List.append_assoc, List.singleton_append] at further
  obtain ⟨elapsed, later, shown, shown'⟩ := Run.notices_cut rfl taken further on aborts
  have text := Run.finish_printed_concat (r := a) works shown
  have text' := Run.finish_printed_concat (r := b) works shown'
  rw [taken, Suite.answers_concat, acks] at sent
  refine ⟨before, x, taken, ⟨more, further⟩, fails, first, ?_, front, elapsed, later, shown', ?_,
    text'⟩
  · rw [sent, List.flatten_append]
    simp [List.replicate]
  · rw [text, linesOf_cons]
    simp [linesOf]

/-- A failure and a pass. The first run is aborted by the failure, without a word of the pass. -/
theorem finish_halting_failing :
    let ps : List Packet :=
      [⟨2, [0x35, 0, 0, 0, 0, 0, 0, 0]⟩, ⟨2, [0x44, 0, 0, 0, 0, 0, 0, 0]⟩, ⟨2, [0x11]⟩]
    let r : Run := { receiver := { arrivals := [.data (ps.flatMap Packet.frame)] } }
    r.console.Works ∧ ((r.halting true).finish).1 = .ok .aborted ∧
      ((r.halting false).finish).1 = .ok .completed ∧
      ∃ before x, CutShort (r.halting true) (r.halting false) before x := by
  intro ps r
  have works : r.console.Works := fun _ _ => rfl
  have aborted : ((r.halting true).finish).1 = .ok .aborted := by decide +kernel
  obtain ⟨-, cut⟩ := finish_halting rfl works
  exact ⟨works, aborted, by decide +kernel, cut aborted⟩

end SerialSuite
