import SerialSuite.Proofs.Endings

/-!
A run depends on the bytes it consumes, not on how and when they arrive, and not on bytes it does
not consume. What time leaves its mark on is set aside by `untimed`. A step of the suite is then a
step of the untimed suite (`dispatch_untimed`), so that two quiet runs on the same bytes take the
same steps (`finish_determined`).
-/

namespace SerialSuite

/-- The verdict without its time. -/
def Verdict.untimed : Verdict → Verdict
  | .passed _ => .passed .zero
  | .failed _ => .failed .zero
  | .skipped => .skipped

theorem Verdict.untimed_untimed (v : Verdict) : v.untimed.untimed = v.untimed := by
  cases v <;> rfl

theorem Verdict.isFailure_untimed (v : Verdict) : v.untimed.isFailure = v.isFailure := by
  cases v <;> rfl

theorem Tally.count_untimed (t : Tally) (v : Verdict) : t.count v.untimed = t.count v := by
  cases v <;> rfl

/-- The notice without its time. -/
def Notice.untimed : Notice → Notice
  | .verdict v => .verdict v.untimed
  | n => n

namespace Suite

/-- The suite without its instants and without what is taken off its times. -/
def untimed (s : Suite) : Suite :=
  { s with
    mode := { s.mode with compensation := .zero }
    progress := { s.progress with startedAt := none } }

/-- Two steps that differ in their times only. -/
structure Step.Alike (a b : Step α) : Prop where
  suite : a.suite.untimed = b.suite.untimed
  notices : a.notices.map Notice.untimed = b.notices.map Notice.untimed
  result : a.result = b.result

theorem Step.Alike.replies {a b : Step (Except MessageError Reaction)} (h : a.Alike b) :
    a.replies = b.replies := by
  simp only [Step.replies, h.result]

theorem Step.Alike.ending {a b : Step (Except MessageError Reaction)} (h : a.Alike b) :
    a.ending = b.ending := by
  have phase : a.suite.phase = b.suite.phase := (Suite.mk.inj h.suite).2.1
  simp only [Step.ending, h.result, phase]

theorem contact_untimed (s : Suite) :
    (s.untimed.contact).1 = (s.contact).1.untimed ∧ (s.untimed.contact).2 = (s.contact).2 := by
  by_cases first : s.phase = .awaitingFirstContact <;> simp [contact, untimed, first]

theorem judge_untimed (s : Suite) (outcome : Outcome) (now : Duration) :
    s.untimed.judge outcome .zero = (s.judge outcome now).untimed := by
  by_cases skipped : s.progress.nightlyOnly && !s.mode.nightly
  · simp [judge, untimed, skipped, Verdict.untimed]
  · cases outcome <;> simp [judge, untimed, skipped, Verdict.untimed, Progress.elapsed]

theorem endTest_notices (s : Suite) (outcome : Outcome) (isFinal : Bool) (state : SavedState)
    (now : Duration) : (s.endTest outcome isFinal state now).notices =
      .verdict (s.judge outcome now) ::
        if (s.judge outcome now).isFailure && s.mode.stopOnError then
          [.aborted (s.progress.tally.count (s.judge outcome now))]
        else if isFinal then [.completed (s.progress.tally.count (s.judge outcome now))]
        else [] := by
  dsimp only [endTest, Step.notices]
  cases (s.judge outcome now).isFailure && s.mode.stopOnError <;> cases isFinal <;> rfl

theorem endTest_untimed (s : Suite) (outcome : Outcome) (isFinal : Bool) (state : SavedState)
    (now : Duration) : (s.endTest outcome isFinal state now).Alike
      (s.untimed.endTest outcome isFinal state .zero) := by
  have judged := judge_untimed s outcome now
  have counted := s.progress.tally.count_untimed (s.judge outcome now)
  have failed := (s.judge outcome now).isFailure_untimed
  have tally : s.untimed.progress.tally = s.progress.tally := rfl
  have stop : s.untimed.mode.stopOnError = s.mode.stopOnError := rfl
  refine ⟨?_, ?_, ?_⟩
  · simp only [endTest, judged, tally, counted, failed, stop]
    rfl
  · simp only [endTest_notices, judged, tally, counted, failed, stop, List.map_cons]
    congr 1
    simp only [Notice.untimed, Verdict.untimed_untimed]
  · simp only [endTest, judged, failed, stop]
    rfl

/-- A message does to the suite, at any instant, what it does to the untimed suite. -/
theorem handle_untimed (s : Suite) (m : Message) (now : Duration) :
    (s.handle m now).Alike (s.untimed.handle m .zero) := by
  cases m with
  | init nightly => exact ⟨rfl, rfl, rfl⟩
  | stateResponse state => exact ⟨rfl, rfl, rfl⟩
  | stateRequest =>
    refine ⟨?_, rfl, rfl⟩
    by_cases draining : s.phase = .draining <;> simp [handle, answerRequest, untimed, draining]
  | testStarted name nightlyOnly state => exact ⟨rfl, rfl, rfl⟩
  | testResult outcome isFinal state => exact endTest_untimed s outcome isFinal state now

theorem dispatch_untimed (s : Suite) (p : Packet) (now : Duration) :
    (s.dispatch p now).Alike (s.untimed.dispatch p .zero) := by
  obtain ⟨suite_eq, first_eq⟩ := contact_untimed s
  have handled (m : Message) := handle_untimed (s.contact).1 m now
  unfold dispatch
  simp only [suite_eq, first_eq]
  split
  · rename_i m _
    refine ⟨(handled m).suite, ?_, congrArg Except.ok (handled m).result⟩
    simp only [Step.notices, List.filterMap_append, List.map_append]
    exact congrArg _ (handled m).notices
  · exact ⟨rfl, rfl, rfl⟩
  · exact ⟨rfl, rfl, rfl⟩

end Suite

namespace Run

/-- What a round comes to for the whole run, if the run ends with it. -/
def last? : Except RunError (Option Ending) → Option (Except RunError Ending)
  | .error e => some (.error e)
  | .ok (some ending) => some (.ok ending)
  | .ok none => none

theorem drive_of_last {r r' : Run} {y : Except RunError (Option Ending)}
    {x : Except RunError Ending} (round : r.round = (y, r')) (last : last? y = some x) :
    r.drive = (x, r') ∧ r.driveNotices = r.roundNotices := by
  cases y with
  | error e =>
    obtain rfl := Option.some.inj last
    exact ⟨drive_of_error round, driveNotices_of_last (by simp [round])⟩
  | ok ending =>
    cases ending with
    | none => cases last
    | some ending =>
      obtain rfl := Option.some.inj last
      exact ⟨drive_of_ending round, driveNotices_of_last (by simp [round])⟩

theorem eq_next_of_last? {y : Except RunError (Option Ending)} (h : last? y = none) :
    y = .ok none := by
  cases y with
  | error e => cases h
  | ok ending =>
    cases ending with
    | none => rfl
    | some ending => cases h

/-- How the rounds of a run end, its times apart. -/
structure Drives (r : Run) (tail : Bytes) (x : Except RunError Ending) (frames : List Bytes)
    (suite : Suite) (ns : List Notice) : Prop where
  result : (r.drive).1 = x
  left : (r.drive).2.receiver.pending = tail
  quiet : (r.drive).2.Quiet frames
  suite : (r.drive).2.suite.untimed = suite
  notices : r.driveNotices.map Notice.untimed = ns

theorem drives_of_last {r r' : Run} {y : Except RunError (Option Ending)}
    {x : Except RunError Ending} {frames : List Bytes} (round : r.round = (y, r'))
    (last : last? y = some x) (quiet : r'.Quiet frames) :
    r.Drives r'.receiver.pending x frames r'.suite.untimed
      (r.roundNotices.map Notice.untimed) := by
  obtain ⟨driven, noticed⟩ := drive_of_last round last
  refine ⟨?_, ?_, ?_, ?_, ?_⟩
  · rw [driven]
  · rw [driven]
  · rw [driven]
    exact quiet
  · rw [driven]
  · rw [noticed]

theorem drives_of_next {r r' : Run} {tail : Bytes} {x : Except RunError Ending}
    {frames : List Bytes} {suite : Suite} {ns : List Notice} (round : r.round = (.ok none, r'))
    (later : r'.Drives tail x frames suite ns) :
    r.Drives tail x frames suite (r.roundNotices.map Notice.untimed ++ ns) := by
  have driven := drive_of_next round
  refine ⟨?_, ?_, ?_, ?_, ?_⟩
  · rw [driven, later.result]
  · rw [driven, later.left]
  · rw [driven]
    exact later.quiet
  · rw [driven, later.suite]
  · rw [driveNotices_of_next round, List.map_append, later.notices]

/-- All quiet runs from here on these bytes end alike, whatever comes behind the bytes. -/
def Determines (suite : Suite) (frames : List Bytes) (used : Bytes) : Prop :=
  ∃ x frames' suite' ns, ∀ (r : Run) tail, r.Quiet frames → r.suite.untimed = suite →
    r.receiver.pending = used ++ tail → r.Drives tail x frames' suite' ns

variable {suite : Suite} {frames : List Bytes}

theorem determines_broken {front : Bytes} {e : LinkError} (hf : Framed front (.error e)) :
    Determines suite frames front := by
  refine ⟨.error (.link e), frames, suite, [], ?_⟩
  intro r tail h hs hp
  obtain ⟨receiver, read, -, left⟩ := Receiver.readPacket_framed r.settle h.steady hf hp
  obtain ⟨ended, quiet, silent⟩ := round_broken h read
  have ends := drives_of_last ended rfl quiet
  rw [silent] at ends
  subst hs left
  exact ends

/-- What a packet does to a quiet run depends on the untimed suite only. -/
theorem round_untimed {r : Run} {p : Packet} {tail : Bytes} (h : r.Quiet frames)
    (hs : r.suite.untimed = suite) (fits : p.payload.length ≤ Packet.maxPayload)
    (hp : r.receiver.pending = p.frame ++ tail) :
    ∃ r', r.round = ((suite.dispatch p .zero).ending, r') ∧
      r'.suite.untimed = (suite.dispatch p .zero).suite.untimed ∧ r'.receiver.pending = tail ∧
      r'.Quiet (frames ++ (suite.dispatch p .zero).replies.map Packet.frame) ∧
      r.roundNotices.map Notice.untimed =
        (suite.dispatch p .zero).notices.map Notice.untimed := by
  obtain ⟨now, r', round, suite_eq, left, quiet, noticed⟩ := round_packet h fits hp
  have alike := Suite.dispatch_untimed r.suite p now
  rw [hs] at alike
  refine ⟨r', ?_, ?_, left, ?_, ?_⟩
  · rw [round, alike.ending]
  · rw [suite_eq, alike.suite]
  · rw [← alike.replies]
    exact quiet
  · rw [noticed, alike.notices]

/-- A packet that ends one run ends all runs from here. -/
theorem determines_last {p : Packet} {x : Except RunError Ending}
    (fits : p.payload.length ≤ Packet.maxPayload)
    (last : last? (suite.dispatch p .zero).ending = some x) :
    Determines suite frames p.frame := by
  refine ⟨x, frames ++ (suite.dispatch p .zero).replies.map Packet.frame,
    (suite.dispatch p .zero).suite.untimed,
    (suite.dispatch p .zero).notices.map Notice.untimed, ?_⟩
  intro r tail h hs hp
  obtain ⟨r', round, suite_eq, left, quiet, noticed⟩ := round_untimed h hs fits hp
  have ends := drives_of_last round last quiet
  rwa [left, suite_eq, noticed] at ends

/-- A packet that does not end one run leads all runs from here to the same place. -/
theorem determines_next {p : Packet} {used : Bytes}
    (fits : p.payload.length ≤ Packet.maxPayload)
    (next : (suite.dispatch p .zero).ending = .ok none)
    (later : Determines (suite.dispatch p .zero).suite.untimed
      (frames ++ (suite.dispatch p .zero).replies.map Packet.frame) used) :
    Determines suite frames (p.frame ++ used) := by
  obtain ⟨x, frames', suite', ns, later⟩ := later
  refine ⟨x, frames', suite', (suite.dispatch p .zero).notices.map Notice.untimed ++ ns, ?_⟩
  intro r tail h hs hp
  rw [List.append_assoc] at hp
  obtain ⟨r', round, suite_eq, left, quiet, noticed⟩ := round_untimed h hs fits hp
  rw [next] at round
  have ends := drives_of_next round (later r' tail quiet suite_eq left)
  rwa [noticed] at ends

/-- A quiet run that does not ask for more than there is has used bytes that determine its end. -/
theorem drive_determined {r : Run} (h : r.Quiet frames)
    (enough : (r.drive).1 ≠ .error (.link (.io Receiver.exhausted))) :
    ∃ used tail, r.receiver.pending = used ++ tail ∧
      Determines r.suite.untimed frames used := by
  -- each round that does not end the run takes a frame off what is to come
  induction hn : r.receiver.pending.length using Nat.strongRecOn generalizing r frames with
  | ind n ih =>
    subst hn
    by_cases early : EndsEarly r.receiver.pending
    · obtain ⟨receiver, read, -, -⟩ := Receiver.readPacket_endsEarly r.settle h.steady early
      obtain ⟨ended, -, -⟩ := round_broken h read
      exact absurd (by rw [drive_of_error ended]) enough
    · obtain ⟨front, x, rest, hf, hp⟩ := exists_framed early
      cases x with
      | error e => exact ⟨front, rest, hp, determines_broken hf⟩
      | ok p =>
        obtain ⟨fits, rfl⟩ : p.payload.length ≤ Packet.maxPayload ∧ front = p.frame := by
          cases hf with
          | packet fits => exact ⟨fits, rfl⟩
        obtain ⟨r', round, suite_eq, left, quiet, -⟩ := round_untimed h rfl fits hp
        cases ended : last? (r.suite.untimed.dispatch p .zero).ending with
        | some x => exact ⟨p.frame, rest, hp, determines_last fits ended⟩
        | none =>
          have next := eq_next_of_last? ended
          rw [next] at round
          rw [drive_of_next round] at enough
          obtain ⟨used, tail, later, determined⟩ := ih _ (round_shrinks round) quiet enough rfl
          rw [suite_eq] at determined
          refine ⟨p.frame ++ used, tail, ?_, determines_next fits next determined⟩
          rw [hp, ← left, later, List.append_assoc]

end Run

/-- The bytes that a run takes off what is to come, by their number. -/
def Run.consumed (r : Run) : Nat :=
  r.receiver.pending.length - (r.finish).2.receiver.pending.length

/-- How a run ends, its times apart. -/
structure Run.Finishes (r : Run) (tail : Bytes) (x : Except RunError Ending)
    (events : List SinkEvent) (suite : Suite) (ns : List Notice) : Prop where
  result : (r.finish).1 = x
  left : (r.finish).2.receiver.pending = tail
  events : (r.finish).2.sender.events = events
  suite : (r.finish).2.suite.untimed = suite
  notices : r.notices.map Notice.untimed = ns

theorem Run.Finishes.consumed_eq {r : Run} {used tail : Bytes} {x : Except RunError Ending}
    {events : List SinkEvent} {suite : Suite} {ns : List Notice}
    (h : r.Finishes tail x events suite ns) (hp : r.receiver.pending = used ++ tail) :
    r.consumed = used.length ∧
      (r.finish).2.receiver.pending = r.receiver.pending.drop r.consumed := by
  have consumed : r.consumed = used.length := by
    simp [Run.consumed, h.left, hp]
  refine ⟨consumed, ?_⟩
  rw [h.left, consumed, hp, List.drop_left]

/-- The end of a run is that of its rounds, with the sender closed. -/
theorem Run.finish_drives {r : Run} (h : r.Ready) : ∃ r' : Run,
    r'.Quiet [r.suite.opening.frame] ∧ r'.receiver = r.receiver ∧ r'.suite = r.suite ∧
    (r'.drive).1 = (r.finish).1 ∧
    ∀ tail x frames suite ns, r'.Drives tail x frames suite ns →
      r.Finishes tail x (Sender.sent frames ++ [.flushed, .shutDown]) suite ns := by
  obtain ⟨r', quiet, receiver_eq, suite_eq, notices_eq, finished⟩ := finish_quiet h.quiet
  obtain ⟨journal, finish_eq⟩ := finished _ _ rfl
  refine ⟨r', quiet, receiver_eq, suite_eq, by rw [finish_eq], ?_⟩
  intro tail x frames suite ns driven
  refine ⟨?_, ?_, ?_, ?_, ?_⟩
  · rw [finish_eq, driven.result]
  · rw [finish_eq]
    exact driven.left
  · rw [finish_eq]
    exact (Sender.close_holds driven.quiet.holds).2
  · rw [finish_eq]
    exact driven.suite
  · rw [notices_eq, driven.notices]

/-- What two runs have in common that consume the same bytes: all but their times. -/
structure Run.SameEnd (r₁ r₂ : Run) : Prop where
  consumed : r₁.consumed = r₂.consumed
  result : (r₁.finish).1 = (r₂.finish).1
  events : (r₁.finish).2.sender.events = (r₂.finish).2.sender.events
  suite : (r₁.finish).2.suite.untimed = (r₂.finish).2.suite.untimed
  notices : r₁.notices.map Notice.untimed = r₂.notices.map Notice.untimed

theorem Run.Ready.untimed_eq {r₁ r₂ : Run} (h₁ : r₁.Ready) (h₂ : r₂.Ready)
    (nightly : r₁.suite.mode.nightly = r₂.suite.mode.nightly)
    (stop : r₁.suite.mode.stopOnError = r₂.suite.mode.stopOnError) :
    r₁.suite.untimed = r₂.suite.untimed := by
  rw [h₁.fresh, h₂.fresh]
  simp only [Suite.untimed, nightly, stop]

/-- The end of a run depends on the bytes that it consumes. Take another run in the same mode, with
any arrivals, pacing, settling and clock, and any bytes behind those: it consumes the same bytes,
and it has the same result, the same log of its sink, the same tally, state, test and flag, and the
same notices, their times apart. -/
theorem finish_determined {r₁ r₂ : Run} (h₁ : r₁.Ready) (h₂ : r₂.Ready)
    (nightly : r₁.suite.mode.nightly = r₂.suite.mode.nightly)
    (stop : r₁.suite.mode.stopOnError = r₂.suite.mode.stopOnError)
    (enough : (r₁.finish).1 ≠ .error (.link (.io Receiver.exhausted)))
    (agree : r₂.receiver.pending.take r₁.consumed = r₁.receiver.pending.take r₁.consumed) :
    r₁.SameEnd r₂ ∧
    (∀ r ∈ [r₁, r₂], (r.finish).2.receiver.pending = r.receiver.pending.drop r.consumed ∧
      (r.finish).2.console = r.console.reportAll r.notices) := by
  obtain ⟨r₁', quiet₁, receiver₁, suite₁, driven₁, finishes₁⟩ := Run.finish_drives h₁
  obtain ⟨r₂', quiet₂, receiver₂, suite₂, -, finishes₂⟩ := Run.finish_drives h₂
  obtain ⟨used, tail, hp₁, x, frames, suite, ns, determined⟩ :=
    Run.drive_determined quiet₁ (driven₁ ▸ enough)
  -- the first run is itself a run on these bytes
  have end₁ := finishes₁ _ _ _ _ _ (determined r₁' tail quiet₁ rfl hp₁)
  rw [receiver₁] at hp₁
  obtain ⟨used₁, left₁⟩ := end₁.consumed_eq hp₁
  have hp₂ : r₂.receiver.pending = used ++ r₂.receiver.pending.drop used.length := by
    rw [used₁, hp₁, List.take_left] at agree
    have parts := List.take_append_drop used.length r₂.receiver.pending
    rw [agree] at parts
    exact parts.symm
  have opening_eq : r₂.suite.opening.frame = r₁.suite.opening.frame := by
    simp only [Suite.opening, nightly]
  have untimed_eq : r₂'.suite.untimed = r₁'.suite.untimed := by
    rw [suite₁, suite₂]
    exact (h₁.untimed_eq h₂ nightly stop).symm
  have end₂ := finishes₂ _ _ _ _ _ (determined r₂' _ (opening_eq ▸ quiet₂) untimed_eq
    (by rw [receiver₂]; exact hp₂))
  obtain ⟨used₂, left₂⟩ := end₂.consumed_eq hp₂
  refine ⟨⟨?_, ?_, ?_, ?_, ?_⟩, ?_⟩
  · rw [used₁, used₂]
  · rw [end₁.result, end₂.result]
  · rw [end₁.events, end₂.events]
  · rw [end₁.suite, end₂.suite]
  · rw [end₁.notices, end₂.notices]
  · simp only [List.forall_mem_cons, List.not_mem_nil, false_implies, implies_true, and_true]
    exact ⟨⟨left₁, r₁.finish_console⟩, ⟨left₂, r₂.finish_console⟩⟩

/-- Two runs that abort at the same packet. Behind it there is a request for the one; the other gets
its bytes in pieces and late, with something else behind them. -/
theorem finish_determined_stopping :
    let bytes := failures.flatMap Packet.frame
    let r₁ := stopping { arrivals := [.data (bytes ++ Packet.frame ⟨2, [0x11]⟩)] }
    let r₂ : Run := { stopping { pacing := { poll := 1 }, arrivals := [.wait 70,
      .data (bytes.take 9), .empty, .data (bytes.drop 9 ++ [0xAA, 7])] } with settle := 0 }
    r₁.Ready ∧ r₂.Ready ∧ r₁.consumed = bytes.length ∧ r₁.SameEnd r₂ ∧
      (r₂.finish).2.receiver.pending = [0xAA, 7] := by
  intro bytes r₁ r₂
  have ready₁ : r₁.Ready := stopping_ready ⟨rfl, by simp⟩
  have ready₂ : r₂.Ready :=
    ⟨⟨rfl, by simp [r₂, stopping]⟩, ⟨by simp [r₂, stopping], rfl, rfl, rfl⟩, rfl, rfl⟩
  have came := @Run.finish_course r₁ (failures ++ [⟨2, [0x11]⟩]) ready₁ (by decide +kernel)
    (by decide +kernel)
  have aborted : (r₁.finish).1 = .ok .aborted := came.result.trans rfl
  have left : (r₁.finish).2.receiver.pending = Packet.frame ⟨2, [0x11]⟩ := came.left.trans rfl
  have consumed : r₁.consumed = bytes.length := by
    rw [Run.consumed, left]
    decide +kernel
  obtain ⟨same, accounts⟩ := finish_determined ready₁ ready₂ rfl rfl (by rw [aborted]; simp)
    (by rw [consumed]; decide +kernel)
  refine ⟨ready₁, ready₂, consumed, same, ?_⟩
  rw [(accounts r₂ (by simp)).1, ← same.consumed, consumed]
  decide +kernel

end SerialSuite
