import SerialSuite.Proofs.Trace

/-!
The order of the phases. A suite awaits the first contact just as long as it has got no packet, it
is done with a request that comes while it drains, and it goes through the phases in their order,
but for one way back: a final result that comes when the suite is done has it drain once more, and
it is then flagged as drained before it is done (`phases_in_order`).
-/

namespace SerialSuite

/-- The place of a phase in the order of the phases. -/
def Phase.rank : Phase → Nat
  | awaitingFirstContact => 0
  | running => 1
  | draining => 2
  | done => 3

namespace Suite

/-- A packet with a final result that does not abort the run. -/
def Concludes (s : Suite) (x : Timed Packet) : Prop :=
  ∃ outcome state, Message.decode x.1.payload = .ok (.testResult outcome true state) ∧
    (s.receive x).aborts = false

/-- A packet with a request that comes while the suite drains. -/
def Completes (s : Suite) (x : Timed Packet) : Prop :=
  Message.decode x.1.payload = .ok .stateRequest ∧ s.phase = .draining

/-- A final result has come when the suite was done. -/
def Reopened (s : Suite) (ps : List (Timed Packet)) : Prop :=
  ∃ before x rest, ps = before ++ x :: rest ∧
    (s.behind receive before).phase = .done ∧ (s.behind receive before).Concludes x

/-- What becomes of the phase, and of the flag of a drained suite. -/
inductive Moves (completes concludes : Prop) (s s' : Suite) : Prop
  | done : completes → s'.phase = .done → s'.progress.drained = true →
      Moves completes concludes s s'
  | draining : concludes → s'.phase = .draining → s'.progress.drained = s.progress.drained →
      Moves completes concludes s s'
  | kept : ¬ completes → ¬ concludes → s'.phase = s.phase →
      s'.progress.drained = s.progress.drained → Moves completes concludes s s'

variable {s : Suite}

theorem handle_moves (s : Suite) (m : Message) (now : Duration) :
    Moves (m = .stateRequest ∧ s.phase = .draining)
      (∃ outcome state, m = .testResult outcome true state ∧ (s.handle m now).result.abort = false)
      s (s.handle m now).suite := by
  -- the phase is looked at by a request only
  cases m with
  | stateRequest =>
    by_cases draining : s.phase = .draining
    · apply Moves.done ⟨rfl, draining⟩ <;> simp [handle, answerRequest, draining]
    · apply Moves.kept <;> simp [handle, answerRequest, draining]
  | testResult outcome isFinal state =>
    cases abort : (s.handle (.testResult outcome isFinal state) now).result.abort with
    | true => apply Moves.kept <;> simp_all [handle, endTest]
    | false =>
      cases isFinal with
      | true => apply Moves.draining ⟨outcome, state, rfl, rfl⟩ <;> simp_all [handle, endTest]
      | false => apply Moves.kept <;> simp [handle, endTest]
  | init | stateResponse | testStarted => apply Moves.kept <;> simp [handle, beginTest]

theorem contact_phase (s : Suite) :
    (s.contact).1.phase = if s.phase = .awaitingFirstContact then .running else s.phase := by
  unfold contact
  split <;> rfl

theorem contact_draining : (s.contact).1.phase = .draining ↔ s.phase = .draining := by
  rw [contact_phase]
  cases s.phase <;> simp

/-- A packet moves the suite on from where the contact leaves it. -/
theorem receive_moves (s : Suite) (x : Timed Packet) :
    Moves (s.Completes x) (s.Concludes x) (s.contact).1 (s.receive x).suite := by
  have step_eq : s.receive x = s.dispatch x.1 x.2 := rfl
  rcases s.dispatch_cases x.1 x.2 with
    ⟨m, activity, decoded, step⟩ | ⟨e, activity, result, undecoded, step, -⟩
  · have moves := (s.contact).1.handle_moves m x.2
    simp only [Completes, Concludes, step_eq, step, decoded, Step.aborts, Except.ok.injEq]
    rwa [contact_draining] at moves
  · apply Moves.kept <;> simp [Completes, Concludes, step_eq, step, undecoded]

theorem receive_met (s : Suite) (x : Timed Packet) :
    (s.receive x).suite.phase ≠ .awaitingFirstContact := by
  rcases s.receive_moves x with ⟨-, phase_eq, -⟩ | ⟨-, phase_eq, -⟩ | ⟨-, -, phase_eq, -⟩
  · simp [phase_eq]
  · simp [phase_eq]
  · rw [phase_eq, contact_phase]
    split
    · simp
    · assumption

theorem not_completes {x : Timed Packet} (concludes : s.Concludes x) : ¬ s.Completes x := by
  rintro ⟨request, -⟩
  obtain ⟨outcome, state, result, -⟩ := concludes
  rw [request] at result
  cases result

/-- A suite drains from a final result on, up to the request that completes it. -/
theorem receive_draining (s : Suite) (x : Timed Packet) : (s.receive x).suite.phase = .draining ↔
    s.Concludes x ∨ s.phase = .draining ∧ ¬ s.Completes x := by
  rcases s.receive_moves x with
    ⟨completes, phase_eq, -⟩ | ⟨concludes, phase_eq, -⟩ | ⟨waits, goes_on, phase_eq, -⟩
  · have not_result : ¬ s.Concludes x := fun concludes => not_completes concludes completes
    simp [phase_eq, completes, not_result]
  · simp [phase_eq, concludes]
  · rw [phase_eq, contact_phase]
    cases s.phase <;> simp [waits, goes_on]

/-- A suite is done with a request that completes it, and it stays so up to a final result. -/
theorem receive_done (s : Suite) (x : Timed Packet) : (s.receive x).suite.phase = .done ↔
    s.Completes x ∨ s.phase = .done ∧ ¬ s.Concludes x := by
  rcases s.receive_moves x with
    ⟨completes, phase_eq, -⟩ | ⟨concludes, phase_eq, -⟩ | ⟨waits, goes_on, phase_eq, -⟩
  · simp [phase_eq, completes]
  · simp [phase_eq, concludes, not_completes concludes]
  · rw [phase_eq, contact_phase]
    cases s.phase <;> simp [waits, goes_on]

/-- Only from the end there is a way back. -/
theorem receive_back (s : Suite) (x : Timed Packet) :
    (s.receive x).suite.phase.rank < s.phase.rank ↔ s.phase = .done ∧ s.Concludes x := by
  rcases s.receive_moves x with
    ⟨completes, phase_eq, -⟩ | ⟨concludes, phase_eq, -⟩ | ⟨-, goes_on, phase_eq, -⟩
  · simp [phase_eq, completes.2, Phase.rank]
  · rw [phase_eq]
    cases s.phase <;> simp [Phase.rank, concludes]
  · rw [phase_eq, contact_phase]
    cases s.phase <;> simp [Phase.rank, goes_on]

/-- The flag of a drained suite is never taken back. -/
theorem receive_drained (s : Suite) (x : Timed Packet) :
    (s.receive x).suite.progress.drained = true ↔
      s.progress.drained = true ∨ s.Completes x := by
  have flag : (s.contact).1.progress.drained = s.progress.drained := by
    rw [contact_progress]
  rcases s.receive_moves x with
    ⟨completes, -, drained⟩ | ⟨⟨outcome, state, decoded, -⟩, -, drained⟩ | ⟨waits, -, -, drained⟩
  · simp [drained, completes]
  · simp [drained, flag, Completes, decoded]
  · simp [drained, flag, waits]

theorem reopened_concat {ps : List (Timed Packet)} {x : Timed Packet} :
    s.Reopened (ps ++ [x]) ↔ s.Reopened ps ∨
      (s.behind receive ps).phase = .done ∧ (s.behind receive ps).Concludes x :=
  exists_split_concat

theorem drained_behind (m : Mode) (ps : List (Timed Packet)) :
    (Suite.behind receive { mode := m } ps).progress.drained = true ↔
      (Suite.behind receive { mode := m } ps).phase = .done ∨ Reopened { mode := m } ps := by
  induction ps using List.reverseRecOn with
  | nil => simp [behind, Reopened]
  | append_singleton ps x ih =>
    rw [behind_concat, receive_drained, receive_done, reopened_concat, ih]
    tauto

end Suite

open Suite (receive)

/-- The phases of a suite, and the flag of a drained one, whatever packets it gets. It awaits the
first contact exactly while it has got none. It drains from a final result on; it is done with a
request that comes meanwhile, and with nothing else. It goes back exactly with a final result that
comes when it is done; and it is flagged exactly if it is done, or has gone back before. -/
theorem phases_in_order (m : Mode) (ps : List (Timed Packet)) (x : Timed Packet) :
    let s := Suite.behind receive { mode := m } ps
    let s' := (s.receive x).suite
    (s.phase = .awaitingFirstContact ↔ ps = []) ∧
    (s'.phase = .draining ↔ s.Concludes x ∨ s.phase = .draining ∧ ¬ s.Completes x) ∧
    (s'.phase = .done ↔ s.Completes x ∨ s.phase = .done ∧ ¬ s.Concludes x) ∧
    (s'.phase.rank < s.phase.rank ↔ s.phase = .done ∧ s.Concludes x) ∧
    (s.progress.drained = true ↔ s.phase = .done ∨ Suite.Reopened { mode := m } ps) := by
  intro s s'
  refine ⟨?_, s.receive_draining x, s.receive_done x, s.receive_back x, Suite.drained_behind m ps⟩
  rcases List.eq_nil_or_concat ps with rfl | ⟨before, y, rfl⟩
  · simp [s, Suite.behind]
  · have met := (Suite.behind receive { mode := m } before).receive_met y
    rw [← Suite.behind_concat] at met
    simp [s, met]

/-- A second final result has a suite drain that was done, with its flag still up. -/
theorem phases_out_of_order :
    let final : Timed Packet := (⟨2, [0x44, 0, 0, 0, 0, 0, 0, 0]⟩, .zero)
    let request : Timed Packet := (⟨2, [0x11]⟩, .zero)
    let s := Suite.behind receive {} [final, request]
    let s' := (s.receive final).suite
    s.phase = .done ∧ s'.phase.rank < s.phase.rank ∧
      s'.progress.drained = true ∧ s'.phase ≠ .done := by
  decide +kernel

end SerialSuite
