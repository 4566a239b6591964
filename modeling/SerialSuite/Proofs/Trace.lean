import SerialSuite.Proofs.Endings
import SerialSuite.Proofs.Sendable

/-!
What a run takes in: the packets that it reads, and the instants at which it dispatches them
(`Run.packets`). The suite at the end of the run, and all the run has shown, are those of the
suite's steps on these packets, whatever stopped the run (`finish_packets`); a run that comes to an
ending has also sent all the replies (`finish_ended`).
-/

namespace SerialSuite

/-- Something that arrives, and the instant at which it does. -/
abbrev Timed (ι : Type) := ι × Duration

namespace Suite

/-- Dispatches a packet at its instant. -/
def receive (s : Suite) (x : Timed Packet) : Step (Except MessageError Reaction) :=
  s.dispatch x.1 x.2

/-- Handles a message at its instant. -/
def heed (s : Suite) (x : Timed Message) : Step Reaction := s.handle x.1 x.2

/-- Whether the run is to stop with this step. -/
def Step.aborts (step : Step (Except MessageError Reaction)) : Bool :=
  match step.result with
  | .ok reaction => reaction.abort
  | .error _ => false

theorem Step.eq_of_ending {step : Step (Except MessageError Reaction)} {y : Option Ending}
    (h : step.ending = .ok y) : y = if step.aborts then some .aborted
      else if step.suite.phase = .done then some .completed
      else none := by
  cases result : step.result with
  | error e =>
    rw [Step.ending, result] at h
    cases h
  | ok reaction =>
    rw [Step.ending, result] at h
    rw [Step.aborts, result]
    exact (Except.ok.inj h).symm

theorem Step.not_aborts {step : Step (Except MessageError Reaction)} (on : step.ending = .ok none) :
    step.aborts = false := by
  have no_ending := Step.eq_of_ending on
  cases aborts : step.aborts with
  | false => rfl
  | true => simp [aborts] at no_ending

theorem contact_silent (s : Suite) : (s.contact).2.filterMap Activity.notice? = [] := by
  unfold contact
  split <;> rfl

/-- A packet that decodes is handled as its message, from where the contact leaves the suite. -/
theorem receive_of_decode (s : Suite) {x : Timed Packet} {m : Message}
    (decoded : Message.decode x.1.payload = .ok m) :
    (s.receive x).suite = ((s.contact).1.heed (m, x.2)).suite ∧
      (s.receive x).notices = ((s.contact).1.heed (m, x.2)).notices ∧
      (s.receive x).result = .ok ((s.contact).1.heed (m, x.2)).result := by
  simp only [receive, dispatch, decoded, Step.notices, List.filterMap_append, contact_silent]
  exact ⟨rfl, rfl, rfl⟩

/-- A packet that does not decode is a contact only. -/
theorem receive_of_undecoded (s : Suite) {x : Timed Packet} {e : MessageError}
    (undecoded : Message.decode x.1.payload = .error e) :
    (s.receive x).suite = (s.contact).1 ∧ (s.receive x).notices = [] ∧
      (s.receive x).aborts = false := by
  simp only [receive, dispatch, undecoded]
  cases e <;> simp [Step.notices, Step.aborts, List.filterMap_append, contact_silent,
    Activity.notice?]

section steps
variable {ι α : Type} (act : Suite → ι → Step α) (s : Suite)

/-- The suite behind steps on all of these, in order. -/
def behind (xs : List ι) : Suite := xs.foldl (fun s x => (act s x).suite) s

/-- The steps on all of these, in order. -/
def steps (s : Suite) : List ι → List (Step α)
  | [] => []
  | x :: rest => act s x :: steps (act s x).suite rest

/-- What the steps show. -/
def shown (xs : List ι) : List Notice := (s.steps act xs).flatMap Step.notices

theorem behind_append (a b : List ι) :
    s.behind act (a ++ b) = (s.behind act a).behind act b := List.foldl_append

theorem behind_concat (xs : List ι) (x : ι) :
    s.behind act (xs ++ [x]) = (act (s.behind act xs) x).suite := by
  rw [behind_append]
  rfl

theorem steps_append (a b : List ι) :
    s.steps act (a ++ b) = s.steps act a ++ (s.behind act a).steps act b := by
  induction a generalizing s with
  | nil => rfl
  | cons x rest ih => simp only [List.cons_append, steps, ih]; rfl

theorem shown_append (a b : List ι) :
    s.shown act (a ++ b) = s.shown act a ++ (s.behind act a).shown act b := by
  rw [shown, steps_append, List.flatMap_append]
  rfl

theorem shown_cons (x : ι) (rest : List ι) :
    s.shown act (x :: rest) = (act s x).notices ++ (act s x).suite.shown act rest := rfl

theorem shown_concat (xs : List ι) (x : ι) :
    s.shown act (xs ++ [x]) = s.shown act xs ++ (act (s.behind act xs) x).notices := by
  rw [shown_append, shown_cons]
  exact congrArg _ (List.append_nil _)

end steps

/-- The frames that answer packets. -/
def answers (s : Suite) (ps : List (Timed Packet)) : List Bytes :=
  (s.steps receive ps).flatMap Step.frames

theorem answers_append (s : Suite) (a b : List (Timed Packet)) :
    s.answers (a ++ b) = s.answers a ++ (s.behind receive a).answers b := by
  rw [answers, steps_append, List.flatMap_append]
  rfl

theorem answers_concat (s : Suite) (ps : List (Timed Packet)) (x : Timed Packet) :
    s.answers (ps ++ [x]) = s.answers ps ++ ((s.behind receive ps).receive x).frames := by
  rw [answers_append]
  exact congrArg _ (List.append_nil _)

/-- None of the packets ends the run. -/
def GoesOn (s : Suite) (ps : List (Timed Packet)) : Prop :=
  ∀ step ∈ s.steps receive ps, step.ending = .ok none

theorem goesOn_append {s : Suite} {a b : List (Timed Packet)} :
    s.GoesOn (a ++ b) ↔ s.GoesOn a ∧ (s.behind receive a).GoesOn b := by
  simp only [GoesOn, steps_append, List.mem_append]
  constructor
  · intro all
    exact ⟨fun step h => all step (.inl h), fun step h => all step (.inr h)⟩
  · rintro ⟨first, later⟩ step (h | h)
    · exact first step h
    · exact later step h

theorem goesOn_cons {s : Suite} {x : Timed Packet} {rest : List (Timed Packet)} :
    s.GoesOn (x :: rest) ↔ (s.receive x).ending = .ok none ∧ (s.receive x).suite.GoesOn rest := by
  simp only [GoesOn, steps, List.forall_mem_cons]

theorem goesOn_singleton {s : Suite} {x : Timed Packet} :
    s.GoesOn [x] ↔ (s.receive x).ending = .ok none := by
  simp [GoesOn, steps]

/-- The last packet ends the run, and none before it. -/
def Ends (s : Suite) (ps : List (Timed Packet)) (ending : Ending) : Prop :=
  ∃ before x, ps = before ++ [x] ∧ s.GoesOn before ∧
    ((s.behind receive before).receive x).ending = .ok (some ending)

theorem Step.outcome_eq_ok {step : Step (Except MessageError Reaction)}
    {sent : Except LinkError Unit} {y : Option Ending} :
    step.outcome sent = .ok y ↔ sent = .ok () ∧ step.ending = .ok y := by
  cases sent with
  | ok => simp [Step.outcome]
  | error e => simp [Step.outcome]

end Suite

open Suite (receive)

namespace Run

/-- The packets of the rounds to come. -/
def intake (r : Run) : List (Timed Packet) :=
  match r.receiver.readPacket r.settle with
  | (.error _, _) => []
  | (.ok p, receiver) => (p, .ofMillis receiver.clock) ::
    match _h : r.round with
    | (.ok none, r') => r'.intake
    | _ => []
termination_by r.receiver.pending.length
decreasing_by exact round_shrinks _h

/-- The packets of a whole run. -/
def packets (r : Run) : List (Timed Packet) :=
  match r.transmit r.suite.opening with
  | (.error _, _) => []
  | (.ok (), r) => r.intake

section round
variable {r r' : Run} {p : Packet} {receiver : Receiver}

theorem intake_of_error {e : LinkError}
    (read : r.receiver.readPacket r.settle = (.error e, receiver)) : r.intake = [] := by
  rw [intake]
  simp only [read]

theorem intake_of_next (read : r.receiver.readPacket r.settle = (.ok p, receiver))
    (next : r.round = (.ok none, r')) :
    r.intake = (p, .ofMillis receiver.clock) :: r'.intake := by
  rw [intake]
  simp only [read]
  congr 1
  split <;> simp_all

theorem intake_of_last (read : r.receiver.readPacket r.settle = (.ok p, receiver))
    (last : ∀ r', r.round ≠ (.ok none, r')) :
    r.intake = [(p, .ofMillis receiver.clock)] := by
  rw [intake]
  simp only [read]

theorem intake_of_read (read : r.receiver.readPacket r.settle = (.ok p, receiver)) :
    ∃ more, r.intake = (p, .ofMillis receiver.clock) :: more := by
  rw [intake]
  simp only [read]
  exact ⟨_, rfl⟩

/-- A round without an error has read a packet. -/
theorem read_of_round {y : Option Ending} (h : (r.round).1 = .ok y) :
    ∃ p receiver, r.receiver.readPacket r.settle = (.ok p, receiver) := by
  rcases r.round_cases with ⟨e, receiver, -, round⟩ | ⟨p, receiver, step, journal, read, -, -⟩
  · rw [round] at h
    cases h
  · exact ⟨p, receiver, read⟩

/-- Whether its answers go out or not, the packet of a round is a step of the suite. -/
theorem round_step (read : r.receiver.readPacket r.settle = (.ok p, receiver)) :
    (r.round).2.suite = (r.suite.receive (p, .ofMillis receiver.clock)).suite ∧
      r.roundNotices = (r.suite.receive (p, .ofMillis receiver.clock)).notices := by
  obtain ⟨journal, round⟩ := round_eq read rfl
  rw [round]
  refine ⟨rfl, ?_⟩
  simp only [roundNotices, read]
  rfl

/-- A round without an error has sent what the step answers. -/
theorem round_sent (read : r.receiver.readPacket r.settle = (.ok p, receiver))
    {y : Option Ending} (h : (r.round).1 = .ok y) :
    (r.suite.receive (p, .ofMillis receiver.clock)).ending = .ok y ∧
      (r.round).2.sender.accepted = r.sender.accepted ++
        (r.suite.receive (p, .ofMillis receiver.clock)).frames.flatten := by
  obtain ⟨journal, round⟩ := round_eq read rfl
  rw [round] at h ⊢
  obtain ⟨sent, ending⟩ := Suite.Step.outcome_eq_ok.1 h
  refine ⟨ending, ?_⟩
  rcases r.sender.sendAll_cases (r.suite.dispatch p (.ofMillis receiver.clock)).frames with
    ⟨s', all, past⟩ | ⟨cause, s', cut, -⟩
  · rw [all]
    exact past.accepted
  · rw [cut] at sent
    cases sent

/-- The last round of a run takes in one packet at most. -/
theorem last_intake (last : ∀ r', r.round ≠ (.ok none, r')) :
    (r.round).2.suite = r.suite.behind receive r.intake ∧
      r.driveNotices = r.suite.shown receive r.intake := by
  rw [driveNotices_of_last last]
  cases read : r.receiver.readPacket r.settle with
  | mk result receiver =>
    cases result with
    | error e =>
      rw [intake_of_error read, round_of_error read]
      simp only [roundNotices, read]
      exact ⟨rfl, rfl⟩
    | ok p =>
      obtain ⟨suite_eq, noticed⟩ := round_step read
      rw [intake_of_last read last, suite_eq, noticed]
      exact ⟨rfl, (List.append_nil _).symm⟩

end round

/-- The packets that the rounds of a run take in make its suite, and all that it shows. -/
theorem drive_intake (r : Run) : (r.drive).2.suite = r.suite.behind receive r.intake ∧
    r.driveNotices = r.suite.shown receive r.intake := by
  fun_induction Run.drive r with
  | case1 r r' next ih =>
    obtain ⟨p, receiver, read⟩ := read_of_round (congrArg Prod.fst next)
    obtain ⟨suite_eq, noticed⟩ := round_step read
    obtain ⟨suite_later, shown_later⟩ := ih
    rw [next] at suite_eq
    dsimp only at suite_eq
    rw [intake_of_next read next, driveNotices_of_next next, noticed, suite_later, shown_later,
      suite_eq]
    exact ⟨rfl, rfl⟩
  | case2 r ending r' last =>
    have taken := last_intake (r := r) (by simp [last])
    rwa [last] at taken
  | case3 r e r' last =>
    have taken := last_intake (r := r) (by simp [last])
    rwa [last] at taken

theorem drive_ended {r : Run} {ending : Ending} (h : (r.drive).1 = .ok ending) :
    r.suite.Ends r.intake ending ∧
      (r.drive).2.sender.accepted = r.sender.accepted ++ (r.suite.answers r.intake).flatten := by
  fun_induction Run.drive r with
  | case1 r r' next ih =>
    obtain ⟨p, receiver, read⟩ := read_of_round (congrArg Prod.fst next)
    obtain ⟨goes_on, sent⟩ := round_sent read (congrArg Prod.fst next)
    obtain ⟨suite_eq, -⟩ := round_step read
    rw [next] at sent suite_eq
    dsimp only at sent suite_eq
    obtain ⟨⟨before, x, taken, all, last⟩, sent_later⟩ := ih h
    rw [suite_eq] at all last sent_later
    rw [intake_of_next read next, taken]
    refine ⟨⟨_ :: before, x, rfl, Suite.goesOn_cons.2 ⟨goes_on, all⟩, last⟩, ?_⟩
    rw [sent_later, sent, taken, List.append_assoc, ← List.flatten_append]
    rfl
  | case2 r ending' r' last =>
    cases h
    obtain ⟨p, receiver, read⟩ := read_of_round (congrArg Prod.fst last)
    obtain ⟨ends, sent⟩ := round_sent read (congrArg Prod.fst last)
    rw [last] at sent
    rw [intake_of_last read (by simp [last])]
    refine ⟨⟨[], _, rfl, by simp [Suite.GoesOn, Suite.steps], ends⟩, ?_⟩
    rw [sent, Suite.answers, Suite.steps, Suite.steps, List.flatMap_singleton]
  | case3 => cases h

/-- What is taken in fits a frame. -/
theorem intake_fits (r : Run) : ∀ x ∈ r.intake, x.1.payload.length ≤ Packet.maxPayload := by
  fun_induction intake r with
  | case1 => simp
  | case2 r p receiver read later =>
    rw [List.forall_mem_cons]
    refine ⟨Packet.readable_iff.1 ⟨_, _, _, read⟩, ?_⟩
    split
    · rename_i r' next
      exact later r' next
    · simp

/-- A run whose first packet is sent takes in what its rounds do. -/
theorem packets_of_opened {r : Run} {sender : Sender}
    (h : r.sender.send r.suite.opening.frame = (.ok (), sender)) : ∃ journal journal',
    r.packets = { r with sender, journal }.intake ∧
    r.notices = { r with sender, journal }.driveNotices ∧
    r.finish = (({ r with sender, journal }.drive).1, ({ r with sender, journal }.drive).2.ended
      ({ r with sender, journal }.drive).1 journal') := by
  obtain ⟨journal, first⟩ := transmit_eq r.suite.opening_fits
  rw [h] at first
  obtain ⟨journal', finished⟩ := finish_of_converse (converse_of_sent first)
  refine ⟨journal, journal', ?_, ?_, finished⟩
  · simp only [packets, first]
    rfl
  · simp only [notices, first]
    rfl

theorem packets_of_unopened {r : Run} {e : LinkError} {sender : Sender}
    (h : r.sender.send r.suite.opening.frame = (.error e, sender)) :
    r.packets = [] ∧ r.notices = [] := by
  obtain ⟨journal, first⟩ := transmit_eq r.suite.opening_fits
  rw [h] at first
  constructor
  · simp only [packets, first]
    rfl
  · simp only [notices, first]
    rfl

/-- The packets that a run takes in make its suite, and all that it shows. -/
theorem finish_packets (r : Run) : (r.finish).2.suite = r.suite.behind receive r.packets ∧
    r.notices = r.suite.shown receive r.packets := by
  cases first : r.sender.send r.suite.opening.frame with
  | mk result sender =>
    cases result with
    | error e =>
      obtain ⟨journal, finish_eq⟩ := finish_of_unopened first
      obtain ⟨packets_eq, notices_eq⟩ := packets_of_unopened first
      rw [finish_eq, ended_suite, packets_eq, notices_eq]
      exact ⟨rfl, rfl⟩
    | ok =>
      obtain ⟨journal, journal', packets_eq, notices_eq, finish_eq⟩ := packets_of_opened first
      rw [finish_eq, ended_suite, packets_eq, notices_eq]
      exact drive_intake _

theorem packets_fit (r : Run) : ∀ x ∈ r.packets, x.1.payload.length ≤ Packet.maxPayload := by
  cases first : r.sender.send r.suite.opening.frame with
  | mk result sender =>
    cases result with
    | error e => simp [(packets_of_unopened first).1]
    | ok =>
      obtain ⟨journal, journal', packets_eq, -, -⟩ := packets_of_opened first
      rw [packets_eq]
      exact intake_fits _

/-- A run that comes to an ending has done so with its last packet, and has sent its first packet
and the answers to all that it took in. -/
theorem finish_ended {r : Run} {ending : Ending} (h : (r.finish).1 = .ok ending) :
    r.suite.Ends r.packets ending ∧ (r.finish).2.sender.accepted =
      r.sender.accepted ++ r.suite.opening.frame ++ (r.suite.answers r.packets).flatten := by
  rcases r.sender.send_cases r.suite.opening.frame with ⟨s', sent, past⟩ | ⟨cause, s', -, unsent, -⟩
  · obtain ⟨journal, journal', packets_eq, -, finish_eq⟩ := packets_of_opened sent
    rw [finish_eq] at h ⊢
    obtain ⟨ends, taken⟩ := drive_ended h
    rw [packets_eq]
    refine ⟨ends, ?_⟩
    rw [ended_accepted, taken, past.accepted]
  · obtain ⟨journal, finish_eq⟩ := finish_of_unopened unsent
    rw [finish_eq] at h
    cases h

end Run

/-- What is heard in packets, the latest first. -/
abbrev heard (ps : List (Timed Packet)) : History := heardIn (ps.map Prod.fst)

theorem heard_concat (ps : List (Timed Packet)) (x : Timed Packet) :
    heard (ps ++ [x]) = .ofPayload x.1.payload :: heard ps := by
  rw [heard, List.map_append]
  exact heardIn_concat _ _

/-- A new suite follows what is heard for as long as the run goes on. -/
theorem follows_heard {m : Mode} {ps : List (Timed Packet)}
    (fits : ∀ x ∈ ps, x.1.payload.length ≤ Packet.maxPayload)
    (on : Suite.GoesOn { mode := m } ps) :
    Follows (heard ps) (Suite.behind receive { mode := m } ps) ∧
      (Suite.behind receive { mode := m } ps).mode = m := by
  induction ps using List.reverseRecOn with
  | nil => exact ⟨follows_nil m, rfl⟩
  | append_singleton ps x ih =>
    simp only [List.forall_mem_append, List.forall_mem_singleton] at fits
    obtain ⟨earlier, last⟩ := Suite.goesOn_append.1 on
    obtain ⟨follows, mode_eq⟩ := ih fits.1 earlier
    have agrees := dispatch_agrees follows fits.2 x.2
    have next := Suite.goesOn_singleton.1 last
    rw [Suite.behind_concat, heard_concat]
    exact ⟨agrees.follows (agrees.ending.symm.trans next), agrees.mode.trans mode_eq⟩

/-- While the run goes on, what is heard decides what a packet ends, and what answers it. -/
theorem receive_heard {m : Mode} {ps : List (Timed Packet)} {x : Timed Packet}
    (fits : ∀ y ∈ ps ++ [x], y.1.payload.length ≤ Packet.maxPayload)
    (on : Suite.GoesOn { mode := m } ps) :
    let step := (Suite.behind receive { mode := m } ps).receive x
    step.ending = (heard ps).decision m (.ofPayload x.1.payload) ∧
      step.replies = (heard ps).answers (.ofPayload x.1.payload) := by
  rw [List.forall_mem_append, List.forall_mem_singleton] at fits
  obtain ⟨follows, mode_eq⟩ := follows_heard fits.1 on
  have agrees := dispatch_agrees follows fits.2 x.2
  rw [mode_eq] at agrees
  exact ⟨agrees.ending, agrees.replies⟩

end SerialSuite
