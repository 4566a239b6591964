import SerialSuite.Proofs.Trace

/-!
Runs on faulty senders. Next to a faulty sender stands one that never fails: on that a run sends the
frame of its first packet and those that answer what it takes in, each with a flush (`sound_sends`).
Round by round the two runs are one up to the first fault within these frames (`round_beside`), and
there the first of them ends (`finish_faulty`).
-/

namespace SerialSuite

namespace Sender

theorem sent_injective {a b : List Bytes} (h : sent a = sent b) : a = b := by
  induction a generalizing b with
  | nil =>
    cases b with
    | nil => rfl
    | cons g b => cases h
  | cons f a ih =>
    cases b with
    | nil => cases h
    | cons g b =>
      simp only [sent, List.flatMap_cons, List.cons_append, List.nil_append, List.cons.injEq,
        SinkEvent.wrote.injEq, true_and] at h
      rw [h.1, ih h.2]

/-- A reliable sender holds one list of frames. -/
theorem Holds.unique {s : Sender} {a b : List Bytes} (h : s.Holds a) (h' : s.Holds b) : a = b :=
  sent_injective (h.events_eq.symm.trans h'.events_eq)

end Sender

open Suite (receive)

namespace Run

/-- The frames of a run: that of its first packet, and those that answer what it takes in. -/
def frames (r : Run) : List Bytes := r.suite.opening.frame :: r.suite.answers r.packets

section holds
variable {r : Run} {frames : List Bytes}

/-- A round adds the answers to its packet to what a reliable sender holds. -/
theorem round_holds_answers {p : Packet} {receiver : Receiver} (h : r.sender.Holds frames)
    (read : r.receiver.readPacket r.settle = (.ok p, receiver)) :
    (r.round).2.sender.Holds
      (frames ++ (r.suite.receive (p, .ofMillis receiver.clock)).frames) := by
  generalize hs : r.suite.dispatch p (.ofMillis receiver.clock) = step
  obtain ⟨journal, round⟩ := round_eq read hs
  obtain ⟨sender, sent, holds⟩ := Sender.sendAll_holds h step.frames_ne_nil
  rw [round, sent, receive, hs]
  exact holds

/-- Whatever a reliable sender holds stays in front of what a round adds. -/
theorem round_holds (h : r.sender.Holds frames) :
    ∃ more, (r.round).2.sender.Holds (frames ++ more) := by
  rcases r.round_cases with ⟨e, receiver, -, round⟩ | ⟨p, receiver, step, journal, read, -, -⟩
  · rw [round]
    exact ⟨[], by simpa using h⟩
  · exact ⟨_, round_holds_answers h read⟩

theorem drive_holds_of_round (h : (r.round).2.sender.Holds frames) :
    ∃ more, (r.drive).2.sender.Holds (frames ++ more) := by
  apply drive_keeps (I := fun r => ∃ more, r.sender.Holds (frames ++ more))
  · rintro r' ⟨more, held⟩
    obtain ⟨more', held'⟩ := round_holds held
    exact ⟨more ++ more', by rwa [← List.append_assoc]⟩
  · exact ⟨[], by simpa using h⟩

/-- The last round of a run adds the answers to one packet at most. -/
theorem last_holds (h : r.sender.Holds frames) (last : ∀ r', r.round ≠ (.ok none, r')) :
    (r.round).2.sender.Holds (frames ++ r.suite.answers r.intake) := by
  cases read : r.receiver.readPacket r.settle with
  | mk result receiver =>
    cases result with
    | error e =>
      rw [intake_of_error read, round_of_error read]
      simpa [Suite.answers, Suite.steps] using h
    | ok p =>
      rw [intake_of_last read last]
      simpa [Suite.answers, Suite.steps] using round_holds_answers h read

/-- Rounds add the answers to all that they take in. -/
theorem drive_holds (h : r.sender.Holds frames) :
    (r.drive).2.sender.Holds (frames ++ r.suite.answers r.intake) := by
  fun_induction Run.drive r generalizing frames with
  | case1 r r' next ih =>
    obtain ⟨p, receiver, read⟩ := read_of_round (congrArg Prod.fst next)
    obtain ⟨suite_eq, -⟩ := round_step read
    have held := round_holds_answers h read
    rw [next] at suite_eq held
    dsimp only at suite_eq held
    have later := ih held
    rw [suite_eq, List.append_assoc] at later
    rw [intake_of_next read next]
    exact later
  | case2 r ending r' last =>
    have held := last_holds h (by simp [last])
    rwa [last] at held
  | case3 r e r' last =>
    have held := last_holds h (by simp [last])
    rwa [last] at held

end holds

/-- Two runs that differ in their senders only: the first has sent the frames that the second holds,
past whatever faults there were on the way. -/
def Beside (s : Sender) (r g : Run) : Prop := ∃ frames sender journal,
  g = { r with sender, journal } ∧ sender.Holds frames ∧
    s.Past frames.flatten frames.length r.sender

/-- The first run is cut off within what the second sends. -/
def CutOff (s : Sender) (r g : Run) : Prop := ∃ (frames : List Bytes) (cause : IoError),
  (r.round).1 = .error (.link (.io cause)) ∧ s.BreaksOff frames cause (r.round).2.sender ∧
    (g.round).2.sender.Holds frames

theorem round_beside {s : Sender} {r g : Run} (h : Beside s r g) :
    ((r.round).1 = (g.round).1 ∧ Beside s (r.round).2 (g.round).2) ∨ CutOff s r g := by
  obtain ⟨frames, sender, journal, rfl, holds, past⟩ := h
  rcases r.round_cases with
    ⟨e, receiver, read, first⟩ | ⟨p, receiver, step, journal₁, read, dispatched, first⟩
  · have second := @round_of_error { r with sender, journal } e receiver read
    rw [first, second]
    exact .inl ⟨rfl, frames, sender, journal, rfl, holds, past⟩
  · obtain ⟨journal₂, second⟩ :=
      @round_eq { r with sender, journal } p receiver step read dispatched
    obtain ⟨sender', sent, holds'⟩ := Sender.sendAll_holds holds step.frames_ne_nil
    rw [sent] at second
    rcases r.sender.sendAll_cases step.frames with ⟨s', all, later⟩ | ⟨cause, s', cut, broken⟩
    · rw [all] at first
      rw [first, second]
      refine .inl ⟨rfl, frames ++ step.frames, sender', journal₂, rfl, holds', ?_⟩
      simpa using past.trans later
    · rw [cut] at first
      refine .inr ⟨frames ++ step.frames, cause, ?_, ?_, ?_⟩
      · rw [first]
        rfl
      · rw [first]
        exact past.breaksOff broken
      · rw [second]
        exact holds'

/-- The run with a sender that never fails. -/
def sound (r : Run) : Run := { r with sender := {} }

/-- A run sends just these frames, each with a flush, and closes its sender unless it breaks off. -/
structure Sends (r : Run) (frames : List Bytes) : Prop where
  events : (r.finish).2.sender.events = Sender.sent frames ++
    if (r.finish).1 = brokenOff then [] else [.flushed, .shutDown]
  accepted : (r.finish).2.sender.accepted = frames.flatten

/-- A run is no different from what it is with a sender that never fails and gets these frames:
there is no fault within them. The closing flush and the shutdown may still fail. -/
structure Unhurt (r : Run) (frames : List Bytes) : Prop where
  unhurt : ∀ cause, ¬ r.sender.Fault frames.flatten.length frames.length cause
  result : (r.finish).1 = (r.sound.finish).1
  clock : (r.finish).2.receiver.clock = (r.sound.finish).2.receiver.clock
  console : (r.finish).2.console = (r.sound.finish).2.console
  accepted : (r.finish).2.sender.accepted = r.sender.accepted ++ frames.flatten

/-- A run ends with the fault that its sender has within these frames. Those in front of the one
that the fault hits were taken whole, of that one a part, and nothing behind it. -/
structure Hurt (r : Run) (frames : List Bytes) (cause : IoError) : Prop where
  result : (r.finish).1 = .error (.link (.io cause))
  accepted : (r.finish).2.sender.accepted <+: r.sender.accepted ++ frames.flatten
  broken : r.sender.BreaksOff frames cause (r.finish).2.sender

theorem unhurt_of_past {r r' : Run} {x : Except RunError Ending} {frames : List Bytes}
    {sender : Sender} {journal journal₁ journal₂ : Array Diagnostic}
    (finish_eq : r.finish = (x, r'.ended x journal))
    (sound_eq : r.sound.finish = (x, { r' with sender, journal := journal₁ }.ended x journal₂))
    (past : r.sender.Past frames.flatten frames.length r'.sender) : r.Unhurt frames where
  unhurt := past.sound
  result := by rw [finish_eq, sound_eq]
  clock := by rw [finish_eq, sound_eq, ended_receiver, ended_receiver]
  console := by rw [finish_eq, sound_eq, ended_console, ended_console]
  accepted := by
    rw [finish_eq, ended_accepted]
    exact past.accepted

theorem hurt_of_breaksOff {r r' : Run} {frames : List Bytes} {cause : IoError}
    {journal : Array Diagnostic}
    (finish_eq : r.finish = (.error (.link (.io cause)),
      r'.ended (.error (.link (.io cause))) journal))
    (h : r.sender.BreaksOff frames cause r'.sender) (more : List Bytes) :
    r.Hurt (frames ++ more) cause := by
  have broken : r.sender.BreaksOff (frames ++ more) cause (r.finish).2.sender := by
    rw [finish_eq]
    exact (h.of_accepted (ended_accepted ..)).append more
  exact ⟨by rw [finish_eq], broken.prefix, broken⟩

/-- With a sender that never fails a run sends its first packet and goes on. -/
theorem sound_finish (r : Run) : ∃ sender journal journal', sender.Holds [r.suite.opening.frame] ∧
    r.sound.packets = { r with sender, journal }.intake ∧
    r.sound.finish = (({ r with sender, journal }.drive).1,
      ({ r with sender, journal }.drive).2.ended
        ({ r with sender, journal }.drive).1 journal') := by
  have opening_ne : r.suite.opening.frame ≠ [] := by simp [Packet.frame]
  have reliable : ({} : Sender).Reliable := ⟨by simp, rfl, rfl, rfl⟩
  obtain ⟨sender, opened, holds⟩ := Sender.send_holds (Sender.holds_nil reliable rfl) opening_ne
  obtain ⟨journal, journal', packets_eq, -, finish_eq⟩ := @packets_of_opened r.sound sender opened
  exact ⟨sender, journal, journal', holds, packets_eq, finish_eq⟩

theorem sends_of_holds {r r' : Run} {x : Except RunError Ending} {frames : List Bytes}
    {journal : Array Diagnostic} (finish_eq : r.finish = (x, r'.ended x journal))
    (held : r'.sender.Holds frames) : r.Sends frames := by
  constructor
  · rw [finish_eq, ended_sender]
    split
    · rw [held.events_eq, List.append_nil]
    · exact (Sender.close_holds held).2
  · rw [finish_eq, ended_accepted, ← Sender.flatMap_bytes_events, held.events_eq,
      Sender.bytes_sent]

end Run

/-- A faulty sink against one that never fails, on the same run. There the run sends the frame of
its first packet and those that answer what it takes in. Without a fault within these frames nothing
is different on the faulty sink, whatever becomes of the closing flush and of the shutdown: partial
writes and single interruptions lose no byte and repeat none. Otherwise the fault is the result, and
the bytes taken break off where it is. -/
theorem finish_faulty (r : Run) :
    r.sound.Sends r.sound.frames ∧
      (r.Unhurt r.sound.frames ∨ ∃ cause : IoError, r.Hurt r.sound.frames cause) := by
  obtain ⟨good, journal₁, journal₂, holds, packets_eq, sound_eq⟩ := r.sound_finish
  have all := Run.drive_holds (r := { r with sender := good, journal := journal₁ }) holds
  have frames_eq : [r.suite.opening.frame] ++
      r.suite.answers { r with sender := good, journal := journal₁ }.intake = r.sound.frames := by
    rw [← packets_eq]
    rfl
  rw [frames_eq] at all
  refine ⟨Run.sends_of_holds sound_eq all, ?_⟩
  rcases r.sender.send_cases r.suite.opening.frame with
    ⟨s', sent, past⟩ | ⟨cause, s', part, unsent, front, taken, fault⟩
  · obtain ⟨journal₃, journal₄, finish_eq⟩ := Run.finish_of_opened sent
    have beside : Run.Beside r.sender { r with sender := s', journal := journal₃ }
        { r with sender := good, journal := journal₁ } :=
      ⟨[r.suite.opening.frame], good, journal₁, rfl, holds, by simpa using past⟩
    rcases Run.drive_together (fun _ _ => Run.round_beside) beside with
      ⟨result, frames, sender, journal, last, held, through⟩ |
      ⟨r', g', -, ⟨frames, cause, cut, broken, held⟩, driven, driven'⟩
    · have same : frames = r.sound.frames := by
        rw [last] at all
        exact held.unique all
      rw [same] at through
      rw [last, ← result] at sound_eq
      exact .inl (Run.unhurt_of_past finish_eq sound_eq through)
    · obtain ⟨more, held'⟩ := Run.drive_holds_of_round held
      have same : frames ++ more = r.sound.frames := by
        rw [driven'] at held'
        exact held'.unique all
      rw [← driven, Run.drive_of_error (Prod.ext cut rfl)] at finish_eq
      rw [← same]
      exact .inr ⟨cause, Run.hurt_of_breaksOff finish_eq broken more⟩
  · obtain ⟨journal₃, finish_eq⟩ := Run.finish_of_unopened unsent
    have broken : r.sender.BreaksOff [r.suite.opening.frame] cause s' :=
      ⟨[], _, [], part, rfl, front, by simpa using taken, r.sender.not_fault_zero,
        by simpa using fault⟩
    exact .inr ⟨cause, Run.hurt_of_breaksOff finish_eq broken _⟩

end SerialSuite
