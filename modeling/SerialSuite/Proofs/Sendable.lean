import SerialSuite.Proofs.History
import SerialSuite.Proofs.Overflow

/-!
Nothing that a run holds is too long to be sent. A packet that was read has at most the bytes that
its size field counts (`readable_iff`); the state in it then fits a reply, and so does the reply a
frame. What is left to go wrong is listed in `RunError.Arises`.
-/

namespace SerialSuite

/-- The errors that a run can end with. To break off is no error of a run: it has no result then. -/
inductive RunError.Arises : RunError → Prop
  | misframed {marker : Marker} {found : UInt8} : found ≠ marker.byte →
      Arises (.link (.misframed marker marker.byte found))
  | io (cause : IoError) : Arises (.link (.io cause))
  | silent (limit : Duration) : Arises (.link (.silent limit))
  | empty : Arises (.message .empty)
  | truncated {code : UInt8} {length least : Nat} : length < least →
      Arises (.message (.truncated code length least))

namespace Receiver

theorem fill_error {r : Receiver} {want : Nat} {e : LinkError} (h : (r.fill want).1 = .error e)
    (whole : e ≠ .io .overflow) : RunError.Arises (.link e) := by
  rcases r.fill_result want with ⟨b, filled⟩ | ⟨cause, failed⟩ | silent | broken
  · cases filled.symm.trans h
  · cases failed.symm.trans h
    exact .io cause
  · cases silent.symm.trans h
    exact .silent _
  · exact absurd (Except.error.inj (h.symm.trans broken)) whole

theorem readPacket_error {r r' : Receiver} {settle : Nat} {e : LinkError}
    (h : r.readPacket settle = (.error e, r')) (whole : e ≠ .io .overflow) :
    RunError.Arises (.link e) := by
  by_cases consumed : ∃ b, Consumes (Packet.reading settle) b (.error e)
  · obtain ⟨b, consumes⟩ := consumed
    cases framed_of_consumes consumes with
    | sync wrong | startOfData wrong => exact .misframed wrong
    | endOfData _ wrong => exact .misframed wrong
  · obtain ⟨r₁, want, failed, -⟩ := perform_error (not_exists.1 consumed) (congrArg Prod.fst h)
    exact fill_error failed whole

end Receiver

/-- Some receiver reads the packet. -/
def Packet.Readable (p : Packet) : Prop :=
  ∃ (settle : Nat) (r r' : Receiver), r.readPacket settle = (.ok p, r')

/-- Just the packets that fit a frame can be read. -/
theorem Packet.readable_iff {p : Packet} : p.Readable ↔ p.payload.length ≤ maxPayload := by
  constructor
  · rintro ⟨settle, r, r', read⟩
    obtain ⟨b, consumes, -⟩ := Receiver.consumes_of_perform read
    cases framed_of_consumes consumes with
    | packet fits => exact fits
  · intro fits
    have steady : Receiver.Steady { arrivals := [.data p.frame] } := ⟨rfl, by simp⟩
    have pending : Receiver.pending { arrivals := [.data p.frame] } = p.frame ++ [] := rfl
    obtain ⟨r', read, -⟩ := Receiver.readPacket_framed 0 steady (.packet fits) pending
    exact ⟨0, _, r', read⟩

namespace Message

/-- The state that comes with a message of the target. -/
def state? : Message → Option SavedState
  | testStarted _ _ state | testResult _ _ state => some state
  | _ => none

def name? : Message → Option TestName
  | testStarted name _ _ => some name
  | _ => none

variable {payload : Bytes}

/-- A payload of a known code is too short, or it is a message. -/
theorem decode_error (fits : payload.length ≤ Packet.maxPayload) {e : MessageError}
    (h : decode payload = .error e) (known : ∀ c, e ≠ .unknownCode c) :
    RunError.Arises (.message e) := by
  match payload with
  | [] =>
    cases h
    exact .empty
  | b :: rest =>
    cases code_eq : Code.ofByte? b with
    | none =>
      rw [decode_unknown code_eq] at h
      cases h
      exact absurd rfl (known b)
    | some code =>
      obtain rfl := Code.byte_of_ofByte? code_eq
      rcases Nat.lt_or_ge (rest.length + 1) code.least with short | long
      · rw [decode_short short] at h
        cases h
        exact .truncated short
      · have means := ofPayload_means code fits
        rw [← decode_eq_ofPayload long, h] at means
        cases code <;> cases means <;> exact absurd rfl (known _)

theorem decode_state (fits : payload.length ≤ Packet.maxPayload) :
    ((decode payload).toOption.bind state?).map SavedState.bytes =
      (Heard.ofPayload payload).state? := by
  have means := decode_means fits
  generalize Heard.ofPayload payload = x at means ⊢
  generalize decode payload = result at means ⊢
  cases means <;> rfl

/-- The name in the last bytes of a payload that starts a test, without its NULs. -/
def nameIn (payload : Bytes) : Option Bytes :=
  if payload.head? = some 0x33 ∧ 104 ≤ payload.length then
    some (TestName.dropNuls (payload.drop (payload.length - 96)))
  else none

theorem start_of_heard {nightlyOnly : Bool} {state : Bytes}
    (h : Heard.ofPayload payload = .start nightlyOnly state) :
    payload.head? = some 0x33 ∧ 104 ≤ payload.length := by
  unfold Heard.ofPayload at h
  grind

theorem name_of_means {result : Except MessageError Message} {x : Heard} (means : Means result x)
    (h : ∀ nightlyOnly state, x ≠ .start nightlyOnly state) :
    result.toOption.bind name? = none := by
  cases means with
  | start => exact absurd rfl (h _ _)
  | _ => rfl

theorem decode_name (fits : payload.length ≤ Packet.maxPayload) :
    ((decode payload).toOption.bind name?).map TestName.bytes = nameIn payload := by
  by_cases start : payload.head? = some 0x33 ∧ 104 ≤ payload.length
  · obtain ⟨rest, rfl⟩ := List.head?_eq_some_iff.1 start.1
    have front_fits : ((0x33 :: rest).take (rest.length + 1 - 96)).length ≤ Packet.maxPayload :=
      Nat.le_trans (List.length_take_le ..) (Nat.le_trans (Nat.sub_le ..) fits)
    obtain ⟨state, kept, -⟩ := savedState_drop front_fits
    have last : ((0x33 :: rest).drop (rest.length + 1 - 96)).length ≤ 96 := by
      simp only [List.length_drop, List.length_cons]
      omega
    have decoded : decode (0x33 :: rest) = ofPayload .started (0x33 :: rest) :=
      @decode_eq_ofPayload .started rest start.2
    rw [nameIn, if_pos start, decoded]
    simp only [ofPayload, List.splitAt_eq, List.length_cons, TestName.maxLength, kept, Except.map,
      Except.toOption, Option.bind_some, name?, Option.map_some, TestName.ofField]
    rw [List.take_of_length_le last]
  · have other (nightlyOnly : Bool) (state : Bytes) :
        Heard.ofPayload payload ≠ .start nightlyOnly state := fun h => start (start_of_heard h)
    rw [name_of_means (decode_means fits) other, nameIn, if_neg start]
    rfl

end Message

namespace Suite

variable {s : Suite} {ps : List Packet}

theorem handle_progress (s : Suite) (m : Message) (now : Duration) :
    (s.handle m now).suite.progress.saved = m.state?.or s.progress.saved ∧
      (s.handle m now).suite.progress.test = m.name?.getD s.progress.test := by
  cases m with
  | stateRequest =>
    simp only [handle, answerRequest]
    split <;> exact ⟨rfl, rfl⟩
  | init | stateResponse | testStarted | testResult => exact ⟨rfl, rfl⟩

theorem contact_progress (s : Suite) : (s.contact).1.progress = s.progress := by
  unfold contact
  split <;> rfl

/-- A packet is a message that the suite handles, or it is no more than a contact. -/
theorem dispatch_cases (s : Suite) (p : Packet) (now : Duration) :
    (∃ m activity, Message.decode p.payload = .ok m ∧ s.dispatch p now =
      ⟨((s.contact).1.handle m now).suite, activity, .ok ((s.contact).1.handle m now).result⟩) ∨
    ∃ e activity result, Message.decode p.payload = .error e ∧
      s.dispatch p now = ⟨(s.contact).1, activity, result⟩ ∧
      (result = .ok {} ∨ result = .error e ∧ ∀ c, e ≠ .unknownCode c) := by
  cases decoded : Message.decode p.payload with
  | ok m =>
    obtain ⟨activity, step⟩ := dispatch_of_decode now decoded
    exact .inl ⟨m, activity, rfl, step⟩
  | error e =>
    by_cases unknown : ∃ c, e = .unknownCode c
    · obtain ⟨c, rfl⟩ := unknown
      obtain ⟨activity, step⟩ := dispatch_of_unknown now decoded
      exact .inr ⟨_, activity, _, rfl, step, .inl rfl⟩
    · have known := not_exists.1 unknown
      obtain ⟨activity, step⟩ := dispatch_of_malformed now decoded known
      exact .inr ⟨e, activity, _, rfl, step, .inr ⟨rfl, known⟩⟩

/-- A packet leaves the state and the name that it brings, or those that were there. -/
theorem dispatch_progress (s : Suite) (p : Packet) (now : Duration) :
    (s.dispatch p now).suite.progress.saved =
        ((Message.decode p.payload).toOption.bind Message.state?).or s.progress.saved ∧
      (s.dispatch p now).suite.progress.test =
        ((Message.decode p.payload).toOption.bind Message.name?).getD s.progress.test := by
  rw [← s.contact_progress]
  rcases s.dispatch_cases p now with
    ⟨m, activity, decoded, step⟩ | ⟨e, activity, result, decoded, step, -⟩
  · rw [decoded, step]
    exact handle_progress _ m now
  · rw [decoded, step]
    exact ⟨rfl, rfl⟩

/-- A new suite, or a suite that was reached and has got a packet that some receiver has read. The
packets are listed, the latest first. -/
inductive Reached : List Packet → Suite → Prop
  | fresh (mode : Mode) : Reached [] { mode }
  | step {ps : List Packet} {s : Suite} {p : Packet} (now : Duration) : Reached ps s → p.Readable →
      Reached (p :: ps) (s.dispatch p now).suite

/-- What a suite keeps is what stood in the packets that it was given. -/
structure Keeps (ps : List Packet) (s : Suite) : Prop where
  saved : s.progress.saved.map SavedState.bytes =
    ps.findSome? fun p => (Heard.ofPayload p.payload).state?
  test : s.progress.test.bytes = (ps.findSome? fun p => Message.nameIn p.payload).getD []

theorem Keeps.dispatch (h : Keeps ps s) {p : Packet}
    (fits : p.payload.length ≤ Packet.maxPayload) (now : Duration) :
    Keeps (p :: ps) (s.dispatch p now).suite := by
  obtain ⟨saved, test⟩ := s.dispatch_progress p now
  constructor
  · rw [saved, List.findSome?_cons, ← Message.decode_state fits]
    cases (Message.decode p.payload).toOption.bind Message.state? with
    | none => exact h.saved
    | some state => rfl
  · rw [test, List.findSome?_cons, ← Message.decode_name fits]
    cases (Message.decode p.payload).toOption.bind Message.name? with
    | none => exact h.test
    | some name => rfl

theorem Reached.keeps (h : Reached ps s) : Keeps ps s := by
  induction h with
  | fresh mode => exact ⟨rfl, rfl⟩
  | step now _ readable ih => exact ih.dispatch (Packet.readable_iff.1 readable) now

theorem dispatch_error (s : Suite) {p : Packet} (fits : p.payload.length ≤ Packet.maxPayload)
    (now : Duration) {e : MessageError} (h : (s.dispatch p now).result = .error e) :
    RunError.Arises (.message e) := by
  rcases s.dispatch_cases p now with
    ⟨m, activity, decoded, step⟩ | ⟨e', activity, result, decoded, step, rfl | ⟨rfl, known⟩⟩
  · rw [step] at h
    cases h
  · rw [step] at h
    cases h
  · rw [step] at h
    cases h
    exact Message.decode_error fits decoded known

/-- All that a suite holds can be sent, and whatever packet is read next, so can the replies. -/
structure Sendable (ps : List Packet) (s : Suite) : Prop where
  keeps : Keeps ps s
  saved_le : ∀ state ∈ s.progress.saved, state.bytes.length ≤ SavedState.maxLength
  test_le : s.progress.test.bytes.length ≤ TestName.maxLength
  test_no_nul : 0 ∉ s.progress.test.bytes
  replies : ∀ (p : Packet) (now : Duration), p.Readable →
    ∀ q ∈ (s.dispatch p now).replies, q.encode = .ok q.frame
  errors : ∀ (p : Packet) (now : Duration), p.Readable →
    ∀ e, (s.dispatch p now).result = .error e → RunError.Arises (.message e)

theorem Reached.sendable (h : Reached ps s) : Sendable ps s where
  keeps := h.keeps
  saved_le := fun state _ => state.length_le
  test_le := s.progress.test.length_le
  test_no_nul := s.progress.test.no_nul
  replies := fun p now _ _ hq =>
    Receiver.encode_eq_ok_iff.2 ⟨s.dispatch_replies_fit p now hq, rfl⟩
  errors := fun _ now readable _ failed =>
    s.dispatch_error (Packet.readable_iff.1 readable) now failed

end Suite

namespace Run

theorem round_error {r : Run} {e : RunError} (h : (r.round).1 = .error e)
    (whole : e ≠ .link (.io .overflow)) : e.Arises := by
  rcases r.round_cases with
    ⟨e', receiver, read, round⟩ | ⟨p, receiver, step, journal, read, dispatched, round⟩
  · rw [round] at h
    cases h
    exact Receiver.readPacket_error read fun broken => whole (congrArg RunError.link broken)
  · have fits := Packet.readable_iff.1 ⟨_, _, _, read⟩
    rw [round] at h
    rcases r.sender.sendAll_cases step.frames with ⟨s', all, -⟩ | ⟨cause, s', cut, -⟩
    · rw [all] at h
      cases result : step.result with
      | error e' =>
        simp only [Suite.Step.outcome, Suite.Step.ending, result] at h
        cases h
        exact r.suite.dispatch_error fits _ (dispatched ▸ result)
      | ok reaction =>
        simp only [Suite.Step.outcome, Suite.Step.ending, result] at h
        cases h
    · rw [cut] at h
      cases h
      exact .io cause

theorem drive_error {r : Run} {e : RunError} (h : (r.drive).1 = .error e)
    (whole : e ≠ .link (.io .overflow)) : e.Arises := by
  fun_induction Run.drive r with
  | case1 r r' next ih => exact ih h
  | case2 r ending r' last => cases h
  | case3 r e' r' last =>
    cases h
    exact round_error (congrArg Prod.fst last) whole

theorem finish_error {r : Run} {e : RunError} (h : (r.finish).1 = .error e)
    (whole : (r.finish).1 ≠ brokenOff) : e.Arises := by
  rw [h] at whole
  rcases r.sender.send_cases r.suite.opening.frame with ⟨s', sent, -⟩ | ⟨cause, s', _, unsent, -⟩
  · obtain ⟨journal, journal', finish_eq⟩ := finish_of_opened sent
    rw [finish_eq] at h
    exact drive_error h (mt (congrArg Except.error) whole)
  · obtain ⟨journal, finish_eq⟩ := finish_of_unopened unsent
    rw [finish_eq] at h
    cases h
    exact .io cause

variable {ps : List Packet}

/-- A round gives its suite a packet that was read, or none. -/
theorem round_reached {r : Run} (h : ∃ qs, Suite.Reached (qs ++ ps) r.suite) :
    ∃ qs, Suite.Reached (qs ++ ps) (r.round).2.suite := by
  obtain ⟨qs, reached⟩ := h
  rcases r.round_cases with
    ⟨e, receiver, -, round⟩ | ⟨p, receiver, _, journal, read, rfl, round⟩
  · rw [round]
    exact ⟨qs, reached⟩
  · rw [round]
    exact ⟨p :: qs, reached.step _ ⟨_, _, _, read⟩⟩

theorem finish_reached {r : Run} (h : Suite.Reached ps r.suite) :
    ∃ qs, Suite.Reached (qs ++ ps) (r.finish).2.suite := by
  apply finish_keeps (I := fun r => ∃ qs, Suite.Reached (qs ++ ps) r.suite)
  · intro r' reached
    exact round_reached reached
  · intro r' result journal reached
    rwa [ended_suite]
  · intro sender journal
    exact ⟨[], h⟩

end Run

/-- No run comes to anything that cannot be sent. It ends with an error only for a wrong marker, a
failing read or write, silence, or a message that is empty or too short; and it breaks off only
under a watchdog whose next deadline is too late for the clock. A suite that was given packets that
were read holds a state and a name that fit, and answers the next one with replies that fit their
frames; a run takes its suite from one such to another. -/
theorem finish_sendable (r : Run) :
    (∀ e, (r.finish).1 = .error e → (r.finish).1 ≠ brokenOff → e.Arises) ∧
    ((r.finish).1 = brokenOff → ∃ limit, r.receiver.pacing.limit = some limit ∧
      lastInstant < (r.finish).2.receiver.clock + limit) ∧
    (∀ ps, Suite.Reached ps r.suite → ∃ qs, Suite.Reached (qs ++ ps) (r.finish).2.suite) ∧
    ∀ ps s, Suite.Reached ps s → s.Sendable ps := by
  refine ⟨fun _ => Run.finish_error, ?_, fun _ => Run.finish_reached,
    fun _ _ => Suite.Reached.sendable⟩
  intro broken
  exact r.receiver.pacing.exists_of_overflows (Run.finish_overflow broken)

/-- A run that a truncated start ends. -/
theorem finish_sendable_truncated :
    let r : Run := { receiver := { arrivals := [.data (Packet.frame ⟨2, [0x33, 1]⟩)] } }
    (∃ e, (r.finish).1 = .error e ∧ e.Arises) ∧
      ∃ ps, Suite.Reached ps (r.finish).2.suite ∧ (r.finish).2.suite.Sendable ps := by
  intro r
  obtain ⟨arises, -, reaches, sendable⟩ := finish_sendable r
  have broken : exitCode (r.finish).1 = ExitCode.protocol := by decide +kernel
  constructor
  · cases result : (r.finish).1 with
    | ok ending =>
      rw [result] at broken
      cases ending <;> cases broken
    | error e =>
      have whole : (r.finish).1 ≠ brokenOff := by
        intro off
        rw [off] at broken
        cases broken
      exact ⟨e, rfl, arises e result whole⟩
  · obtain ⟨qs, reached⟩ := reaches [] (.fresh {})
    exact ⟨_, reached, sendable _ _ reached⟩

end SerialSuite
