import SerialSuite.Proofs.Rounds

/-!
A suite seen from outside, by the payloads that the host has heard so far: which state is held,
which tests are skipped, which payload ends the run and how (`decision`). None of it is read off the
suite. `Follows` ties the two together, and `dispatch_agrees` says that a step of the suite keeps
them together.
-/

namespace SerialSuite

/-- What a payload is, going by its first byte and its length. -/
inductive Heard where
  /-- Nothing at all, or too little for its first byte. -/
  | malformed (e : MessageError)
  | request
  | start (nightlyOnly : Bool) (state : Bytes)
  | result (failed isFinal : Bool) (state : Bytes)
  /-- Nothing to act on. -/
  | other
  deriving DecidableEq, Repr

/-- What was heard before, the latest first. -/
abbrev History := List Heard

namespace Heard

def ofPayload (payload : Bytes) : Heard :=
  match payload with
  | [] => .malformed .empty
  | b :: _ =>
    if b = 0x11 then .request
    else if b = 0x33 then
      if payload.length < 104 then .malformed (.truncated b payload.length 104)
      else .start (payload.getD 1 0 != 0) ((payload.take (payload.length - 96)).drop 8)
    else if b = 0x34 ∨ b = 0x35 ∨ b = 0x44 ∨ b = 0x45 then
      if payload.length < 8 then .malformed (.truncated b payload.length 8)
      else .result (b = 0x35 ∨ b = 0x45) (b = 0x44 ∨ b = 0x45) (payload.drop 8)
    else if b = 0x22 ∧ payload.length < 8 then .malformed (.truncated b payload.length 8)
    else .other

/-- The state that comes with a start or a result. -/
def state? : Heard → Option Bytes
  | start _ state | result _ _ state => some state
  | _ => none

def nightlyOnly? : Heard → Option Bool
  | start nightlyOnly _ => some nightlyOnly
  | _ => none

def isFinal : Heard → Bool
  | result _ isFinal _ => isFinal
  | _ => false

/-- How many answers it gets. -/
def pulses : Heard → Nat
  | request => 1
  | start .. | result .. => 2
  | _ => 0

end Heard

namespace History

/-- The state of the latest start or result. -/
def held (h : History) : Option Bytes := h.findSome? Heard.state?

/-- Results that come now are skipped: the latest start was for nightly runs only, and this is
none. -/
def skips (m : Mode) (h : History) : Bool :=
  !m.nightly && (h.findSome? Heard.nightlyOnly?).getD false

/-- What the run makes of the next payload: an error, an ending, or neither. -/
def decision (m : Mode) (before : History) : Heard → Except RunError (Option Ending)
  | .malformed e => .error (.message e)
  | .result true _ _ =>
    .ok (if m.stopOnError && !before.skips m then some .aborted else none)
  | .request => .ok (if before.any Heard.isFinal then some .completed else none)
  | _ => .ok none

/-- The packet that hands back a state. -/
def response (state : Option Bytes) : Packet :=
  .host (match state with
    | none => [0x55]
    | some b => [0x22, 0, 0, 0, 0, 0, 0, 0] ++ b)

/-- The packets that answer a payload. -/
def answers (before : History) (x : Heard) : List Packet :=
  List.replicate x.pulses (response (held (x :: before)))

end History

/-- What a payload is agrees with what it decodes to. -/
inductive Means : Except MessageError Message → Heard → Prop
  | malformed {e} : (∀ c, e ≠ .unknownCode c) → Means (.error e) (.malformed e)
  | request : Means (.ok .stateRequest) .request
  | start (name nightlyOnly) (state : SavedState) :
      Means (.ok (.testStarted name nightlyOnly state)) (.start nightlyOnly state.bytes)
  | result (outcome isFinal) (state : SavedState) :
      Means (.ok (.testResult outcome isFinal state))
        (.result (outcome = .fail) isFinal state.bytes)
  | unknown (c) : Means (.error (.unknownCode c)) .other
  | init (nightly) : Means (.ok (.init nightly)) .other
  | response (state) : Means (.ok (.stateResponse state)) .other

/-- What stands behind the first eight bytes of a payload can be saved. -/
theorem savedState_drop {b : Bytes} (fits : b.length ≤ Packet.maxPayload) :
    ∃ state, SavedState.ofBytes (b.drop Code.stateOffset) = .ok state ∧
      state.bytes = b.drop 8 := by
  have short : (b.drop 8).length ≤ SavedState.maxLength := by
    rw [List.length_drop]
    exact Nat.sub_le_sub_right fits _
  exact ⟨⟨b.drop 8, short⟩, dif_pos short, rfl⟩

theorem ofPayload_unknown {b : UInt8} {rest : Bytes} (h : Code.ofByte? b = none) :
    Heard.ofPayload (b :: rest) = .other := by
  -- a byte without a code is none of the bytes that matter
  have other : ∀ code ∈ Code.all, code.byte ≠ b := by
    simpa [Code.ofByte?] using h
  simp only [Code.all, List.forall_mem_cons, Code.byte] at other
  obtain ⟨h11, h22, h33, h34, h35, h44, h45, -, -, -, -⟩ := other
  simp only [Heard.ofPayload, h11.symm, h22.symm, h33.symm, h34.symm, h35.symm, h44.symm, h45.symm]
  simp

theorem ofPayload_short {code : Code} {rest : Bytes} (short : rest.length + 1 < code.least) :
    Heard.ofPayload (code.byte :: rest) =
      .malformed (.truncated code.byte (rest.length + 1) code.least) := by
  cases code with
  | stateRequest | noState | init => simp [Code.least] at short
  | restore | started =>
    simp [Code.least, Code.stateOffset, TestName.maxLength] at short
    simp [Heard.ofPayload, Code.byte, short, Code.least, Code.stateOffset, TestName.maxLength]
  | result outcome isFinal =>
    simp [Code.least, Code.stateOffset] at short
    cases outcome <;> cases isFinal <;>
      simp [Heard.ofPayload, Code.byte, short, Code.least, Code.stateOffset]

/-- What is heard under a code when there is enough of it. -/
def Code.heard (payload : Bytes) : Code → Heard
  | .stateRequest => .request
  | .started => .start (payload.getD 1 0 != 0) ((payload.take (payload.length - 96)).drop 8)
  | .result outcome isFinal => .result (outcome = .fail) isFinal (payload.drop 8)
  | _ => .other

theorem ofPayload_long {code : Code} {rest : Bytes} (long : code.least ≤ rest.length + 1) :
    Heard.ofPayload (code.byte :: rest) = code.heard (code.byte :: rest) := by
  cases code with
  | stateRequest | noState => rfl
  | init nightly => cases nightly <;> rfl
  | restore | started =>
    have := Nat.not_lt.2 long
    simp [Code.least, Code.stateOffset, TestName.maxLength] at this
    simp [Heard.ofPayload, Code.heard, Code.byte, this]
  | result outcome isFinal =>
    have := Nat.not_lt.2 long
    simp [Code.least, Code.stateOffset] at this
    cases outcome <;> cases isFinal <;> simp [Heard.ofPayload, Code.heard, Code.byte, this]

theorem decode_unknown {b : UInt8} {rest : Bytes} (h : Code.ofByte? b = none) :
    Message.decode (b :: rest) = .error (.unknownCode b) := by
  simp [Message.decode, h]

theorem decode_short {code : Code} {rest : Bytes} (short : rest.length + 1 < code.least) :
    Message.decode (code.byte :: rest) =
      .error (.truncated code.byte (rest.length + 1) code.least) := by
  simp [Message.decode, Code.ofByte?_byte, short]

theorem ofPayload_means {payload : Bytes} (code : Code)
    (fits : payload.length ≤ Packet.maxPayload) :
    Means (Message.ofPayload code payload) (code.heard payload) := by
  cases code with
  | stateRequest => exact .request
  | noState => exact .response none
  | init nightly => exact .init nightly
  | restore =>
    obtain ⟨state, kept, -⟩ := savedState_drop fits
    rw [Message.ofPayload, kept]
    exact .response _
  | started =>
    have front_fits : (payload.take (payload.length - 96)).length ≤ Packet.maxPayload :=
      Nat.le_trans (List.length_take_le ..) (Nat.le_trans (Nat.sub_le ..) fits)
    obtain ⟨state, kept, bytes_eq⟩ := savedState_drop front_fits
    rw [Code.heard, ← bytes_eq]
    simp only [Message.ofPayload, List.splitAt_eq, TestName.maxLength, kept, Except.map]
    exact .start ..
  | result outcome isFinal =>
    obtain ⟨state, kept, bytes_eq⟩ := savedState_drop fits
    rw [Message.ofPayload, kept, Code.heard, ← bytes_eq]
    exact .result ..

/-- What is heard in a payload is what it decodes to, as long as it fits a frame. -/
theorem decode_means {payload : Bytes} (fits : payload.length ≤ Packet.maxPayload) :
    Means (Message.decode payload) (Heard.ofPayload payload) := by
  match payload with
  | [] => exact .malformed (by simp)
  | b :: rest =>
    cases known : Code.ofByte? b with
    | none =>
      rw [ofPayload_unknown known, decode_unknown known]
      exact .unknown b
    | some code =>
      obtain rfl := Code.byte_of_ofByte? known
      rcases Nat.lt_or_ge (rest.length + 1) code.least with short | long
      · rw [decode_short short, ofPayload_short short]
        exact .malformed (by simp)
      · rw [Message.decode_eq_ofPayload long, ofPayload_long long]
        exact ofPayload_means code fits

/-- A suite that is where a history of payloads, none of which ended the run, has brought it. -/
structure Follows (h : History) (s : Suite) : Prop where
  saved : s.progress.saved.map SavedState.bytes = h.held
  nightlyOnly : s.progress.nightlyOnly = (h.findSome? Heard.nightlyOnly?).getD false
  draining : s.phase = .draining ↔ h.any Heard.isFinal = true
  going_on : s.phase ≠ .done
  unfailed : s.mode.stopOnError = true → s.progress.tally.failed = 0

/-- A step of a suite is what the history so far makes of a payload. -/
structure Agrees (m : Mode) (before : History) (x : Heard)
    (step : Suite.Step (Except MessageError Reaction)) : Prop where
  ending : step.ending = before.decision m x
  replies : step.replies = before.answers x
  mode : step.suite.mode = m
  follows : before.decision m x = .ok none → Follows (x :: before) step.suite
  completed : before.decision m x = .ok (some .completed) → m.stopOnError = true →
    step.suite.progress.tally.failed = 0
  aborted : before.decision m x = .ok (some .aborted) → m.stopOnError = true →
    step.suite.progress.tally.failed = 1

theorem follows_nil (m : Mode) : Follows [] { mode := m } where
  saved := rfl
  nightlyOnly := rfl
  draining := by simp
  going_on := by simp
  unfailed := fun _ => rfl

namespace Suite

theorem contact_mode (s : Suite) : (s.contact).1.mode = s.mode := by
  unfold contact
  split <;> rfl

theorem contact_follows {h : History} {s : Suite} (hf : Follows h s) : Follows h (s.contact).1 := by
  unfold contact
  split
  · rename_i first
    have not_final : h.any Heard.isFinal ≠ true := by
      intro final
      rw [hf.draining.2 final] at first
      cases first
    exact ⟨hf.saved, hf.nightlyOnly, by simp [not_final], by simp, hf.unfailed⟩
  · exact hf

theorem stateReply_eq {s : Suite} {state : Option Bytes}
    (h : s.progress.saved.map SavedState.bytes = state) :
    s.stateReply = History.response state := by
  subst h
  unfold stateReply
  cases s.progress.saved <;> rfl

theorem judge_isFailure (s : Suite) (outcome : Outcome) (now : Duration) :
    (s.judge outcome now).isFailure =
      (decide (outcome = .fail) && !(!s.mode.nightly && s.progress.nightlyOnly)) := by
  unfold judge
  cases s.progress.nightlyOnly <;> cases s.mode.nightly <;> cases outcome <;> rfl

theorem failed_count (t : Tally) (v : Verdict) :
    (t.count v).failed = t.failed + if v.isFailure then 1 else 0 := by
  cases v <;> rfl

theorem dispatch_of_decode {s : Suite} {p : Packet} {m : Message} (now : Duration)
    (h : Message.decode p.payload = .ok m) : ∃ activity, s.dispatch p now =
      ⟨((s.contact).1.handle m now).suite, activity, .ok ((s.contact).1.handle m now).result⟩ := by
  simp only [dispatch, h]
  exact ⟨_, rfl⟩

theorem dispatch_of_unknown {s : Suite} {p : Packet} {c : UInt8} (now : Duration)
    (h : Message.decode p.payload = .error (.unknownCode c)) :
    ∃ activity, s.dispatch p now = ⟨(s.contact).1, activity, .ok {}⟩ := by
  simp only [dispatch, h]
  exact ⟨_, rfl⟩

theorem dispatch_of_malformed {s : Suite} {p : Packet} {e : MessageError} (now : Duration)
    (h : Message.decode p.payload = .error e) (he : ∀ c, e ≠ .unknownCode c) :
    ∃ activity, s.dispatch p now = ⟨(s.contact).1, activity, .error e⟩ := by
  simp only [dispatch, h]
  cases e with
  | unknownCode c => exact absurd rfl (he c)
  | _ => exact ⟨_, rfl⟩

end Suite

section steps
variable {h : History} {s : Suite} {activity : List Activity}

/-- What is nothing to act on makes a history longer and changes nothing else. -/
theorem follows_other (hf : Follows h s) : Follows (.other :: h) s :=
  ⟨hf.saved, hf.nightlyOnly, hf.draining, hf.going_on, hf.unfailed⟩

theorem other_agrees (hf : Follows h s) : Agrees s.mode h .other ⟨s, activity, .ok {}⟩ where
  ending := by simp [Suite.Step.ending, hf.going_on, History.decision]
  replies := rfl
  mode := rfl
  follows := fun _ => follows_other hf
  completed := by simp [History.decision]
  aborted := by simp [History.decision]

theorem malformed_agrees {e : MessageError} :
    Agrees s.mode h (.malformed e) ⟨s, activity, .error e⟩ where
  ending := rfl
  replies := rfl
  mode := rfl
  follows := by simp [History.decision]
  completed := by simp [History.decision]
  aborted := by simp [History.decision]

theorem request_agrees (hf : Follows h s) : Agrees s.mode h .request
    ⟨s.answerRequest.suite, activity, .ok s.answerRequest.result⟩ := by
  have reply : s.stateReply = History.response (History.held (.request :: h)) :=
    Suite.stateReply_eq hf.saved
  by_cases final : h.any Heard.isFinal = true
  · have draining := hf.draining.2 final
    have decided : h.decision s.mode .request = .ok (some .completed) := by
      simp [History.decision, final]
    refine ⟨?_, ?_, ?_, ?_, ?_, ?_⟩
    · simp [Suite.Step.ending, Suite.answerRequest, draining, decided]
    · simp [Suite.Step.replies, Suite.answerRequest, History.answers, Heard.pulses, reply]
    · simp [Suite.answerRequest, draining]
    · simp [decided]
    · intro _ stop
      simpa [Suite.answerRequest, draining] using hf.unfailed stop
    · simp [decided]
  · have running : s.phase ≠ .draining := fun h => final (hf.draining.1 h)
    have undecided : h.decision s.mode .request = .ok none := by
      simp [History.decision, final]
    refine ⟨?_, ?_, ?_, ?_, ?_, ?_⟩
    · simp [Suite.Step.ending, Suite.answerRequest, running, hf.going_on, undecided]
    · simp [Suite.Step.replies, Suite.answerRequest, History.answers, Heard.pulses, reply]
    · simp [Suite.answerRequest, running]
    · intro _
      simp only [Suite.answerRequest, if_neg running]
      exact ⟨hf.saved, hf.nightlyOnly, hf.draining, hf.going_on, hf.unfailed⟩
    · simp [undecided]
    · simp [undecided]

theorem start_agrees (hf : Follows h s) (name : TestName) (nightlyOnly : Bool)
    (state : SavedState) (now : Duration) : Agrees s.mode h (.start nightlyOnly state.bytes)
    ⟨(s.beginTest name nightlyOnly state now).suite, activity,
      .ok (s.beginTest name nightlyOnly state now).result⟩ where
  ending := by simp [Suite.Step.ending, Suite.beginTest, hf.going_on, History.decision]
  replies := by
    simp only [Suite.Step.replies, Suite.beginTest, Suite.acknowledgment, History.answers,
      Heard.pulses, List.replicate]
    rw [Suite.stateReply_eq rfl]
    rfl
  mode := rfl
  follows := fun _ => ⟨rfl, rfl, hf.draining, hf.going_on, hf.unfailed⟩
  completed := by simp [History.decision]
  aborted := by simp [History.decision]

theorem decision_result (m : Mode) (failed isFinal : Bool) (state : Bytes) :
    h.decision m (.result failed isFinal state) =
      .ok (if failed && m.stopOnError && !h.skips m then some .aborted else none) := by
  cases failed <;> simp [History.decision]

/-- A result aborts the run exactly if the history says so. -/
theorem decision_judge (hf : Follows h s) (outcome : Outcome) (isFinal : Bool) (state : Bytes)
    (now : Duration) : h.decision s.mode (.result (outcome = .fail) isFinal state) =
      .ok (if (s.judge outcome now).isFailure && s.mode.stopOnError then some .aborted
        else none) := by
  rw [decision_result, Suite.judge_isFailure, hf.nightlyOnly, ← History.skips]
  rw [Bool.and_right_comm]

theorem result_agrees (hf : Follows h s) (outcome : Outcome) (isFinal : Bool)
    (state : SavedState) (now : Duration) :
    Agrees s.mode h (.result (outcome = .fail) isFinal state.bytes)
      ⟨(s.endTest outcome isFinal state now).suite, activity,
        .ok (s.endTest outcome isFinal state now).result⟩ := by
  have judged := decision_judge hf outcome isFinal state.bytes now
  have held : (s.endTest outcome isFinal state now).suite.progress.saved.map SavedState.bytes =
      some state.bytes := rfl
  have counted := Suite.failed_count s.progress.tally (s.judge outcome now)
  refine ⟨?_, ?_, rfl, ?_, ?_, ?_⟩
  · -- a final result that aborts the run does not begin the drain
    rw [judged]
    cases abort : (s.judge outcome now).isFailure && s.mode.stopOnError
    · cases isFinal <;> simp [Suite.Step.ending, Suite.endTest, abort, hf.going_on]
    · simp [Suite.Step.ending, Suite.endTest, abort]
  · simp only [Suite.Step.replies, History.answers, Heard.pulses, List.replicate]
    exact congrArg (fun q => [q, q]) (Suite.stateReply_eq held)
  · rw [judged]
    intro undecided
    have abort : ((s.judge outcome now).isFailure && s.mode.stopOnError) = false := by
      simpa using undecided
    refine ⟨rfl, hf.nightlyOnly, ?_, ?_, ?_⟩
    · have := hf.draining
      cases isFinal <;> simp_all [Suite.endTest, Heard.isFinal]
    · cases isFinal <;> simp [Suite.endTest, abort, hf.going_on]
    · intro stop
      have passed : (s.judge outcome now).isFailure = false := by
        simpa [show s.mode.stopOnError = true from stop] using abort
      simpa [Suite.endTest, counted, passed] using hf.unfailed stop
  · rw [judged]
    split <;> simp
  · rw [judged]
    intro decided stop
    have failed : (s.judge outcome now).isFailure = true := by
      simpa [stop] using decided
    simp [Suite.endTest, counted, failed, hf.unfailed stop]

end steps

/-- A suite that follows a history goes on as the history says, packet by packet. -/
theorem dispatch_agrees {h : History} {s : Suite} {p : Packet} (hf : Follows h s)
    (fits : p.payload.length ≤ Packet.maxPayload) (now : Duration) :
    Agrees s.mode h (.ofPayload p.payload) (s.dispatch p now) := by
  -- the first contact changes the phase only, and a history does not tell the two phases apart
  have met := Suite.contact_follows hf
  have means := decode_means fits
  rw [← s.contact_mode]
  generalize Heard.ofPayload p.payload = x at means ⊢
  generalize decoded : Message.decode p.payload = result at means
  cases means with
  | malformed he =>
    obtain ⟨activity, step⟩ := Suite.dispatch_of_malformed now decoded he
    exact step ▸ malformed_agrees
  | unknown c =>
    obtain ⟨activity, step⟩ := Suite.dispatch_of_unknown now decoded
    exact step ▸ other_agrees met
  | request =>
    obtain ⟨activity, step⟩ := Suite.dispatch_of_decode now decoded
    exact step ▸ request_agrees met
  | start name nightlyOnly state =>
    obtain ⟨activity, step⟩ := Suite.dispatch_of_decode now decoded
    exact step ▸ start_agrees met name nightlyOnly state now
  | result outcome isFinal state =>
    obtain ⟨activity, step⟩ := Suite.dispatch_of_decode now decoded
    exact step ▸ result_agrees met outcome isFinal state now
  | init nightly =>
    obtain ⟨activity, step⟩ := Suite.dispatch_of_decode now decoded
    exact step ▸ other_agrees met
  | response state =>
    obtain ⟨activity, step⟩ := Suite.dispatch_of_decode now decoded
    exact step ▸ other_agrees met

end SerialSuite
