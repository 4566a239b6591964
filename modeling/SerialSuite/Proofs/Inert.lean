import SerialSuite.Proofs.Phases
import SerialSuite.Proofs.Transcript

/-!
Packets that are not acted on. Such a packet makes the first contact and nothing else
(`receive_inert`), which any packet behind it would have made as well. So it can be taken out of a
sequence, and any other packet can be of another kind, without a trace in the transcript of what is
left (`transcript_thinned`).
-/

namespace SerialSuite

/-- There is nothing to act on: no message can be made out, or it is one that only the host
sends. -/
inductive Packet.Inert (p : Packet) : Prop
  | undecoded {e : MessageError} : Message.decode p.payload = .error e → p.Inert
  | init {nightly : Bool} : Message.decode p.payload = .ok (.init nightly) → p.Inert
  | response {state : Option SavedState} :
      Message.decode p.payload = .ok (.stateResponse state) → p.Inert

/-- The second list is the first without some packets that are inert, the others in any kinds. The
mask tells which ones stay. -/
inductive Thinned : List Bool → List (Timed Packet) → List (Timed Packet) → Prop
  | nil : Thinned [] [] []
  | kept {mask : List Bool} {x : Timed Packet} {ps qs : List (Timed Packet)} (kind : UInt8) :
      Thinned mask ps qs → Thinned (true :: mask) (x :: ps) (({ x.1 with kind }, x.2) :: qs)
  | dropped {mask : List Bool} {x : Timed Packet} {ps qs : List (Timed Packet)} :
      x.1.Inert → Thinned mask ps qs → Thinned (false :: mask) (x :: ps) qs

/-- What comes of a payload that is no message: an unknown code is ignored. -/
def MessageError.outcome : MessageError → Except MessageError Reaction
  | .unknownCode _ => .ok {}
  | e => .error e

theorem MessageError.outcome_cases (e : MessageError) :
    (∃ code, e = .unknownCode code) ∧ e.outcome = .ok {} ∨ e.outcome = .error e := by
  cases e with
  | unknownCode code => exact .inl ⟨⟨code, rfl⟩, rfl⟩
  | _ => exact .inr rfl

namespace Suite

variable {s s' : Suite} {x : Timed Packet}

theorem receive_result_of_undecoded (s : Suite) {e : MessageError}
    (undecoded : Message.decode x.1.payload = .error e) : (s.receive x).result = e.outcome := by
  simp only [receive, dispatch, undecoded]
  cases e <;> rfl

/-- The step on a packet that is not acted on: no answer, nothing to show, and the contact made. -/
structure Ignores (s : Suite) (step : Step (Except MessageError Reaction)) : Prop where
  replies : step.replies = []
  aborts : step.aborts = false
  notices : step.notices = []
  progress : step.suite.progress = s.progress
  phase : step.suite.phase = if s.phase = .awaitingFirstContact then .running else s.phase

theorem ignores_of_contact {step : Step (Except MessageError Reaction)}
    (suite : step.suite = (s.contact).1) (notices : step.notices = [])
    (result : step.result = .ok {} ∨ ∃ e, step.result = .error e) : s.Ignores step := by
  refine ⟨?_, ?_, notices, ?_, ?_⟩
  · rcases result with answered | ⟨e, refused⟩
    · simp only [Step.replies, answered]
    · simp only [Step.replies, refused]
  · rcases result with answered | ⟨e, refused⟩
    · simp only [Step.aborts, answered]
    · simp only [Step.aborts, refused]
  · rw [suite, contact_progress]
  · rw [suite, contact_phase]

/-- A packet that is not acted on is a contact, and nothing else. -/
theorem receive_inert (s : Suite) (inert : x.1.Inert) :
    (s.receive x).suite = (s.contact).1 ∧ s.Ignores (s.receive x) := by
  cases inert with
  | @undecoded e decoded =>
    have step := s.receive_of_undecoded decoded
    refine ⟨step.1, ignores_of_contact step.1 step.2.1 ?_⟩
    rw [s.receive_result_of_undecoded decoded]
    rcases e.outcome_cases with ⟨-, ignored⟩ | refused
    · exact .inl ignored
    · exact .inr ⟨e, refused⟩
  | init decoded | response decoded =>
    have step := s.receive_of_decode decoded
    exact ⟨step.1, ignores_of_contact step.1 step.2.1 (.inl step.2.2)⟩

theorem contact_contact (s : Suite) : ((s.contact).1.contact).1 = (s.contact).1 := by
  by_cases first : s.phase = .awaitingFirstContact <;> simp [contact, first]

/-- A packet is met by the contact first, so that it makes the same step of suites that the contact
makes alike. Its kind is for the record only. -/
theorem receive_same (met : (s.contact).1 = (s'.contact).1) (x : Timed Packet) (kind : UInt8) :
    (s'.receive ({ x.1 with kind }, x.2)).Same (s.receive x) := by
  let y : Timed Packet := ({ x.1 with kind }, x.2)
  cases decoded : Message.decode x.1.payload with
  | ok m =>
    have step := s.receive_of_decode decoded
    have step' := s'.receive_of_decode (x := y) decoded
    rw [← met] at step'
    exact ⟨step'.1.trans step.1.symm, step'.2.1.trans step.2.1.symm, step'.2.2.trans step.2.2.symm⟩
  | error e =>
    have step := s.receive_of_undecoded decoded
    have step' := s'.receive_of_undecoded (x := y) decoded
    have result' := s'.receive_result_of_undecoded (x := y) decoded
    rw [← met] at step'
    refine ⟨step'.1.trans step.1.symm, step'.2.1.trans step.2.1.symm, ?_⟩
    rw [result', s.receive_result_of_undecoded decoded]

theorem transcript_thinned {mask : List Bool} {ps qs : List (Timed Packet)}
    (thinned : Thinned mask ps qs) (met : (s.contact).1 = (s'.contact).1) (c : Console) :
    s'.transcript receive c qs = select mask (s.transcript receive c ps) := by
  induction thinned generalizing s s' c with
  | nil => rfl
  | @kept _ x _ _ kind _ ih =>
    have entry_eq := (receive_same met x kind).entry_eq c
    simp only [transcript, select, entry_eq]
    rw [ih rfl]
  | dropped inert _ ih =>
    have step := s.receive_inert inert
    simp only [transcript, select, Step.entry, step.1, step.2.notices]
    apply ih
    exact s.contact_contact.trans met

/-- Behind the whole sequence, too, no more is missing than a contact. -/
theorem behind_thinned {mask : List Bool} {ps qs : List (Timed Packet)}
    (thinned : Thinned mask ps qs) (met : (s.contact).1 = (s'.contact).1) :
    ((s.behind receive ps).contact).1 = ((s'.behind receive qs).contact).1 ∧
      s'.shown receive qs = s.shown receive ps := by
  induction thinned generalizing s s' with
  | nil => exact ⟨met, rfl⟩
  | @kept _ x _ _ kind _ ih =>
    have same := receive_same met x kind
    have later := ih (congrArg (fun s => (Suite.contact s).1) same.suite.symm)
    rw [shown_cons, shown_cons, same.notices, later.2]
    exact ⟨later.1, rfl⟩
  | @dropped _ x _ _ inert _ ih =>
    have step := s.receive_inert inert
    have met_later : ((s.receive x).suite.contact).1 = (s'.contact).1 := by
      rw [step.1, s.contact_contact, met]
    have later := ih met_later
    rw [shown_cons, step.2.notices, later.2]
    exact ⟨later.1, rfl⟩

/-- The packets that are not acted on are those that are refused, or ignored for their code. -/
theorem inert_iff (s : Suite) (x : Timed Packet) : x.1.Inert ↔
    (∃ e, (s.receive x).result = .error e) ∨
      (∃ code, Message.decode x.1.payload = .error (.unknownCode code)) ∨
      (∃ nightly, Message.decode x.1.payload = .ok (.init nightly)) ∨
      ∃ state, Message.decode x.1.payload = .ok (.stateResponse state) := by
  constructor
  · intro inert
    cases inert with
    | @undecoded e decoded =>
      rcases e.outcome_cases with ⟨⟨code, rfl⟩, -⟩ | refused
      · exact .inr (.inl ⟨code, decoded⟩)
      · exact .inl ⟨e, (s.receive_result_of_undecoded decoded).trans refused⟩
    | init decoded => exact .inr (.inr (.inl ⟨_, decoded⟩))
    | response decoded => exact .inr (.inr (.inr ⟨_, decoded⟩))
  · rintro (⟨e, refused⟩ | ⟨code, decoded⟩ | ⟨nightly, decoded⟩ | ⟨state, decoded⟩)
    · cases decoded : Message.decode x.1.payload with
      | error e' => exact .undecoded decoded
      | ok m =>
        rw [(s.receive_of_decode decoded).2.2] at refused
        cases refused
    · exact .undecoded decoded
    · exact .init decoded
    · exact .response decoded

end Suite

open Suite (receive)

/-- Packets that are not acted on leave no trace. Some of them can be taken out of a sequence, and
the others be of other kinds: each packet that stays has the same reaction or error, with the same
suite and the same console behind it, and so is what is known and shown at the end. A packet that is
not acted on is one that is refused, that has an unknown code, or that only the host sends; it has
no answer, shows nothing, and moves the suite only from awaiting the first contact. -/
theorem inert_untraced (m : Mode) (c : Console) {mask : List Bool} {ps qs : List (Timed Packet)}
    (thinned : Thinned mask ps qs) :
    let s : Suite := { mode := m }
    s.transcript receive c qs = select mask (s.transcript receive c ps) ∧
    (s.behind receive qs).progress = (s.behind receive ps).progress ∧
    c.reportAll (s.shown receive qs) = c.reportAll (s.shown receive ps) ∧
    ∀ (before : List (Timed Packet)) (x : Timed Packet),
      let s' := s.behind receive before
      (x.1.Inert ↔ (∃ e, (s'.receive x).result = .error e) ∨
        (∃ code, Message.decode x.1.payload = .error (.unknownCode code)) ∨
        (∃ nightly, Message.decode x.1.payload = .ok (.init nightly)) ∨
        ∃ state, Message.decode x.1.payload = .ok (.stateResponse state)) ∧
      (x.1.Inert → s'.Ignores (s'.receive x)) := by
  intro s
  have behind := Suite.behind_thinned (s := s) thinned rfl
  refine ⟨Suite.transcript_thinned thinned rfl c, ?_, ?_, ?_⟩
  · have progress := congrArg Suite.progress behind.1
    rw [Suite.contact_progress, Suite.contact_progress] at progress
    exact progress.symm
  · rw [behind.2]
  · intro before x s'
    exact ⟨s'.inert_iff x, fun inert => (s'.receive_inert inert).2⟩

/-- An unknown code before the first request, a result cut short, and a word of the host's own
behind a failure. The console has room for ten bytes. -/
theorem inert_untraced_failing :
    let mode : Mode := { stopOnError := true }
    let c : Console := { accepts := Console.limited 10 }
    let request : Packet := ⟨2, [0x11]⟩
    let failure : Packet := ⟨2, [0x35, 0, 0, 0, 0, 0, 0, 0]⟩
    let mask := [false, true, false, true, false]
    let ps : List (Timed Packet) :=
      [(⟨2, [0x99]⟩, .zero), (request, .ofMillis 1), (⟨2, [0x45, 0]⟩, .ofMillis 2),
        (failure, .ofMillis 3), (⟨2, [0x55]⟩, .ofMillis 4)]
    let qs : List (Timed Packet) :=
      [({ request with kind := 7 }, .ofMillis 1), (failure, .ofMillis 3)]
    Thinned mask ps qs ∧
      Suite.transcript receive { mode } c qs =
        select mask (Suite.transcript receive { mode } c ps) ∧
      (Suite.behind receive { mode } qs).progress =
        (Suite.behind receive { mode } ps).progress := by
  intro mode c request failure mask ps qs
  have thinned : Thinned mask ps qs :=
    .dropped (.undecoded rfl) <| .kept 7 <| .dropped (.undecoded rfl) <| .kept 2 <|
      .dropped (.response rfl) .nil
  have untraced := inert_untraced mode c thinned
  exact ⟨thinned, untraced.1, untraced.2.1⟩

end SerialSuite
