import SerialSuite.SavedState

/-!
Messages between host and target, as packet payloads.

The first byte is the message's code. Messages that carry saved state have it from byte 8 on; byte 1
is the nightly flag of a test's start, the bytes up to 8 are reserved. A start ends with the test's
name. `decode_encode` says that decoding gives back what was encoded.
-/

namespace SerialSuite

inductive Message where
  /-- From the host: makes the target say something. -/
  | init (nightly : Bool)
  /-- From the target: asks for the state it saved. -/
  | stateRequest
  /-- From the host: the saved state, if there is any. -/
  | stateResponse (state : Option SavedState)
  | testStarted (name : TestName) (nightlyOnly : Bool) (state : SavedState)
  | testResult (outcome : Outcome) (isFinal : Bool) (state : SavedState)
  deriving DecidableEq, Repr

namespace Message

def code : Message → Code
  | init nightly => .init nightly
  | stateRequest => .stateRequest
  | stateResponse none => .noState
  | stateResponse (some _) => .restore
  | testStarted .. => .started
  | testResult outcome isFinal _ => .result outcome isFinal

/-- The message in a payload of sufficient length under a known code. -/
def ofPayload (code : Code) (payload : Bytes) : Except MessageError Message :=
  match code with
  | .stateRequest => .ok .stateRequest
  | .init nightly => .ok (.init nightly)
  | .noState => .ok (.stateResponse none)
  | .restore =>
    (SavedState.ofBytes (payload.drop Code.stateOffset)).map fun state =>
      .stateResponse (some state)
  | .started =>
    let (front, field) := payload.splitAt (payload.length - TestName.maxLength)
    (SavedState.ofBytes (front.drop Code.stateOffset)).map fun state =>
      .testStarted (.ofField field) (payload.getD 1 0 != 0) state
  | .result outcome isFinal =>
    (SavedState.ofBytes (payload.drop Code.stateOffset)).map (.testResult outcome isFinal)

/-- The message in a payload. Bytes that the code has no use for are ignored. -/
def decode (payload : Bytes) : Except MessageError Message :=
  match payload with
  | [] => .error .empty
  | b :: _ =>
    match Code.ofByte? b with
    | none => .error (.unknownCode b)
    | some code =>
      if payload.length < code.least then .error (.truncated b payload.length code.least)
      else ofPayload code payload

/-- Code, flag, reserved bytes and saved state. -/
def withState (code : Code) (flag : Bool) (state : SavedState) : Bytes :=
  [code.byte, if flag then 1 else 0, 0, 0, 0, 0, 0, 0] ++ state.bytes

/-- The payload of a message. -/
def encode (m : Message) : Bytes :=
  match m with
  | stateResponse (some state) => withState m.code false state
  | testStarted name nightlyOnly state => withState m.code nightlyOnly state ++ name.field
  | testResult _ _ state => withState m.code false state
  | _ => [m.code.byte]

/-- The packet that carries a message of the host. -/
def packet (m : Message) : Packet := .host m.encode

theorem length_withState (code : Code) (flag : Bool) (state : SavedState) :
    (withState code flag state).length = Code.stateOffset + state.bytes.length := by
  simp [withState, Code.stateOffset]; omega

theorem drop_withState (code : Code) (flag : Bool) (state : SavedState) :
    (withState code flag state).drop Code.stateOffset = state.bytes := rfl

theorem decode_eq_ofPayload {code : Code} {rest : Bytes} (h : code.least ≤ rest.length + 1) :
    decode (code.byte :: rest) = ofPayload code (code.byte :: rest) := by
  simp [decode, Code.ofByte?_byte, Nat.not_lt.2 h]

theorem decode_withState {code : Code} {flag : Bool} {state : SavedState} {rest : Bytes}
    (h : code.least ≤ Code.stateOffset + state.bytes.length + rest.length) :
    decode (withState code flag state ++ rest) =
      ofPayload code (withState code flag state ++ rest) :=
  decode_eq_ofPayload (by simp [Code.stateOffset] at *; omega)

theorem decode_encode (m : Message) : decode m.encode = .ok m := by
  cases m with
  | init nightly => cases nightly <;> rfl
  | stateRequest => rfl
  | stateResponse state =>
    cases state with
    | none => rfl
    | some state =>
      rw [encode, ← List.append_nil (withState ..), decode_withState (by simp [code, Code.least])]
      simp [ofPayload, code, drop_withState, SavedState.ofBytes_bytes, Except.map]
  | testStarted name nightlyOnly state =>
    have hn := name.field_length
    have hf : ((if nightlyOnly then 1 else 0 : UInt8) != 0) = nightlyOnly := by
      cases nightlyOnly <;> rfl
    rw [encode, decode_withState (by simp [code, Code.least, hn])]
    have at_name : (withState Code.started nightlyOnly state ++ name.field).length -
        TestName.maxLength = (withState Code.started nightlyOnly state).length := by simp [hn]
    simp only [code, ofPayload, at_name, List.splitAt_eq, List.take_left, List.drop_left,
      drop_withState,
      SavedState.ofBytes_bytes, TestName.ofField_field, Except.map]
    simpa [withState] using hf
  | testResult outcome isFinal state =>
    rw [encode, ← List.append_nil (withState ..), decode_withState (by simp [code, Code.least])]
    simp [ofPayload, code, drop_withState, SavedState.ofBytes_bytes, Except.map]

end Message

end SerialSuite
