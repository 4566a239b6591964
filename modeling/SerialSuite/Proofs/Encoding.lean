import SerialSuite.Message

/-!
How long messages are on the link. A payload is as long as its code needs at least, and longer by
the state that it carries (`encode_length`). The state in front of a name has no length field of its
own; of all messages only the start of a test can thus outgrow a frame (`encode_fits_iff`).
-/

namespace SerialSuite

/-- Only the code of a test's start needs more than the bytes in front of the state. -/
theorem Code.least_le {c : Code} (h : c ≠ .started) : c.least ≤ Code.stateOffset := by
  cases c with
  | started => exact absurd rfl h
  | restore | result => exact Nat.le_refl _
  | stateRequest | noState | init => exact Nat.le_add_left 1 7

namespace Message

/-- The state that a message carries, no bytes if there is none. -/
def carried : Message → Bytes
  | stateResponse (some state) | testStarted _ _ state | testResult _ _ state => state.bytes
  | _ => []

theorem carried_le (m : Message) : m.carried.length ≤ SavedState.maxLength := by
  fun_cases carried m with
  | case1 state | case2 _ _ state | case3 _ _ state => exact state.length_le
  | case4 => exact Nat.zero_le _

theorem encode_head (m : Message) : m.encode.head? = some m.code.byte := by
  fun_cases encode m <;> rfl

theorem encode_length (m : Message) : m.encode.length = m.code.least + m.carried.length := by
  cases m with
  | init | stateRequest => rfl
  | stateResponse state =>
    cases state with
    | none => rfl
    | some state => exact length_withState ..
  | testStarted name nightlyOnly state =>
    have front_length := length_withState .started nightlyOnly state
    have field_length := name.field_length
    simp only [encode, code, carried, Code.least, List.length_append]
    omega
  | testResult outcome isFinal state => exact length_withState ..

/-- A message fits a frame unless it starts a test and its state leaves no room for the name. -/
theorem encode_fits_iff (m : Message) : m.encode.length ≤ Packet.maxPayload ↔
    ¬ (m.code = .started ∧ SavedState.maxLength - TestName.maxLength < m.carried.length) := by
  have carried_le := m.carried_le
  rw [encode_length]
  simp only [Packet.maxPayload, SavedState.maxLength, Code.stateOffset, TestName.maxLength] at *
  by_cases start : m.code = .started
  · have least : m.code.least = 104 := by rw [start]; rfl
    rw [least, and_iff_right start]
    omega
  · have least : m.code.least ≤ 8 := Code.least_le start
    apply iff_of_true
    · omega
    · exact fun crowded => start crowded.1

end Message

/-- Decoding gives back every message, whatever its name and however long its state, and the first
byte is its code. A frame cannot hold a test's start whose state is longer than the rest of a
payload leaves room for; it holds every other message. -/
theorem encoding_faithful (m : Message) :
    Message.decode m.encode = .ok m ∧ m.encode.head? = some m.code.byte ∧
      m.packet.encode =
        if m.code = .started ∧ SavedState.maxLength - TestName.maxLength < m.carried.length then
          .error (.oversized (104 + m.carried.length) Packet.maxPayload)
        else .ok m.packet.frame := by
  refine ⟨m.decode_encode, m.encode_head, ?_⟩
  have fits := m.encode_fits_iff
  by_cases crowded :
      m.code = .started ∧ SavedState.maxLength - TestName.maxLength < m.carried.length
  · have size : m.packet.payload.length = 104 + m.carried.length := by
      have length := m.encode_length
      rw [crowded.1] at length
      exact length
    have long : ¬ m.packet.payload.length ≤ Packet.maxPayload := fun short => fits.1 short crowded
    rw [if_pos crowded, Packet.encode, if_neg long, size]
  · have short : m.packet.payload.length ≤ Packet.maxPayload := fits.2 crowded
    rw [if_neg crowded, Packet.encode, if_pos short]

end SerialSuite
