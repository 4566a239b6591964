import SerialSuite.Code
import SerialSuite.Packet

/-!
What the target hands over before it restarts, to be given back when it asks.
-/

namespace SerialSuite

/-- The longest state that fits a frame behind a message's first bytes. -/
def SavedState.maxLength : Nat := Packet.maxPayload - Code.stateOffset

/-- Opaque bytes of the target. -/
structure SavedState where
  bytes : Bytes
  length_le : bytes.length ≤ SavedState.maxLength
  deriving DecidableEq, Repr

namespace SavedState

def ofBytes (bytes : Bytes) : Except MessageError SavedState :=
  if h : bytes.length ≤ maxLength then .ok ⟨bytes, h⟩
  else .error (.stateTooLarge bytes.length maxLength)

theorem ofBytes_bytes (s : SavedState) : ofBytes s.bytes = .ok s := dif_pos s.length_le

end SavedState

end SerialSuite
