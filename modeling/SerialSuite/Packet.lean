import SerialSuite.LinkError

/-!
Packets and their frames: sync byte, kind, three size bytes, start-of-data marker, payload,
end-of-data marker.
-/

namespace SerialSuite

/-- What one frame carries. -/
structure Packet where
  kind : UInt8
  payload : Bytes
  deriving DecidableEq, Repr

namespace Packet

/-- The kind of every packet that the host sends. -/
def hostKind : UInt8 := 0

/-- A packet of the host. -/
def host (payload : Bytes) : Packet := ⟨hostKind, payload⟩

/-- The longest payload that three size bytes can describe. -/
def maxPayload : Nat := 0xFFFFFF

/-- Bytes of a frame before its payload. -/
def headerLength : Nat := 6

/-- A payload size, most significant byte first. -/
def sizeField (n : Nat) : Bytes :=
  [UInt8.ofNat (n / 65536), UInt8.ofNat (n / 256), UInt8.ofNat n]

/-- The size that three bytes spell. -/
def sizeOf (high mid low : UInt8) : Nat := high.toNat * 65536 + mid.toNat * 256 + low.toNat

theorem sizeOf_le (high mid low : UInt8) : sizeOf high mid low ≤ maxPayload := by
  have := high.toNat_lt; have := mid.toNat_lt; have := low.toNat_lt
  simp only [sizeOf, maxPayload]; omega

theorem sizeOf_sizeField {n : Nat} (h : n ≤ maxPayload) :
    sizeOf (UInt8.ofNat (n / 65536)) (UInt8.ofNat (n / 256)) (UInt8.ofNat n) = n := by
  simp only [maxPayload] at h
  simp only [sizeOf, UInt8.toNat_ofNat']
  omega

theorem sizeField_sizeOf (high mid low : UInt8) :
    sizeField (sizeOf high mid low) = [high, mid, low] := by
  have := high.toNat_lt; have := mid.toNat_lt; have := low.toNat_lt
  simp only [sizeField, sizeOf, List.cons.injEq, ← UInt8.toNat_inj, UInt8.toNat_ofNat']
  exact ⟨by omega, by omega, by omega, trivial⟩

/-- The bytes that put a packet on the link. -/
def frame (p : Packet) : Bytes :=
  Marker.sync.byte :: p.kind :: (sizeField p.payload.length ++
    Marker.startOfData.byte :: (p.payload ++ [Marker.endOfData.byte]))

theorem frame_length (p : Packet) : p.frame.length = p.payload.length + 7 := by
  simp [frame, sizeField]

/-- The frame, unless the size field cannot describe the payload. -/
def encode (p : Packet) : Except LinkError Bytes :=
  if p.payload.length ≤ maxPayload then .ok p.frame
  else .error (.oversized p.payload.length maxPayload)

end Packet

end SerialSuite
