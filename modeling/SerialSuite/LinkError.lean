import SerialSuite.Bytes
import SerialSuite.Duration
import SerialSuite.IoError

/-!
The three marker bytes of a frame, and what can go wrong on the link.
-/

namespace SerialSuite

/-- A byte of a frame that has one fixed value. -/
inductive Marker where
  | sync | startOfData | endOfData
  deriving DecidableEq, Repr

namespace Marker

def byte : Marker → UInt8
  | sync => 0xAA
  | startOfData => 0xBB
  | endOfData => 0xCC

def label : Marker → String
  | sync => "sync byte"
  | startOfData => "start-of-data marker"
  | endOfData => "end-of-data marker"

end Marker

/-- What cuts a read or a write short. -/
inductive Breakdown where
  /-- The read or the write failed. -/
  | failed (cause : IoError)
  /-- The clock cannot name the next deadline of a read. Nobody handles this: the program breaks off
  where it stands. -/
  | overflow
  deriving DecidableEq, Repr

instance : Coe IoError Breakdown := ⟨.failed⟩

/-- The text of an overflow is that of the clock. -/
def Breakdown.message : Breakdown → String
  | failed cause => s!"link I/O error: {cause.message}"
  | overflow => "overflow when adding duration to instant"

/-- Why nothing more can be read from the link or written to it. -/
inductive LinkError where
  /-- A marker byte had another value; the stream is out of step for good. -/
  | misframed (marker : Marker) (expected found : UInt8)
  /-- A payload that the size field cannot describe. -/
  | oversized (size max : Nat)
  | io (breakdown : Breakdown)
  /-- The watchdog saw no byte for this long. -/
  | silent (limit : Duration)
  deriving DecidableEq, Repr

def LinkError.message : LinkError → String
  | .misframed marker expected found =>
    s!"framing error: {marker.label} was {byteCode found}, expected {byteCode expected}"
  | .oversized size max => s!"payload too large: {size} bytes (max {max})"
  | .io breakdown => breakdown.message
  | .silent limit => s!"no data from target within {limit.text}"

end SerialSuite
