import SerialSuite.Bytes

/-!
What can be wrong with a message.
-/

namespace SerialSuite

inductive MessageError where
  | empty
  | truncated (code : UInt8) (length least : Nat)
  | unknownCode (code : UInt8)
  /-- The length counts what is left without NULs. -/
  | nameTooLong (length max : Nat)
  | stateTooLarge (length max : Nat)
  deriving DecidableEq, Repr

def MessageError.message : MessageError → String
  | .empty => "empty event payload"
  | .truncated code length least =>
    s!"event {byteCode code} truncated: {length} bytes (min {least})"
  | .unknownCode code => s!"unknown event code {byteCode code}"
  | .nameTooLong length max => s!"test name too long: {length} bytes (max {max})"
  | .stateTooLarge length max => s!"state blob too large: {length} bytes (max {max})"

end SerialSuite
