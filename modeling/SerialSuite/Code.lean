import SerialSuite.TestName

/-!
The codes of messages: their first byte, and how long a payload under each of them is at least.
-/

namespace SerialSuite

inductive Outcome where
  | pass | fail
  deriving DecidableEq, Repr

/-- What a message is about. -/
inductive Code where
  | stateRequest
  | restore
  | started
  | result (outcome : Outcome) (isFinal : Bool)
  | noState
  | init (nightly : Bool)
  deriving DecidableEq, Repr

namespace Code

def byte : Code → UInt8
  | stateRequest => 0x11
  | restore => 0x22
  | started => 0x33
  | result .pass false => 0x34
  | result .fail false => 0x35
  | result .pass true => 0x44
  | result .fail true => 0x45
  | noState => 0x55
  | init false => 0x66
  | init true => 0x67

def all : List Code :=
  [stateRequest, restore, started, result .pass false, result .fail false, result .pass true,
   result .fail true, noState, init false, init true]

def ofByte? (b : UInt8) : Option Code := all.find? (·.byte = b)

theorem ofByte?_byte (c : Code) : ofByte? c.byte = some c := by
  cases c with
  | result o f => cases o <;> cases f <;> rfl
  | init n => cases n <;> rfl
  | _ => rfl

theorem byte_of_ofByte? {b : UInt8} {c : Code} (h : ofByte? b = some c) : c.byte = b := by
  simpa using List.find?_some h

/-- Where saved state begins in a payload. -/
def stateOffset : Nat := 8

/-- The shortest payload under a code. -/
def least : Code → Nat
  | restore | result .. => stateOffset
  | started => stateOffset + TestName.maxLength
  | _ => 1

end Code

end SerialSuite
