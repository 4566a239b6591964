import SerialSuite.Bytes

/-!
UTF-8 that may be broken. Each longest cut-short front of a well-formed sequence reads as one
replacement character, and so does every other byte that fits nowhere. `lossy_length_le` says that
no byte yields more than one character.
-/

namespace SerialSuite.Text

/-- Stands for bytes that are no UTF-8. -/
def replacement : Char := '\uFFFD'

/-- A sequence that has begun: the bytes still needed, the bits so far, the next byte's range. -/
structure Begun where
  need : Nat
  bits : Nat
  low : UInt8 := 0x80
  high : UInt8 := 0xBF

/-- A byte that continues nothing. -/
def lead (b : UInt8) : List Char × Option Begun :=
  if b < 0x80 then ([Char.ofNat b.toNat], none)
  else if b < 0xC2 then ([replacement], none)
  else if b < 0xE0 then ([], some { need := 1, bits := b.toNat - 0xC0 })
  else if b = 0xE0 then ([], some { need := 2, bits := 0, low := 0xA0 })
  else if b = 0xED then ([], some { need := 2, bits := 0xD, high := 0x9F })
  else if b < 0xF0 then ([], some { need := 2, bits := b.toNat - 0xE0 })
  else if b = 0xF0 then ([], some { need := 3, bits := 0, low := 0x90 })
  else if b < 0xF4 then ([], some { need := 3, bits := b.toNat - 0xF0 })
  else if b = 0xF4 then ([], some { need := 3, bits := 4, high := 0x8F })
  else ([replacement], none)

/-- What one more byte completes, and what it leaves begun. -/
def decodeByte : Option Begun → UInt8 → List Char × Option Begun
  | none, b => lead b
  | some s, b =>
    if s.low ≤ b ∧ b ≤ s.high then
      let bits := s.bits * 64 + (b.toNat - 0x80)
      if s.need ≤ 1 then ([Char.ofNat bits], none) else ([], some { need := s.need - 1, bits })
    else (replacement :: (lead b).1, (lead b).2)

def decodeFrom : Option Begun → Bytes → List Char
  | none, [] => []
  | some _, [] => [replacement]
  | s, b :: rest => (decodeByte s b).1 ++ decodeFrom (decodeByte s b).2 rest

/-- The text of a byte string, broken parts replaced. -/
def lossy (b : Bytes) : List Char := decodeFrom none b

theorem lead_length (b : UInt8) : (lead b).1.length + (lead b).2.toList.length = 1 := by
  unfold lead
  split <;> try rfl
  repeat' first | rfl | split

theorem decodeByte_length (s : Option Begun) (b : UInt8) :
    (decodeByte s b).1.length + (decodeByte s b).2.toList.length ≤ s.toList.length + 1 := by
  cases s with
  | none => simp [decodeByte, lead_length]
  | some s =>
    have := lead_length b
    simp only [decodeByte, Option.toList_some, List.length_singleton]
    split
    · split <;> simp
    · simp only [List.length_cons]; omega

theorem decodeFrom_length (s : Option Begun) (b : Bytes) :
    (decodeFrom s b).length ≤ s.toList.length + b.length := by
  induction b generalizing s with
  | nil => cases s <;> simp [decodeFrom]
  | cons x rest ih =>
    have := decodeByte_length s x
    have := ih (decodeByte s x).2
    simp only [decodeFrom, List.length_append, List.length_cons]
    omega

theorem lossy_length_le (b : Bytes) : (lossy b).length ≤ b.length := by
  simpa [lossy] using decodeFrom_length none b

end SerialSuite.Text
