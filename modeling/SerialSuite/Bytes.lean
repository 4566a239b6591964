/-!
Byte strings, and texts as bytes. Lists are what proofs take apart; pipes and files convert at the
edge of the program.
-/

namespace SerialSuite

/-- A byte string, first byte first. -/
abbrev Bytes := List UInt8

/-- The UTF-8 bytes of a text. -/
def utf8 (s : String) : Bytes := s.toList.flatMap String.utf8EncodeChar

theorem utf8_append (a b : String) : utf8 (a ++ b) = utf8 a ++ utf8 b := by
  rw [utf8, String.toList_append, List.flatMap_append]
  rfl

/-- The digit of a value below 16, lower case. -/
def hexDigit (n : Nat) : Char :=
  Char.ofNat (if n < 10 then '0'.toNat + n else 'a'.toNat + (n - 10))

/-- The digit of a value below 16, upper case. -/
def upperHexDigit (n : Nat) : Char :=
  Char.ofNat (if n < 10 then '0'.toNat + n else 'A'.toNat + (n - 10))

namespace Bytes

/-- Two lower-case digits a byte. -/
def hex (b : Bytes) : String :=
  String.ofList (b.flatMap fun x => [hexDigit (x.toNat / 16), hexDigit (x.toNat % 16)])

end Bytes

/-- A byte as error texts show it: `0x` and two upper-case digits. -/
def byteCode (b : UInt8) : String :=
  "0x" ++ String.ofList [upperHexDigit (b.toNat / 16), upperHexDigit (b.toNat % 16)]

end SerialSuite
