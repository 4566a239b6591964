/-!
Decimal numbers of 64 bits, as settings hold them.
-/

namespace SerialSuite.Text

def isDigit (c : Char) : Bool := '0' ≤ c && c ≤ '9'

/-- The number that digits spell. -/
def digitsValue (digits : List Char) : Nat :=
  digits.foldl (fun n c => n * 10 + (c.toNat - '0'.toNat)) 0

/-- The digits of a number that may carry a plus sign. -/
def unsigned : List Char → List Char
  | '+' :: rest => rest
  | text => text

/-- An optional plus sign and at least one ASCII digit, for a number of 64 bits. -/
def numeral? (text : List Char) : Option Nat :=
  let digits := unsigned text
  let value := digitsValue digits
  if digits ≠ [] ∧ digits.all isDigit ∧ value < UInt64.size then some value else none

end SerialSuite.Text
