/-!
Classes of characters, given by ranges of code points.
-/

namespace SerialSuite.Text

/-- A character class: the first and last code points of its ranges, in ascending order. -/
abbrev CharClass := List (Nat × Nat)

def CharClass.has (ranges : CharClass) (c : Char) : Bool :=
  ranges.any fun (first, last) => first ≤ c.toNat && c.toNat ≤ last

end SerialSuite.Text
