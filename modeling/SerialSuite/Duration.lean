/-!
Lengths of time, and the two ways they are written: exactly (`text`) and rounded for the verdict
column (`brief`).
-/

namespace SerialSuite

/-- A length of time. -/
structure Duration where
  nanos : Nat
  deriving DecidableEq, Repr, Inhabited

namespace Duration

def zero : Duration := ⟨0⟩
def ofMicros (n : Nat) : Duration := ⟨n * 1000⟩
def ofMillis (n : Nat) : Duration := ⟨n * 1000000⟩
def ofSecs (n : Nat) : Duration := ⟨n * 1000000000⟩

/-- Whole milliseconds. -/
def millis (d : Duration) : Nat := d.nanos / 1000000

/-- Whole microseconds. -/
def micros (d : Duration) : Nat := d.nanos / 1000

/-- What is left of `a` after `b`, never below zero. -/
instance : Sub Duration := ⟨fun a b => ⟨a.nanos - b.nanos⟩⟩

theorem nanos_sub (a b : Duration) : (a - b).nanos = a.nanos - b.nanos := rfl

/-- The last `width` decimal digits of `n`, leading zeros kept. -/
def digits : Nat → Nat → List Char
  | 0, _ => []
  | width + 1, n => digits width (n / 10) ++ [Nat.digitChar (n % 10)]

/-- A value with so many decimal places, in units of the last one; trailing zeros are left out. -/
def decimal (places n : Nat) : String :=
  let fraction := ((digits places n).reverse.dropWhile (· == '0')).reverse
  let whole := toString (n / Nat.pow 10 places)
  if fraction.isEmpty then whole else whole ++ "." ++ String.ofList fraction

/-- The exact value in the largest unit that gives at least one whole: `61.25s`, `1.5ms`, `0ns`. -/
def text (d : Duration) : String :=
  if 1000000000 ≤ d.nanos then decimal 9 d.nanos ++ "s"
  else if 1000000 ≤ d.nanos then decimal 6 d.nanos ++ "ms"
  else if 1000 ≤ d.nanos then decimal 3 d.nanos ++ "µs"
  else decimal 0 d.nanos ++ "ns"

/-- Tenths of a second, rounded to the nearest hundredth first and then to the nearest tenth. -/
def tenths (d : Duration) : Nat := ((d.millis + 5) / 10 + 5) / 10

/-- Whole milliseconds below one second, seconds with one decimal from there on. -/
def brief (d : Duration) : String :=
  if d.millis < 1000 then s!"{d.millis} ms"
  else s!"{d.tenths / 10}.{d.tenths % 10} s"

end Duration

end SerialSuite
