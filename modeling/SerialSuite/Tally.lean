import SerialSuite.Duration

/-!
Verdicts on tests, and how many there were of each.
-/

namespace SerialSuite

/-- How a finished test is counted. -/
inductive Verdict where
  | passed (elapsed : Duration)
  | failed (elapsed : Duration)
  | skipped
  deriving DecidableEq, Repr

def Verdict.isFailure : Verdict → Bool
  | failed _ => true
  | _ => false

/-- How many tests there were of each kind; the program counts them in 32 bits, and more tests than
that are out of scope. -/
structure Tally where
  passed : Nat := 0
  failed : Nat := 0
  skipped : Nat := 0
  deriving DecidableEq, Repr, Inhabited

namespace Tally

def total (t : Tally) : Nat := t.passed + t.failed + t.skipped

def count (t : Tally) : Verdict → Tally
  | .passed _ => { t with passed := t.passed + 1 }
  | .failed _ => { t with failed := t.failed + 1 }
  | .skipped => { t with skipped := t.skipped + 1 }

theorem total_count (t : Tally) (v : Verdict) : (t.count v).total = t.total + 1 := by
  cases v <;> simp [count, total] <;> omega

/-- The tally as one line of the console. -/
def summary (t : Tally) : String :=
  s!"{t.passed} passed, {t.failed} failed, {t.skipped} skipped ({t.total} total)"

/-- The tally as a value, for diagnostics. -/
def inspect (t : Tally) : String :=
  s!"RunTally \x7b passed: {t.passed}, failed: {t.failed}, skipped: {t.skipped} \x7d"

end Tally

end SerialSuite
