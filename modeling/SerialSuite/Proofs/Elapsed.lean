import Mathlib.Algebra.GroupWithZero.Nat
import SerialSuite.Duration

/-!
What a verdict says of a test's length. The text is read back as a number of milliseconds
(`shown?`); this number is the length itself below a second and a multiple of a tenth from there on,
never far from the length and never smaller for a longer one (`brief_truthful`).
-/

namespace SerialSuite

namespace Duration

/-- Whole seconds and the nanoseconds behind them. -/
def ofParts (secs nanos : Nat) : Duration := ⟨secs * 1000000000 + nanos⟩

theorem millis_ofParts (secs nanos : Nat) :
    (ofParts secs nanos).millis = secs * 1000 + nanos / 1000000 := by
  show (secs * 1000000000 + nanos) / 1000000 = secs * 1000 + nanos / 1000000
  omega

/-- Rounding to hundredths and then to tenths of a second is one division. -/
theorem tenths_eq (d : Duration) : d.tenths = (d.millis + 55) / 100 := by
  unfold tenths
  omega

/-- The milliseconds that a text shows: whole ones, or seconds with one decimal. -/
def shown? (text : String) : Option Nat :=
  let whole := Nat.ofDigitChars 10 (text.toList.takeWhile Char.isDigit) 0
  match text.toList.dropWhile Char.isDigit with
  | [' ', 'm', 's'] => some whole
  | ['.', tenth, ' ', 's'] =>
    if tenth.isDigit then some (1000 * whole + 100 * (tenth.toNat - '0'.toNat)) else none
  | _ => none

/-- The text of a number ends where something else than a digit follows. -/
theorem span_digits (n : Nat) {c : Char} (rest : List Char) (other : c.isDigit = false) :
    (Nat.toDigits 10 n ++ c :: rest).takeWhile Char.isDigit = Nat.toDigits 10 n ∧
      (Nat.toDigits 10 n ++ c :: rest).dropWhile Char.isDigit = c :: rest := by
  have digits : ∀ d ∈ Nat.toDigits 10 n, d.isDigit := fun d inside =>
    Nat.isDigit_of_mem_toDigits (by decide) (by decide) inside
  rw [List.takeWhile_append_of_pos digits, List.dropWhile_append_of_pos digits]
  simp [other]

theorem shown?_millis (n : Nat) : shown? s!"{n} ms" = some n := by
  have text : (s!"{n} ms").toList = Nat.toDigits 10 n ++ [' ', 'm', 's'] := by
    simp only [String.toList_append, Nat.toString_eq_repr, Nat.toList_repr]
    rfl
  obtain ⟨digits, rest⟩ := @span_digits n ' ' ['m', 's'] rfl
  unfold shown?
  rw [text, digits, rest, Nat.ofDigitChars_ten_toDigits]
  rfl

theorem shown?_seconds (n : Nat) {tenth : Nat} (h : tenth < 10) :
    shown? s!"{n}.{tenth} s" = some (1000 * n + 100 * tenth) := by
  have text : (s!"{n}.{tenth} s").toList =
      Nat.toDigits 10 n ++ ['.', tenth.digitChar, ' ', 's'] := by
    simp only [String.toList_append, Nat.toString_eq_repr, Nat.toList_repr,
      Nat.toDigits_of_lt_base h, List.append_assoc]
    rfl
  have all_digits : ∀ b < 10, b.digitChar.isDigit ∧ b.digitChar.toNat - '0'.toNat = b := by decide
  have digit := all_digits tenth h
  obtain ⟨digits, rest⟩ := @span_digits n '.' [tenth.digitChar, ' ', 's'] rfl
  unfold shown?
  rw [text, digits, rest, Nat.ofDigitChars_ten_toDigits]
  simp only [if_pos digit.1, digit.2]

/-- The value that is shown of so many milliseconds. -/
def shownMillis (ms : Nat) : Nat := if ms < 1000 then ms else 100 * ((ms + 55) / 100)

theorem shown?_brief (d : Duration) : shown? d.brief = some (shownMillis d.millis) := by
  unfold brief shownMillis
  split
  · exact shown?_millis d.millis
  · rw [shown?_seconds _ (Nat.mod_lt _ (by decide)), ← tenths_eq]
    congr 1
    omega

/-- A longer time never shows as less. -/
theorem shownMillis_mono {a b : Nat} (h : a ≤ b) : shownMillis a ≤ shownMillis b := by
  unfold shownMillis
  split <;> split <;> omega

theorem shownMillis_near (ms : Nat) : shownMillis ms ≤ ms + 55 ∧ ms ≤ shownMillis ms + 44 := by
  unfold shownMillis
  split <;> omega

/-- A number of 128 bits, if it is one. -/
def word? (n : Nat) : Option Nat := if n < 2 ^ 128 then some n else none

/-- The text computed in words of 128 bits, unless a step outgrows them. -/
def briefInWords? (secs nanos : Nat) : Option String := do
  let whole ← word? (secs * 1000)
  let ms ← word? (whole + nanos / 1000000)
  if ms < 1000 then return s!"{ms} ms"
  let rounded ← word? (ms + 5)
  let hundredths := rounded / 10
  let rounded ← word? (hundredths + 5)
  let tenths := rounded / 10
  return s!"{tenths / 10}.{tenths % 10} s"

theorem briefInWords?_eq {secs nanos : Nat} (hs : secs < 2 ^ 64) (hn : nanos < 1000000000) :
    briefInWords? secs nanos = some (ofParts secs nanos).brief := by
  have word (n : Nat) (h : n < 2 ^ 128) : word? n = some n := if_pos h
  have ms := millis_ofParts secs nanos
  have whole := word (secs * 1000) (by omega)
  have sum := word (secs * 1000 + nanos / 1000000) (by omega)
  have first := word (secs * 1000 + nanos / 1000000 + 5) (by omega)
  have second := word ((secs * 1000 + nanos / 1000000 + 5) / 10 + 5) (by omega)
  simp only [briefInWords?, brief, tenths, ms, whole, sum, first, second, Option.bind_eq_bind,
    Option.bind_some]
  split <;> rfl

end Duration

/-- Verdicts show lengths truthfully. Below a second the whole milliseconds stand as they are. From
there on seconds with one decimal do, in tenths that one division gives, so that no more than 55 ms
are added and no more than 44 ms left out. Of two lengths the longer one never shows as less, also
where the unit changes. For seconds of 64 bits every step fits 128 bits. -/
theorem brief_truthful {secs nanos : Nat} (hs : secs < 2 ^ 64) (hn : nanos < 1000000000)
    {d : Duration} (parts : d = .ofParts secs nanos) :
    (d.millis < 1000 → d.brief = toString d.millis ++ " ms") ∧
      (1000 ≤ d.millis → ∃ a b, b < 10 ∧ 10 * a + b = (d.millis + 55) / 100 ∧
        d.brief = toString a ++ "." ++ toString b ++ " s") ∧
      (∃ v, Duration.shown? d.brief = some v ∧ v ≤ d.millis + 55 ∧ d.millis ≤ v + 44 ∧
        ∀ longer : Duration, d.nanos ≤ longer.nanos →
          ∃ v', Duration.shown? longer.brief = some v' ∧ v ≤ v') ∧
      Duration.briefInWords? secs nanos = some d.brief := by
  refine ⟨fun short => if_pos short, fun long => ?_, ?_,
    parts ▸ Duration.briefInWords?_eq hs hn⟩
  · refine ⟨d.tenths / 10, d.tenths % 10, Nat.mod_lt _ (by decide), ?_, if_neg (by omega)⟩
    rw [Nat.div_add_mod, Duration.tenths_eq]
  · obtain ⟨above, below⟩ := Duration.shownMillis_near d.millis
    refine ⟨_, d.shown?_brief, above, below, fun longer le => ?_⟩
    have later : d.millis ≤ longer.millis := Nat.div_le_div_right le
    exact ⟨_, longer.shown?_brief, Duration.shownMillis_mono later⟩

/-- 1545 ms are 1.55 s in hundredths, and therefore 1.6 s. -/
theorem brief_truthful_carried :
    (Duration.ofParts 1 545000000).brief = "1.6 s" ∧
      Duration.briefInWords? 1 545000000 = some "1.6 s" ∧
      ∃ v', Duration.shown? (Duration.ofSecs 2).brief = some v' ∧ 1600 ≤ v' := by
  have seconds : 1 < 2 ^ 64 := by decide
  have nanos : 545000000 < 1000000000 := by decide
  have shown : (Duration.ofParts 1 545000000).brief = "1.6 s" := by decide +kernel
  obtain ⟨-, -, ⟨v, value, -, -, grows⟩, words⟩ := brief_truthful seconds nanos rfl
  obtain ⟨v', value', more⟩ := grows (.ofSecs 2) (by decide)
  have exact_value : v = 1600 := by
    rw [shown] at value
    exact (Option.some.inj value).symm
  rw [shown] at words
  exact ⟨shown, words, v', value', exact_value ▸ more⟩

end SerialSuite
