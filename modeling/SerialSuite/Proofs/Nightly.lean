import SerialSuite.Proofs.Counting
import SerialSuite.Proofs.Transcript

/-!
The filter for nightly tests. In other runs it takes the outcome of what it skips out of sight
(`sameCourse_of_flipped`); in a nightly run it takes nothing out, and a step of the suite is a step
of the suite without its flag (`heed_unflagged`).
-/

namespace SerialSuite

/-- The second list is the first with other outcomes of some results, all of them behind a latest
start that is for nightly runs only. -/
inductive Flipped : List (Timed Message) → List (Timed Message) → Prop
  | nil : Flipped [] []
  | same {xs ys : List (Timed Message)} (x : Timed Message) :
      Flipped xs ys → Flipped (xs ++ [x]) (ys ++ [x])
  | flip {xs ys : List (Timed Message)} {began now : Duration} {isFinal : Bool}
      {state : SavedState} (outcome outcome' : Outcome) :
      latestStart xs = some (true, began) → Flipped xs ys →
      Flipped (xs ++ [(.testResult outcome isFinal state, now)])
        (ys ++ [(.testResult outcome' isFinal state, now)])

/-- The message with the flag of a start down. -/
def Message.unflagged : Message → Message
  | testStarted name _ state => testStarted name false state
  | m => m

/-- The messages with the flags of all starts down. -/
def withoutFlags (xs : List (Timed Message)) : List (Timed Message) :=
  xs.map fun x => (x.1.unflagged, x.2)

/-- The suite without the flag of the latest start. -/
def Suite.unflagged (s : Suite) : Suite :=
  { s with progress := { s.progress with nightlyOnly := false } }

def Entry.unflagged {α : Type} (e : Entry α) : Entry α := { e with suite := e.suite.unflagged }

namespace Suite

variable {m : Mode} {start : Option Start} {s : Suite} {xs ys : List (Timed Message)}

/-- A result that is skipped makes one step, whatever its outcome. -/
theorem heed_flip (recalls : s.Recalls m start) (skips : Skipping m start)
    (outcome outcome' : Outcome) (isFinal : Bool) (state : SavedState) (now : Duration) :
    (s.heed (.testResult outcome isFinal state, now)).Same
      (s.heed (.testResult outcome' isFinal state, now)) := by
  have judged := judge_of_skipping recalls skips outcome now
  have judged' := judge_of_skipping recalls skips outcome' now
  refine ⟨?_, ?_, ?_⟩
  · simp only [heed, handle, endTest, judged, judged']
  · simp only [heed, handle, endTest_notices, judged, judged']
  · simp only [heed, handle, endTest, judged, judged']

theorem sameCourse_of_flipped (normal : m.nightly = false) (flipped : Flipped xs ys) :
    SameCourse heed { mode := m } xs ys := by
  induction flipped with
  | nil => exact ⟨rfl, rfl, fun _ => rfl⟩
  | same x _ ih => exact ih.concat (.refl _)
  | @flip xs _ began now isFinal state outcome outcome' latest _ ih =>
    -- both suites recall the latest start, which is one that is skipped
    have recalls := behind_recalls m xs
    rw [ih.behind] at recalls
    exact ih.concat (heed_flip recalls ⟨normal, began, latest⟩ outcome outcome' isFinal state now)

theorem heed_mode (s : Suite) (x : Timed Message) : (s.heed x).suite.mode = s.mode := by
  obtain ⟨message, now⟩ := x
  cases message with
  | stateRequest =>
    simp only [heed, handle, answerRequest]
    split <;> rfl
  | init | stateResponse | testStarted | testResult => rfl

theorem judge_unflagged (nightly : s.mode.nightly = true) (outcome : Outcome) (now : Duration) :
    s.unflagged.judge outcome now = s.judge outcome now := by
  simp only [judge, unflagged, nightly, Bool.not_true, Bool.and_false]
  rfl

/-- In a nightly run a step has no use for the flag. -/
theorem heed_unflagged (nightly : s.mode.nightly = true) (x : Timed Message) :
    Step.Same { s.heed x with suite := (s.heed x).suite.unflagged }
      (s.unflagged.heed (x.1.unflagged, x.2)) := by
  obtain ⟨message, now⟩ := x
  cases message with
  | stateRequest =>
    refine ⟨?_, rfl, rfl⟩
    by_cases draining : s.phase = .draining <;>
      simp [heed, handle, Message.unflagged, answerRequest, unflagged, draining]
  | init | stateResponse | testStarted => exact ⟨rfl, rfl, rfl⟩
  | testResult outcome isFinal state =>
    have judged := judge_unflagged nightly outcome now
    refine ⟨?_, ?_, ?_⟩
    · simp only [heed, handle, Message.unflagged, endTest, judged]
      rfl
    · simp only [Step.notices, heed, handle, Message.unflagged, endTest, judged]
      rfl
    · simp only [heed, handle, Message.unflagged, endTest, judged]
      rfl

theorem judge_of_nightly (nightly : s.mode.nightly = true) (outcome : Outcome) (now : Duration) :
    s.judge outcome now ≠ .skipped := by
  cases outcome <;> simp [judge, nightly]

theorem heed_skipped (nightly : s.mode.nightly = true) (x : Timed Message) :
    (s.heed x).suite.progress.tally.skipped = s.progress.tally.skipped := by
  cases kind : x.1.isResult with
  | false => rw [(s.heed_other kind).1]
  | true =>
    obtain ⟨message, now⟩ := x
    cases message with
    | testResult outcome isFinal state =>
      have counted := judge_of_nightly nightly outcome now
      change (s.progress.tally.count (s.judge outcome now)).skipped = _
      cases judged : s.judge outcome now with
      | skipped => exact absurd judged counted
      | passed | failed => rfl
    | _ => cases kind

theorem transcript_unflagged (nightly : s.mode.nightly = true) (c : Console)
    (xs : List (Timed Message)) : (s.transcript heed c xs).map Entry.unflagged =
      s.unflagged.transcript heed c (withoutFlags xs) := by
  induction xs generalizing s c with
  | nil => rfl
  | cons x rest ih =>
    have entry_eq : ((s.heed x).entry c).unflagged =
        (s.unflagged.heed (x.1.unflagged, x.2)).entry c := (heed_unflagged nightly x).entry_eq c
    have nightly_later : (s.heed x).suite.mode.nightly = true := by
      rw [heed_mode, nightly]
    have later := ih nightly_later (c.reportAll (s.heed x).notices)
    simp only [withoutFlags, List.map_cons, transcript, ← entry_eq]
    exact congrArg _ later

theorem transcript_skipped (nightly : s.mode.nightly = true) (c : Console)
    (xs : List (Timed Message)) : ∀ e ∈ s.transcript heed c xs,
      e.suite.progress.tally.skipped = s.progress.tally.skipped := by
  induction xs generalizing s c with
  | nil => simp [transcript]
  | cons x rest ih =>
    have skipped := heed_skipped nightly x
    have nightly_later : (s.heed x).suite.mode.nightly = true := by
      rw [heed_mode, nightly]
    rw [transcript, List.forall_mem_cons]
    refine ⟨skipped, ?_⟩
    intro e member
    exact (ih nightly_later _ e member).trans skipped

end Suite

open Suite (heed)

/-- The filter hides just what it skips. In a run that is not nightly, the outcomes of results
behind a start that is for nightly runs only can be any others: every message has the same reaction,
and the same suite and console behind it. In a nightly run the same holds for the flags of starts,
but for the flag itself that is kept, and nothing is counted as skipped. -/
theorem nightly_filter (m : Mode) (c : Console) {xs ys : List (Timed Message)} :
    let s : Suite := { mode := m }
    (m.nightly = false → Flipped xs ys → s.transcript heed c xs = s.transcript heed c ys) ∧
    (m.nightly = true → withoutFlags xs = withoutFlags ys →
      (s.transcript heed c xs).map Entry.unflagged =
        (s.transcript heed c ys).map Entry.unflagged) ∧
    (m.nightly = true → ∀ e ∈ s.transcript heed c xs, e.suite.progress.tally.skipped = 0) := by
  intro s
  refine ⟨?_, ?_, ?_⟩
  · intro normal flipped
    exact (Suite.sameCourse_of_flipped normal flipped).transcript c
  · intro nightly same
    have erased := Suite.transcript_unflagged (s := s) nightly c
    rw [erased xs, erased ys, same]
  · intro nightly
    exact Suite.transcript_skipped (s := s) nightly c xs

/-- A last result behind a start for nightly runs only, in a run that stops on errors: as a failure
and as a pass, and in a nightly run behind the same start without its flag. -/
theorem nightly_filter_last :
    let mode : Mode := { stopOnError := true }
    let c : Console := { colour := true }
    let state : SavedState := ⟨[7], by decide⟩
    let started (nightlyOnly : Bool) : Timed Message :=
      (.testStarted .empty nightlyOnly state, .ofMillis 2)
    let result (outcome : Outcome) : Timed Message := (.testResult outcome true state, .ofMillis 9)
    (mode.nightly = false ∧ Flipped [started true, result .fail] [started true, result .pass] ∧
      Suite.transcript heed { mode } c [started true, result .fail] =
        Suite.transcript heed { mode } c [started true, result .pass]) ∧
    let nightly : Suite := { mode := { mode with nightly := true } }
    withoutFlags [started true, result .fail] = withoutFlags [started false, result .fail] ∧
      (nightly.transcript heed c [started true, result .fail]).map Entry.unflagged =
        (nightly.transcript heed c [started false, result .fail]).map Entry.unflagged ∧
      ∀ e ∈ nightly.transcript heed c [started true, result .fail],
        e.suite.progress.tally.skipped = 0 := by
  intro mode c state started result
  have begun : Flipped [started true] [started true] := .same (started true) .nil
  have flipped : Flipped [started true, result .fail] [started true, result .pass] :=
    .flip .fail .pass rfl begun
  have normal :=
    @nightly_filter mode c [started true, result .fail] [started true, result .pass]
  have nightly := @nightly_filter { mode with nightly := true } c
    [started true, result .fail] [started false, result .fail]
  exact ⟨⟨rfl, flipped, normal.1 rfl flipped⟩, rfl, nightly.2.1 rfl rfl, nightly.2.2 rfl⟩

end SerialSuite
