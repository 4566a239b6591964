import SerialSuite.Proofs.Delivery
import SerialSuite.Proofs.Printing
import SerialSuite.Proofs.Trace

/-!
How results are counted. Each goes into one column of the tally, which the latest start before it
decides together with the outcome; its verdict is shown at once, with the time since that start
(`results_counted`). What a block says at the end is the number of the verdicts shown before it.
-/

namespace SerialSuite

/-- Whether a start was one of a test for nightly runs only, and when it came. -/
abbrev Start := Bool × Duration

/-- The start that a message brings. -/
def startOf? (x : Timed Message) : Option Start :=
  match x.1 with
  | .testStarted _ nightlyOnly _ => some (nightlyOnly, x.2)
  | _ => none

/-- The latest start in a list of messages. -/
def latestStart (before : List (Timed Message)) : Option Start :=
  before.reverse.findSome? startOf?

/-- Results behind this start are skipped. -/
def Skipping (m : Mode) (start : Option Start) : Prop :=
  m.nightly = false ∧ ∃ began, start = some (true, began)

/-- The time since a start less the compensation, and nothing if that is less than nothing, or if
there was no start. -/
def timeSince (m : Mode) (start : Option Start) (now : Duration) : Duration :=
  match start with
  | none => .zero
  | some (_, began) => ⟨(max 0 ((now.nanos : Int) - began.nanos - m.compensation.nanos)).toNat⟩

/-- How a result is counted: its verdict, the tally with it, and whether it aborts the run. -/
inductive Counts (m : Mode) (start : Option Start) (now : Duration) (t : Tally) :
    Outcome → Verdict → Tally → Bool → Prop
  | skipped {outcome : Outcome} : Skipping m start →
      Counts m start now t outcome .skipped { t with skipped := t.skipped + 1 } false
  | passed : ¬ Skipping m start →
      Counts m start now t .pass (.passed (timeSince m start now))
        { t with passed := t.passed + 1 } false
  | failed : ¬ Skipping m start →
      Counts m start now t .fail (.failed (timeSince m start now))
        { t with failed := t.failed + 1 } m.stopOnError

def Message.isResult : Message → Bool
  | testResult .. => true
  | _ => false

namespace Notice

def verdict? : Notice → Option Verdict
  | verdict v => some v
  | _ => none

/-- The tally in a block. -/
def tally? : Notice → Option Tally
  | completed t | aborted t => some t
  | _ => none

end Notice

/-- The verdicts among notices, in order. -/
def verdictsIn (ns : List Notice) : List Verdict := ns.filterMap Notice.verdict?

theorem verdictsIn_append (a b : List Notice) :
    verdictsIn (a ++ b) = verdictsIn a ++ verdictsIn b := List.filterMap_append

def Verdict.isPass : Verdict → Bool
  | passed _ => true
  | _ => false

/-- How many verdicts there are of each kind. -/
def Tally.of (vs : List Verdict) : Tally where
  passed := vs.countP Verdict.isPass
  failed := vs.countP Verdict.isFailure
  skipped := vs.count .skipped

theorem Tally.of_concat (vs : List Verdict) (v : Verdict) :
    Tally.of (vs ++ [v]) = (Tally.of vs).count v := by
  cases v <;> simp [Tally.of, Tally.count, Verdict.isPass, Verdict.isFailure]

/-- The block that a result brings, with the tally as it is then. -/
def closing (abort isFinal : Bool) (t : Tally) : List Notice :=
  if abort then [.aborted t] else if isFinal then [.completed t] else []

theorem latestStart_concat (before : List (Timed Message)) (x : Timed Message) :
    latestStart (before ++ [x]) = (startOf? x).or (latestStart before) := by
  simp only [latestStart, List.reverse_append, List.reverse_singleton, List.singleton_append,
    List.findSome?_cons]
  cases startOf? x <;> rfl

namespace Suite

/-- What a suite keeps of the latest start. -/
structure Recalls (m : Mode) (start : Option Start) (s : Suite) : Prop where
  mode : s.mode = m
  startedAt : s.progress.startedAt = start.map Prod.snd
  nightlyOnly : s.progress.nightlyOnly = (start.map Prod.fst).getD false

theorem heed_recalls {m : Mode} {start : Option Start} {s : Suite} (h : s.Recalls m start)
    (x : Timed Message) : (s.heed x).suite.Recalls m ((startOf? x).or start) := by
  obtain ⟨message, now⟩ := x
  cases message with
  | stateRequest =>
    simp only [heed, handle, answerRequest]
    split
    · exact ⟨h.mode, h.startedAt, h.nightlyOnly⟩
    · exact h
  | testStarted => exact ⟨h.mode, rfl, rfl⟩
  | testResult => exact ⟨h.mode, h.startedAt, h.nightlyOnly⟩
  | init | stateResponse => exact h

theorem behind_recalls (m : Mode) (before : List (Timed Message)) :
    (behind heed { mode := m } before).Recalls m (latestStart before) := by
  induction before using List.reverseRecOn with
  | nil => exact ⟨rfl, rfl, rfl⟩
  | append_singleton before x ih =>
    rw [behind_concat, latestStart_concat]
    exact heed_recalls ih x

section recalls
variable {m : Mode} {start : Option Start} {s : Suite}

theorem elapsed_eq_timeSince (h : s.Recalls m start) (now : Duration) :
    s.progress.elapsed now s.mode.compensation = timeSince m start now := by
  rw [Progress.elapsed, h.startedAt, h.mode]
  cases start with
  | none => rfl
  | some began =>
    simp only [Option.map_some, timeSince]
    change Duration.mk _ = Duration.mk _
    congr 1
    simp only [Duration.nanos_sub]
    omega

theorem skipping_iff (h : s.Recalls m start) :
    (s.progress.nightlyOnly && !s.mode.nightly) = true ↔ Skipping m start := by
  rw [h.nightlyOnly, h.mode, Skipping]
  cases start with
  | none => simp
  | some began =>
    obtain ⟨nightlyOnly, began⟩ := began
    cases nightlyOnly <;> simp

theorem judge_of_skipping (h : s.Recalls m start) (skips : Skipping m start) (outcome : Outcome)
    (now : Duration) : s.judge outcome now = .skipped :=
  if_pos ((skipping_iff h).2 skips)

theorem judge_of_counting (h : s.Recalls m start) (counts : ¬ Skipping m start)
    (outcome : Outcome) (now : Duration) : s.judge outcome now = match outcome with
      | .pass => .passed (timeSince m start now)
      | .fail => .failed (timeSince m start now) := by
  rw [← elapsed_eq_timeSince h]
  exact if_neg (mt (skipping_iff h).1 counts)

/-- A result is counted by its verdict. -/
theorem heed_counts (h : s.Recalls m start) (outcome : Outcome) (isFinal : Bool)
    (state : SavedState) (now : Duration) :
    let step := s.heed (.testResult outcome isFinal state, now)
    Counts m start now s.progress.tally outcome (s.judge outcome now) step.suite.progress.tally
      step.result.abort := by
  have mode_eq := h.mode
  subst mode_eq
  change Counts _ start now s.progress.tally outcome _
    (s.progress.tally.count (s.judge outcome now))
    ((s.judge outcome now).isFailure && s.mode.stopOnError)
  by_cases skips : Skipping s.mode start
  · rw [judge_of_skipping h skips]
    exact .skipped skips
  · rw [judge_of_counting h skips]
    cases outcome with
    | pass => exact .passed skips
    | fail => exact .failed skips

end recalls

theorem heed_closing (s : Suite) (outcome : Outcome) (isFinal : Bool) (state : SavedState)
    (now : Duration) :
    let step := s.heed (.testResult outcome isFinal state, now)
    step.notices = .verdict (s.judge outcome now) ::
      closing step.result.abort isFinal step.suite.progress.tally :=
  endTest_notices s outcome isFinal state now

/-- What is no result counts nothing, shows no verdict and no block, and aborts nothing. -/
theorem heed_other (s : Suite) {x : Timed Message} (other : x.1.isResult = false) :
    (s.heed x).suite.progress.tally = s.progress.tally ∧
      (∀ n ∈ (s.heed x).notices, n.verdict? = none ∧ n.tally? = none) ∧
      (s.heed x).result.abort = false := by
  obtain ⟨message, now⟩ := x
  cases message with
  | testResult => cases other
  | stateRequest =>
    refine ⟨?_, by simp [heed, handle, answerRequest, Step.notices, Activity.notice?], rfl⟩
    simp only [heed, handle, answerRequest]
    split <;> rfl
  | testStarted =>
    refine ⟨rfl, ?_, rfl⟩
    simp [heed, handle, beginTest, Step.notices, Activity.notice?, Notice.verdict?, Notice.tally?]
  | init | stateResponse =>
    exact ⟨rfl, by simp [heed, handle, Step.notices, Activity.notice?], rfl⟩

end Suite

/-- Every block has the numbers of the verdicts before it. -/
def Honest (ns : List Notice) : Prop :=
  ∀ seen n rest, ns = seen ++ n :: rest → ∀ t ∈ n.tally?, t = Tally.of (verdictsIn seen)

/-- A tally that agrees with what was shown. -/
structure Accounts (ns : List Notice) (t : Tally) : Prop where
  tally : t = Tally.of (verdictsIn ns)
  honest : Honest ns

section accounts
variable {ns more : List Notice} {n : Notice} {t : Tally}

theorem honest_concat :
    Honest (ns ++ [n]) ↔ Honest ns ∧ ∀ t ∈ n.tally?, t = Tally.of (verdictsIn ns) := by
  exact forall_split_concat

theorem Accounts.verdict (h : Accounts ns t) (v : Verdict) :
    Accounts (ns ++ [.verdict v]) (t.count v) where
  tally := by
    rw [verdictsIn_append, h.tally]
    exact (Tally.of_concat _ v).symm
  honest := honest_concat.2 ⟨h.honest, by simp [Notice.tally?]⟩

/-- Notices without a verdict may have the tally as it is. -/
theorem Accounts.append (h : Accounts ns t)
    (quiet : ∀ n ∈ more, n.verdict? = none ∧ ∀ t' ∈ n.tally?, t' = t) :
    Accounts (ns ++ more) t := by
  induction more generalizing ns with
  | nil => rwa [List.append_nil]
  | cons n rest ih =>
    obtain ⟨⟨no_verdict, same⟩, later⟩ := List.forall_mem_cons.1 quiet
    rw [List.append_cons]
    refine ih ⟨?_, honest_concat.2 ⟨h.honest, ?_⟩⟩ later
    · rw [verdictsIn_append, h.tally]
      simp [verdictsIn, no_verdict]
    · intro t' tally
      rw [same t' tally, h.tally]

theorem closing_quiet (abort isFinal : Bool) (t : Tally) :
    ∀ n ∈ closing abort isFinal t, n.verdict? = none ∧ ∀ t' ∈ n.tally?, t' = t := by
  cases abort <;> cases isFinal <;> simp [closing, Notice.verdict?, Notice.tally?]

/-- A message leaves the tally in agreement with what it adds to the notices. -/
theorem Accounts.heed {s : Suite} (h : Accounts ns s.progress.tally) (x : Timed Message) :
    Accounts (ns ++ (s.heed x).notices) (s.heed x).suite.progress.tally := by
  cases kind : x.1.isResult with
  | false =>
    obtain ⟨same, quiet, -⟩ := s.heed_other kind
    rw [same]
    apply h.append
    intro n shown
    obtain ⟨no_verdict, no_tally⟩ := quiet n shown
    exact ⟨no_verdict, by simp [no_tally]⟩
  | true =>
    obtain ⟨message, now⟩ := x
    cases message with
    | testResult outcome isFinal state =>
      rw [s.heed_closing, List.append_cons]
      exact (h.verdict (s.judge outcome now)).append (closing_quiet _ _ _)
    | _ => cases kind

/-- What every step keeps in agreement is so behind all steps of a new suite. -/
theorem Accounts.behind {ι α : Type} {f : Suite → ι → Suite.Step α}
    (step : ∀ ns s x, Accounts ns s.progress.tally →
      Accounts (ns ++ (f s x).notices) (f s x).suite.progress.tally)
    (m : Mode) (xs : List ι) :
    Accounts (Suite.shown f { mode := m } xs)
      (Suite.behind f { mode := m } xs).progress.tally := by
  induction xs using List.reverseRecOn with
  | nil => exact ⟨rfl, by simp [Honest, Suite.shown, Suite.steps]⟩
  | append_singleton xs x ih =>
    rw [Suite.behind_concat, Suite.shown_concat]
    exact step _ _ x ih

end accounts

open Suite (heed)

theorem heed_total (s : Suite) (x : Timed Message) : (s.heed x).suite.progress.tally.total =
    s.progress.tally.total + if x.1.isResult then 1 else 0 := by
  cases kind : x.1.isResult with
  | false =>
    rw [(s.heed_other kind).1]
    rfl
  | true =>
    obtain ⟨message, now⟩ := x
    cases message with
    | testResult outcome isFinal state => exact Tally.total_count _ (s.judge outcome now)
    | _ => cases kind

theorem total_behind (m : Mode) (before : List (Timed Message)) :
    (Suite.behind heed { mode := m } before).progress.tally.total =
      before.countP fun x => x.1.isResult := by
  induction before using List.reverseRecOn with
  | nil => rfl
  | append_singleton before x ih =>
    rw [Suite.behind_concat, List.countP_append, List.countP_singleton, ← ih]
    exact heed_total _ x

/-- How each message is counted, behind all those before it and at any instants. A result is skipped
if the latest start was for nightly runs only and this run is none; or else it counts by its
outcome, with the time since that start. Its verdict is shown, with the block if it brings one; it
aborts the run just if it counts as a failure while errors stop the run. No other message changes
the tally or shows a verdict. So the tally counts the results, and every block the verdicts that
were shown before it. -/
theorem results_counted {c : Console} (works : c.Works) (m : Mode) (before : List (Timed Message))
    (x : Timed Message) :
    let s := Suite.behind heed { mode := m } before
    let step := s.heed x
    (∀ outcome isFinal state, x.1 = .testResult outcome isFinal state →
      ∃ v, Counts m (latestStart before) x.2 s.progress.tally outcome v
          step.suite.progress.tally step.result.abort ∧
        step.notices = .verdict v :: closing step.result.abort isFinal step.suite.progress.tally) ∧
    (x.1.isResult = false → step.suite.progress.tally = s.progress.tally ∧
      verdictsIn step.notices = [] ∧ step.result.abort = false) ∧
    s.progress.tally.total = before.countP (fun x => x.1.isResult) ∧
    s.progress.tally = Tally.of (verdictsIn (Suite.shown heed { mode := m } before)) ∧
    Honest (Suite.shown heed { mode := m } before) ∧
    (c.reportAll (Suite.shown heed { mode := m } (before ++ [x]))).output =
      (c.reportAll (Suite.shown heed { mode := m } before)).output ++
        printed c.colour (linesOf step.notices) := by
  intro s step
  have recalls := Suite.behind_recalls m before
  obtain ⟨tally, honest⟩ := Accounts.behind (f := heed) (fun _ _ x h => h.heed x) m before
  refine ⟨?_, ?_, total_behind m before, tally, honest, ?_⟩
  · intro outcome isFinal state result
    obtain ⟨message, now⟩ := x
    cases result
    exact ⟨s.judge outcome now, Suite.heed_counts recalls outcome isFinal state now,
      s.heed_closing outcome isFinal state now⟩
  · intro other
    obtain ⟨same, quiet, goes_on⟩ := s.heed_other other
    refine ⟨same, ?_, goes_on⟩
    apply List.filterMap_eq_nil_iff.2
    intro n shown
    exact (quiet n shown).1
  · have earlier := Console.reportAll_printed works (Suite.shown heed { mode := m } before)
    have all := Console.reportAll_printed works (Suite.shown heed { mode := m } (before ++ [x]))
    rw [all.output, earlier.output, Suite.shown_concat, linesOf_append, printed_append,
      List.append_assoc]

/-- A failure that is skipped behind one that counts. The clock has gone back meanwhile. -/
theorem results_counted_nightly :
    let c : Console := { colour := true }
    let state : SavedState := ⟨[], by decide⟩
    let before : List (Timed Message) :=
      [(.testResult .fail false state, .ofMillis 9), (.testStarted .empty true state, .ofMillis 7)]
    let x : Timed Message := (.testResult .fail true state, .ofMillis 5)
    let step := (Suite.behind heed {} before).heed x
    c.Works ∧ Counts {} (latestStart before) x.2 { failed := 1 } .fail .skipped
        { failed := 1, skipped := 1 } false ∧
      step.notices = [.verdict .skipped, .completed { failed := 1, skipped := 1 }] ∧
      (c.reportAll (Suite.shown heed {} (before ++ [x]))).output =
        (c.reportAll (Suite.shown heed {} before)).output ++
          printed true (linesOf step.notices) := by
  intro c state before x step
  have works : c.Works := fun _ _ => rfl
  obtain ⟨counted, -, -, -, -, text⟩ := results_counted works {} before x
  obtain ⟨v, counts, noticed⟩ := counted .fail true state rfl
  obtain rfl : v = .skipped := by
    cases counts with
    | skipped => rfl
  exact ⟨works, counts, noticed, text⟩

end SerialSuite
