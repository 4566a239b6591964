import SerialSuite.Proofs.Trace

/-!
Transcripts: what comes of packets or of messages, one after the other, with the suite and the
console behind each of them. A transcript has no place for what is recorded only, so that steps that
differ in their records alone are the same in it (`Step.Same.entry_eq`).
-/

namespace SerialSuite

/-- What can be seen of a step: what comes of it, and the suite and the console behind it. -/
structure Entry (α : Type) where
  result : α
  suite : Suite
  console : Console

/-- What a mask leaves of a list. -/
def select {α : Type} : List Bool → List α → List α
  | true :: mask, x :: xs => x :: select mask xs
  | false :: mask, _ :: xs => select mask xs
  | _, _ => []

namespace Suite

section
variable {ι α : Type}

/-- The step as it is seen with the console that it finds. -/
def Step.entry (step : Step α) (c : Console) : Entry α where
  result := step.result
  suite := step.suite
  console := c.reportAll step.notices

/-- Two steps that differ in what they record only. -/
structure Step.Same (a b : Step α) : Prop where
  suite : a.suite = b.suite
  notices : a.notices = b.notices
  result : a.result = b.result

theorem Step.Same.refl (a : Step α) : a.Same a := ⟨rfl, rfl, rfl⟩

theorem Step.Same.entry_eq {a b : Step α} (same : a.Same b) (c : Console) :
    a.entry c = b.entry c := by
  simp only [entry, same.suite, same.notices, same.result]

variable (act : Suite → ι → Step α)

/-- The steps on all of these, in order, each as it is seen. -/
def transcript (s : Suite) (c : Console) : List ι → List (Entry α)
  | [] => []
  | x :: rest =>
    let entry := (act s x).entry c
    entry :: transcript entry.suite entry.console rest

theorem transcript_append (s : Suite) (c : Console) (a b : List ι) :
    s.transcript act c (a ++ b) = s.transcript act c a ++
      (s.behind act a).transcript act (c.reportAll (s.shown act a)) b := by
  induction a generalizing s c with
  | nil => rfl
  | cons x rest ih =>
    have later := ih (act s x).suite (c.reportAll (act s x).notices)
    rw [← Console.reportAll_append, ← shown_cons] at later
    simp only [List.cons_append, transcript]
    exact congrArg _ later

theorem transcript_concat (s : Suite) (c : Console) (xs : List ι) (x : ι) :
    s.transcript act c (xs ++ [x]) = s.transcript act c xs ++
      [(act (s.behind act xs) x).entry (c.reportAll (s.shown act xs))] :=
  transcript_append act s c xs [x]

/-- Two lists that come to the same thing in a suite, step by step. -/
structure SameCourse (s : Suite) (xs ys : List ι) : Prop where
  behind : s.behind act xs = s.behind act ys
  shown : s.shown act xs = s.shown act ys
  transcript : ∀ c, s.transcript act c xs = s.transcript act c ys

variable {act} {s : Suite} {xs ys : List ι} {x y : ι}

theorem SameCourse.concat (course : s.SameCourse act xs ys)
    (same : (act (s.behind act ys) x).Same (act (s.behind act ys) y)) :
    s.SameCourse act (xs ++ [x]) (ys ++ [y]) where
  behind := by
    rw [behind_concat, behind_concat, course.behind]
    exact same.suite
  shown := by
    rw [shown_concat, shown_concat, course.behind, course.shown, same.notices]
  transcript c := by
    rw [transcript_concat, transcript_concat, course.behind, course.shown, course.transcript c,
      same.entry_eq]

end

end Suite

end SerialSuite
