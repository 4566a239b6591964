import SerialSuite.Proofs.Sending

/-!
Whole runs from their rounds. What every round keeps, all rounds keep (`drive_keeps`), and so does
the whole run (`finish_keeps`). Two runs whose rounds agree until one of them is cut short agree to
the end, or up to there (`drive_together`, `finish_together`).
-/

namespace SerialSuite

namespace Run

/-- What every round keeps is kept from the first round to the end. -/
theorem drive_keeps {I : Run → Prop} (step : ∀ r, I r → I (r.round).2) {r : Run}
    (h : I (r.round).2) : I (r.drive).2 := by
  fun_induction Run.drive r with
  | case1 r r' next ih =>
    rw [next] at h
    exact ih (step r' h)
  | case2 r ending r' last => rwa [last] at h
  | case3 r e r' last => rwa [last] at h

/-- Two runs side by side. If their rounds agree, and keep them related, until one run is cut short,
then they agree to the end, or both come to where the one is cut. -/
theorem drive_together {R C : Run → Run → Prop}
    (step : ∀ r g, R r g → ((r.round).1 = (g.round).1 ∧ R (r.round).2 (g.round).2) ∨ C r g)
    {r g : Run} (h : R r g) :
    ((r.drive).1 = (g.drive).1 ∧ R (r.drive).2 (g.drive).2) ∨
      ∃ r' g', R r' g' ∧ C r' g' ∧ r'.drive = r.drive ∧ g'.drive = g.drive := by
  -- on the rounds of the first run
  fun_induction Run.drive r generalizing g with
  | case1 r r' next ih =>
    rcases step r g h with ⟨same, later⟩ | cut
    · rw [next] at same later
      have next' : g.round = (.ok none, (g.round).2) := Prod.ext same.symm rfl
      rw [drive_of_next next']
      exact ih later
    · exact .inr ⟨r, g, h, cut, drive_of_next next, rfl⟩
  | case2 r ending r' last =>
    rcases step r g h with ⟨same, later⟩ | cut
    · rw [last] at same later
      have last' : g.round = (.ok (some ending), (g.round).2) := Prod.ext same.symm rfl
      rw [drive_of_ending last']
      exact .inl ⟨rfl, later⟩
    · exact .inr ⟨r, g, h, cut, drive_of_ending last, rfl⟩
  | case3 r e r' last =>
    rcases step r g h with ⟨same, later⟩ | cut
    · rw [last] at same later
      have last' : g.round = (.error e, (g.round).2) := Prod.ext same.symm rfl
      rw [drive_of_error last']
      exact .inl ⟨rfl, later⟩
    · exact .inr ⟨r, g, h, cut, drive_of_error last, rfl⟩

/-- A run whose first packet is not sent ends there. -/
theorem finish_of_unopened {r : Run} {e : LinkError} {sender : Sender}
    (h : r.sender.send r.suite.opening.frame = (.error e, sender)) : ∃ journal,
    r.finish = (.error (.link e), { r with sender }.ended (.error (.link e)) journal) := by
  obtain ⟨journal, first⟩ := transmit_eq r.suite.opening_fits
  rw [h] at first
  obtain ⟨journal', finished⟩ := finish_of_converse (converse_of_unsent first)
  exact ⟨journal', finished⟩

/-- A run whose first packet is sent goes on with its rounds, and ends with their result. -/
theorem finish_of_opened {r : Run} {sender : Sender}
    (h : r.sender.send r.suite.opening.frame = (.ok (), sender)) : ∃ journal journal',
    r.finish = (({ r with sender, journal }.drive).1, ({ r with sender, journal }.drive).2.ended
      ({ r with sender, journal }.drive).1 journal') := by
  obtain ⟨journal, first⟩ := transmit_eq r.suite.opening_fits
  rw [h] at first
  obtain ⟨journal', finished⟩ := finish_of_converse (converse_of_sent first)
  exact ⟨journal, journal', finished⟩

/-- What sending the first packet, every round and the end keep, a whole run keeps. -/
theorem finish_keeps {I : Run → Prop} (step : ∀ r, I r → I (r.round).2)
    (ends : ∀ r result journal, I r → I (r.ended result journal)) {r : Run}
    (opens : ∀ sender journal, I { r with sender, journal }) : I (r.finish).2 := by
  cases first : r.sender.send r.suite.opening.frame with
  | mk result sender =>
    cases result with
    | error e =>
      obtain ⟨journal, finish_eq⟩ := finish_of_unopened first
      rw [finish_eq]
      exact ends _ _ _ (opens sender r.journal)
    | ok =>
      obtain ⟨journal, journal', finish_eq⟩ := finish_of_opened first
      have driven := drive_keeps step (step _ (opens sender journal))
      rw [finish_eq]
      exact ends _ _ _ driven

/-- Two whole runs side by side, as with `drive_together`, that start with the same sender and the
same packet. -/
theorem finish_together {R C : Run → Run → Prop}
    (step : ∀ r g, R r g → ((r.round).1 = (g.round).1 ∧ R (r.round).2 (g.round).2) ∨ C r g)
    {r g : Run} (sender_eq : g.sender = r.sender) (opening_eq : g.suite.opening = r.suite.opening)
    (start : ∀ sender journal journal',
      R { r with sender, journal } { g with sender, journal := journal' }) :
    (∃ x r' g' journal journal', R r' g' ∧ r.finish = (x, r'.ended x journal) ∧
        g.finish = (x, g'.ended x journal')) ∨
      ∃ r' g' journal journal', R r' g' ∧ C r' g' ∧
        r.finish = ((r'.drive).1, (r'.drive).2.ended (r'.drive).1 journal) ∧
        g.finish = ((g'.drive).1, (g'.drive).2.ended (g'.drive).1 journal') := by
  cases first : r.sender.send r.suite.opening.frame with
  | mk result sender =>
    have first' : g.sender.send g.suite.opening.frame = (result, sender) := by
      rw [sender_eq, opening_eq, first]
    cases result with
    | error e =>
      obtain ⟨journal, finish_eq⟩ := finish_of_unopened first
      obtain ⟨journal', finish_eq'⟩ := finish_of_unopened first'
      exact .inl ⟨_, _, _, journal, journal', start sender #[] #[], finish_eq, finish_eq'⟩
    | ok =>
      obtain ⟨journal, later, finish_eq⟩ := finish_of_opened first
      obtain ⟨journal', later', finish_eq'⟩ := finish_of_opened first'
      rcases drive_together step (start sender journal journal') with
        ⟨same, last⟩ | ⟨r', g', related, cut, driven, driven'⟩
      · rw [← same] at finish_eq'
        exact .inl ⟨_, _, _, later, later', last, finish_eq, finish_eq'⟩
      · rw [← driven] at finish_eq
        rw [← driven'] at finish_eq'
        exact .inr ⟨r', g', later, later', related, cut, finish_eq, finish_eq'⟩

end Run

/-- What can be seen of a run from outside: its result, the instant of its end, the log of its sink
and the text on its console. -/
structure Answer where
  result : Except RunError Ending
  time : Nat
  sink : List SinkEvent
  text : Bytes

def Run.answer (r : Run) : Answer where
  result := (r.finish).1
  time := (r.finish).2.receiver.clock
  sink := (r.finish).2.sender.events
  text := (r.finish).2.console.output

end SerialSuite
