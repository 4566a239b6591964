import SerialSuite.Proofs.Growth

/-!
How reads end, and where a run breaks off. A fill ends in four ways (`fill_result`), and the error
of a read that is none of the frame's own is that of one of its fills (`perform_error`). A fill
breaks off at an instant from which the clock cannot name the deadline (`fill_overflow`). So a run
that breaks off has come to such an instant (`finish_overflow`), and one that starts at such an
instant gets no further than its first packet (`finish_of_overflow`).
-/

namespace SerialSuite

/-- The longest watchdog that can be asked for, in milliseconds: a number of seconds of 64 bits. -/
def longestWatch : Nat := 0xFFFFFFFFFFFFFFFF * 1000

namespace Receiver

/-- A read keeps its pace. -/
theorem fillFrom_pacing (p : Pacing) (want : Nat) (got : List Bytes) (since now held : Nat)
    (arrivals : List Arrival) :
    (fillFrom p want got since now held arrivals).2.pacing = p := by
  fun_induction fillFrom p want got since now held arrivals <;> first | rfl | assumption

theorem fill_pacing (r : Receiver) (want : Nat) : (r.fill want).2.pacing = r.pacing := by
  unfold fill
  split
  · rfl
  · split
    · rfl
    · exact fillFrom_pacing _ _ _ _ _ _ _

theorem perform_pacing (reading : Reading α) (r : Receiver) :
    (perform reading r).2.pacing = r.pacing := by
  induction reading generalizing r with
  | done => rfl
  | pause ms next ih => exact ih _
  | fill want next ih =>
    have kept := r.fill_pacing want
    unfold perform
    split <;> rename_i filled <;> rw [filled] at kept
    · exact (ih _ _).trans kept
    · exact kept

/-! How reads end. -/

theorem fillFrom_result (p : Pacing) (want : Nat) (got : List Bytes) (since now held : Nat)
    (arrivals : List Arrival) :
    (∃ b, (fillFrom p want got since now held arrivals).1 = .ok b) ∨
      (∃ cause : IoError,
        (fillFrom p want got since now held arrivals).1 = .error (.io cause)) ∨
      (fillFrom p want got since now held arrivals).1 = .error p.silence ∨
      (fillFrom p want got since now held arrivals).1 = .error (.io .overflow) := by
  fun_induction fillFrom p want got since now held arrivals with
  | case1 | case3 | case8 => exact .inr (.inr (.inl rfl))
  | case2 | case11 => exact .inr (.inl ⟨_, rfl⟩)
  | case5 => exact .inr (.inr (.inr rfl))
  | case7 => exact .inl ⟨_, rfl⟩
  | case4 | case6 | case9 | case10 =>
    rename_i ih
    exact ih

theorem fill_result (r : Receiver) (want : Nat) : (∃ b, (r.fill want).1 = .ok b) ∨
    (∃ cause : IoError, (r.fill want).1 = .error (.io cause)) ∨
      (r.fill want).1 = .error r.pacing.silence ∨ (r.fill want).1 = .error (.io .overflow) := by
  unfold fill
  split
  · exact .inr (.inr (.inr rfl))
  · split
    · exact .inl ⟨[], rfl⟩
    · exact fillFrom_result ..

/-- An error that a reader does not come to by what it is given is that of one of its fills, which
starts no earlier than the reader. -/
theorem perform_error {reading : Reading α} {r : Receiver} {e : LinkError}
    (content : ∀ b, ¬ Consumes reading b (.error e)) (failed : (perform reading r).1 = .error e) :
    ∃ (r₁ : Receiver) (want : Nat), (r₁.fill want).1 = .error e ∧
      (r₁.fill want).2 = (perform reading r).2 ∧ r₁.pacing = r.pacing ∧ r.clock ≤ r₁.clock := by
  induction reading generalizing r with
  | done result =>
    have result_eq : result = .error e := failed
    exact absurd (.done _) (result_eq ▸ content [])
  | pause ms next ih =>
    obtain ⟨r₁, want, fails, last, pacing, later⟩ :=
      ih (r := { r with clock := r.clock + pauseFor ms })
        (fun b consumes => content b (.pause consumes)) failed
    exact ⟨r₁, want, fails, last, pacing, Nat.le_trans (Nat.le_add_right ..) later⟩
  | fill want next ih =>
    have kept := r.fill_pacing want
    have started := r.fill_clock_le want
    cases filled : r.fill want with
    | mk result r' =>
      rw [filled] at kept started
      cases result with
      | error e' =>
        simp only [perform, filled] at failed ⊢
        obtain rfl := Except.error.inj failed
        exact ⟨r, want, by rw [filled], by rw [filled], rfl, Nat.le_refl _⟩
      | ok bytes =>
        simp only [perform, filled] at failed ⊢
        obtain ⟨r₁, want', fails, last, pacing, later⟩ :=
          ih bytes (fun b consumes => content _ (.fill (fill_ok filled).1 consumes)) failed
        exact ⟨r₁, want', fails, last, pacing.trans kept, Nat.le_trans started later⟩

theorem fillFrom_overflow {p : Pacing} {want : Nat} {got : List Bytes} {since now held : Nat}
    {arrivals : List Arrival}
    (h : (fillFrom p want got since now held arrivals).1 = .error (.io .overflow)) :
    p.overflows (fillFrom p want got since now held arrivals).2.clock = true := by
  fun_induction fillFrom p want got since now held arrivals with
  | case5 => assumption
  | case4 | case6 | case9 | case10 =>
    rename_i ih
    exact ih h
  | case1 | case2 | case3 | case7 | case8 | case11 => cases h

/-- A fill breaks off only where its next deadline is too late for the clock. -/
theorem fill_overflow {r : Receiver} {want : Nat} (h : (r.fill want).1 = .error (.io .overflow)) :
    r.pacing.overflows (r.fill want).2.clock = true := by
  cases fits : r.pacing.overflows r.clock with
  | true => rwa [fill_of_overflow fits]
  | false =>
    rcases Nat.eq_zero_or_pos want with rfl | some_wanted
    · simp [fill, fits] at h
    · rw [fill_eq_fillFrom fits some_wanted] at h ⊢
      exact fillFrom_overflow h

theorem readPacket_overflow {r : Receiver} {settle : Nat}
    (h : (r.readPacket settle).1 = .error (.io .overflow)) :
    r.pacing.overflows (r.readPacket settle).2.clock = true := by
  have content (b : Bytes) : ¬ Consumes (Packet.reading settle) b (.error (.io .overflow)) := by
    intro consumes
    cases framed_of_consumes consumes
  obtain ⟨r₁, want, fails, last, pacing, -⟩ := perform_error content h
  have broken := fill_overflow fails
  rw [pacing, last] at broken
  exact broken

/-- A read that starts at such an instant takes nothing. -/
theorem readPacket_of_overflow {r : Receiver} (settle : Nat)
    (late : r.pacing.overflows r.clock = true) :
    r.readPacket settle = (.error (.io .overflow), r) := by
  simp only [readPacket, Packet.reading, perform, fill_of_overflow late]

end Receiver

namespace Run

theorem round_pacing (r : Run) : (r.round).2.receiver.pacing = r.receiver.pacing := by
  rw [round_receiver]
  exact Receiver.perform_pacing _ _

theorem round_overflow {r : Run} (h : (r.round).1 = .error (.link (.io .overflow))) :
    r.receiver.pacing.overflows (r.round).2.receiver.clock = true := by
  rw [round_receiver]
  exact Receiver.readPacket_overflow (r.round_brokenOff_iff.1 h)

theorem drive_overflow {r : Run} (h : (r.drive).1 = brokenOff) :
    r.receiver.pacing.overflows (r.drive).2.receiver.clock = true := by
  fun_induction Run.drive r with
  | case1 r r' next ih =>
    have kept := r.round_pacing
    rw [next] at kept
    rw [← kept]
    exact ih h
  | case2 r ending r' last => exact absurd h (ok_ne_brokenOff ending)
  | case3 r e r' last =>
    obtain rfl : e = .link (.io .overflow) := Except.error.inj h
    have late := round_overflow (congrArg Prod.fst last)
    rwa [last] at late

/-- A run breaks off only where a read's next deadline is too late for the clock. -/
theorem finish_overflow {r : Run} (h : (r.finish).1 = brokenOff) :
    r.receiver.pacing.overflows (r.finish).2.receiver.clock = true := by
  rcases r.sender.send_cases r.suite.opening.frame with ⟨s', sent, -⟩ | ⟨cause, s', -, unsent, -⟩
  · obtain ⟨journal, journal', finish_eq⟩ := finish_of_opened sent
    rw [finish_eq] at h ⊢
    rw [ended_receiver]
    exact drive_overflow h
  · obtain ⟨journal, finish_eq⟩ := finish_of_unopened unsent
    rw [finish_eq] at h
    simp [brokenOff] at h

/-- A run that starts at such an instant sends its first packet and breaks off. -/
theorem finish_of_overflow {r : Run} {sender : Sender}
    (opened : r.sender.send r.suite.opening.frame = (.ok (), sender))
    (late : r.receiver.pacing.overflows r.receiver.clock = true) :
    ∃ journal, r.finish = (brokenOff, { r with sender, journal }) := by
  obtain ⟨journal, journal', finish_eq⟩ := finish_of_opened opened
  have unread := Receiver.readPacket_of_overflow (r := r.receiver) r.settle late
  have broken : { r with sender, journal }.drive = (brokenOff, { r with sender, journal }) :=
    drive_of_error (round_of_error (r := { r with sender, journal }) unread)
  rw [broken, ended_brokenOff] at finish_eq
  exact ⟨journal', finish_eq⟩

end Run

end SerialSuite
