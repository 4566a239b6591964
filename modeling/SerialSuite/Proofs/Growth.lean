import SerialSuite.Proofs.Faults

/-!
What a run has sent and shown stays where it is: every round adds to the bytes that the sink took
and to the text on the console, and the clock goes on (`round_grows`); so do all rounds
(`drive_grows`).
-/

namespace SerialSuite

namespace Console

theorem take_output (c : Console) (b : Bytes) : (c.take b).output = c.output ++ b := by
  simp [take, output]

theorem write_grows (c : Console) (b : Bytes) : c.output <+: (c.write b).2.output := by
  have taken (piece : Bytes) : c.output <+: (c.take piece).output := by
    rw [take_output]
    exact List.prefix_append _ _
  unfold write
  split
  · exact taken b
  · split <;> exact taken _

theorem writeAll_grows (c : Console) (pieces : List Bytes) :
    c.output <+: (c.writeAll pieces).2.output := by
  induction pieces generalizing c with
  | nil => exact List.prefix_rfl
  | cons b rest ih =>
    have first := c.write_grows b
    unfold writeAll
    split <;> rename_i written <;> rw [written] at first
    · exact first.trans (ih _)
    · exact first

theorem printAll_grows (c : Console) (lines : List Line) :
    c.output <+: (c.printAll lines).1.output := by
  induction lines generalizing c with
  | nil => exact List.prefix_rfl
  | cons l rest ih =>
    have first := c.writeAll_grows (l.pieces c.colour)
    unfold printAll print
    split <;> rename_i written <;> rw [written] at first <;> exact first.trans (ih _)

theorem reportAll_grows (c : Console) (ns : List Notice) :
    c.output <+: (c.reportAll ns).output := by
  induction ns generalizing c with
  | nil => exact List.prefix_rfl
  | cons n rest ih => exact (c.printAll_grows n.lines).trans (ih _)

end Console

theorem Sender.sendAll_grows (s : Sender) (frames : List Bytes) :
    s.accepted <+: (s.sendAll frames).2.accepted := by
  rcases s.sendAll_cases frames with ⟨s', all, past⟩ | ⟨cause, s', cut, broken⟩
  · rw [all, past.accepted]
    exact List.prefix_append _ _
  · obtain ⟨before, f, after, part, -, -, taken, -⟩ := broken.split
    rw [cut, taken, List.append_assoc]
    exact List.prefix_append _ _

namespace Receiver

theorem le_of_release {deadline : Option Nat} {now held t : Nat}
    (released : release deadline now held = .ok t) : now ≤ t := by
  unfold release at released
  split at released
  · cases released
    omega
  · split at released
    · cases released
      omega
    · cases released

theorem le_of_given_up {deadline : Option Nat} {now held t : Nat}
    (given_up : release deadline now held = .error t) : now ≤ t := by
  unfold release at given_up
  split at given_up
  · cases given_up
  · split at given_up
    · cases given_up
    · cases given_up
      omega

theorem fillFrom_clock_le (p : Pacing) (want : Nat) (got : List Bytes) (since now held : Nat)
    (arrivals : List Arrival) : now ≤ (fillFrom p want got since now held arrivals).2.clock := by
  fun_induction fillFrom p want got since now held arrivals with
  | case1 => exact le_of_given_up (by assumption)
  | case2 | case5 | case7 | case8 | case11 => exact le_of_release (by assumption)
  | case3 => exact Nat.le_trans (le_of_release (by assumption)) (Nat.le_add_right ..)
  | case4 | case6 | case10 =>
    rename_i ih
    exact Nat.le_trans (le_of_release (by assumption)) ih
  | case9 =>
    rename_i ih
    exact Nat.le_trans (Nat.le_trans (le_of_release (by assumption)) (Nat.le_add_right ..)) ih

/-- What a fill waits for first is over when it ends. -/
theorem fillFrom_released_le {p : Pacing} {since now held t : Nat} (want : Nat) (got : List Bytes)
    (arrivals : List Arrival) (released : release (p.deadline since) now held = .ok t) :
    t ≤ (fillFrom p want got since now held arrivals).2.clock := by
  have onward := fillFrom_clock_le p
  rw [fillFrom.eq_def, released]
  dsimp only
  split
  · split
    · exact Nat.le_refl t
    · exact Nat.le_add_right ..
  · split
    · exact onward ..
    · split
      · exact Nat.le_refl t
      · split
        · exact onward ..
        · exact Nat.le_refl t
  · split
    · exact Nat.le_refl t
    · exact Nat.le_trans (Nat.le_add_right ..) (onward ..)
  · exact onward ..
  · exact Nat.le_refl t

theorem fill_clock_le (r : Receiver) (want : Nat) : r.clock ≤ (r.fill want).2.clock := by
  unfold fill
  split
  · exact Nat.le_refl _
  · split
    · exact Nat.le_refl _
    · exact fillFrom_clock_le _ _ _ _ _ _ _

/-- No reader sets the clock back. -/
theorem perform_clock_le (reading : Reading α) (r : Receiver) :
    r.clock ≤ (perform reading r).2.clock := by
  induction reading generalizing r with
  | done => exact Nat.le_refl _
  | pause ms next ih =>
    exact Nat.le_trans (Nat.le_add_right ..) (ih { r with clock := r.clock + pauseFor ms })
  | fill want next ih =>
    have later := r.fill_clock_le want
    unfold perform
    split <;> rename_i filled <;> rw [filled] at later
    · exact Nat.le_trans later (ih _ _)
    · exact later

theorem readPacket_clock_le (r : Receiver) (settle : Nat) :
    r.clock ≤ (r.readPacket settle).2.clock := perform_clock_le _ r

end Receiver

namespace Run

/-- The second run has sent and shown what the first has, and perhaps more. -/
structure Grows (r g : Run) : Prop where
  accepted : r.sender.accepted <+: g.sender.accepted
  output : r.console.output <+: g.console.output

theorem grows_refl (r : Run) : Grows r r := ⟨List.prefix_rfl, List.prefix_rfl⟩

theorem Grows.trans {r₁ r₂ r₃ : Run} (h : Grows r₁ r₂) (h' : Grows r₂ r₃) : Grows r₁ r₃ :=
  ⟨h.accepted.trans h'.accepted, h.output.trans h'.output⟩

/-- Nothing is sent or shown at the end of a run. -/
theorem Grows.ended {r g : Run} (h : Grows r g) (x y : Except RunError Ending)
    (journal journal' : Array Diagnostic) : Grows (r.ended x journal) (g.ended y journal') where
  accepted := by
    rw [ended_accepted, ended_accepted]
    exact h.accepted
  output := by
    rw [ended_console, ended_console]
    exact h.output

theorem round_grows (r : Run) : Grows r (r.round).2 := by
  rcases r.round_cases with ⟨e, receiver, -, round⟩ | ⟨p, receiver, step, journal, -, -, round⟩
  · rw [round]
    exact ⟨List.prefix_rfl, List.prefix_rfl⟩
  · rw [round]
    exact ⟨Sender.sendAll_grows _ _, Console.reportAll_grows _ _⟩

theorem round_receiver (r : Run) :
    (r.round).2.receiver = (r.receiver.readPacket r.settle).2 := by
  rcases r.round_cases with
    ⟨e, receiver, read, round⟩ | ⟨p, receiver, step, journal, read, -, round⟩
  · rw [read, round]
  · rw [read, round]

theorem round_clock_le (r : Run) : r.receiver.clock ≤ (r.round).2.receiver.clock := by
  rw [round_receiver]
  exact r.receiver.readPacket_clock_le r.settle

theorem drive_clock_le (r : Run) : (r.round).2.receiver.clock ≤ (r.drive).2.receiver.clock :=
  drive_keeps (I := fun r' => (r.round).2.receiver.clock ≤ r'.receiver.clock)
    (fun r' h => Nat.le_trans h r'.round_clock_le) (Nat.le_refl _)

theorem drive_grows (r : Run) : Grows r (r.drive).2 :=
  drive_keeps (fun r' h => h.trans r'.round_grows) r.round_grows

end Run

end SerialSuite
