import SerialSuite.Proofs.Endings
import SerialSuite.Proofs.Overflow

/-!
How a run lets go of its sender. Whatever ends the rounds, sending has logged no shutdown
(`sendAll_onward`, `converse_onward`), and one close follows, unless the run breaks off. Up to there
a run does not depend on what becomes of the closing flush and of the shutdown (`converse_mirrors`).
-/

namespace SerialSuite

namespace SinkEvent

/-- An attempt at a shutdown, whether it works or not. -/
def isShutdown : SinkEvent → Bool
  | shutDown | shutDownFailed => true
  | _ => false

theorem join_unshut {e : SinkEvent} {later : List SinkEvent} (h : e.isShutdown = false)
    (unshut : ∀ f ∈ later, f.isShutdown = false) : ∀ f ∈ e.join later, f.isShutdown = false := by
  fun_cases join e later with
  | case1 a b later =>
    rw [List.forall_mem_cons] at unshut ⊢
    exact ⟨rfl, unshut.2⟩
  | case2 => exact List.forall_mem_cons.2 ⟨h, unshut⟩

theorem joined_unshut {log later : List SinkEvent} (h : ∀ e ∈ log, e.isShutdown = false)
    (unshut : ∀ e ∈ later, e.isShutdown = false) :
    ∀ e ∈ joined log later, e.isShutdown = false := by
  induction log generalizing later with
  | nil => exact unshut
  | cons e log ih =>
    rw [List.forall_mem_cons] at h
    apply ih h.2
    exact join_unshut h.1 unshut

/-- What is no write joins nothing that came before it. -/
theorem joined_of_event (log : List SinkEvent) {e : SinkEvent} (later : List SinkEvent)
    (h : ∀ b, e ≠ wrote b) : joined log (e :: later) = joined log [] ++ e :: later := by
  match log with
  | [] => rfl
  | f :: log =>
    have apart : f.join (e :: later) = [f] ++ e :: later := by
      cases e with
      | wrote b => exact absurd rfl (h b)
      | _ => cases f <;> rfl
    have alone : f.join [] = [f] := by cases f <;> rfl
    rw [joined_cons, joined_cons, apart, alone, joined_append log (e :: later) (by simp)]

end SinkEvent

namespace Sender
open SinkEvent

/-- The second sender is the first at a later time, and not shut down meanwhile. -/
structure Onward (s s' : Sender) : Prop where
  badFlush : s'.badFlush = s.badFlush
  badShutdown : s'.badShutdown = s.badShutdown
  flushes : s.flushes ≤ s'.flushes
  log : ∃ since, s'.log = since ++ s.log ∧ ∀ e ∈ since, e.isShutdown = false

section onward
variable {s s' s'' : Sender}

theorem onward_refl (s : Sender) : s.Onward s :=
  ⟨rfl, rfl, Nat.le_refl _, [], rfl, by simp⟩

theorem Onward.trans (h : s.Onward s') (h' : s'.Onward s'') : s.Onward s'' := by
  obtain ⟨since, log, unshut⟩ := h.log
  obtain ⟨since', log', unshut'⟩ := h'.log
  refine ⟨h'.badFlush.trans h.badFlush, h'.badShutdown.trans h.badShutdown,
    Nat.le_trans h.flushes h'.flushes, since' ++ since, ?_, ?_⟩
  · rw [log', log, List.append_assoc]
  · exact List.forall_mem_append.2 ⟨unshut', unshut⟩

theorem record_onward (s : Sender) {e : SinkEvent} (h : e.isShutdown = false) :
    s.Onward (s.record e) :=
  ⟨rfl, rfl, Nat.le_refl _, [e], rfl, by simpa using h⟩

end onward

/-- A write changes no more than its own faults, the bytes taken and the log. -/
theorem write_onward (s : Sender) (data : Bytes) :
    s.Onward (s.write data).2 ∧ (s.write data).2.flushes = s.flushes := by
  unfold write
  split
  · rename_i stop _
    unfold halt
    cases stop.cause <;> cases stop.once <;>
      exact ⟨⟨rfl, rfl, Nat.le_refl _, [_], rfl, by simp [isShutdown]⟩, rfl⟩
  · dsimp only
    split
    · exact ⟨s.record_onward rfl, rfl⟩
    · exact ⟨⟨rfl, rfl, Nat.le_refl _, [_], rfl, by simp [isShutdown]⟩, rfl⟩

theorem writeAll_onward (s : Sender) (data : Bytes) :
    s.Onward (s.writeAll data).2 ∧ (s.writeAll data).2.flushes = s.flushes := by
  fun_induction writeAll s data with
  | case1 s data empty => exact ⟨s.onward_refl, rfl⟩
  | case2 s data nonempty rest s' written ih | case3 s data nonempty cause s' written again ih =>
    have first := s.write_onward data
    rw [written] at first
    exact ⟨first.1.trans ih.1, ih.2.trans first.2⟩
  | case4 s data nonempty cause s' written ended =>
    have first := s.write_onward data
    rw [written] at first
    exact first

theorem flush_onward (s : Sender) :
    s.Onward (s.flush).2 ∧ (s.flush).2.flushes = s.flushes + 1 := by
  unfold flush
  dsimp only
  split <;> exact ⟨⟨rfl, rfl, Nat.le_succ _, [_], rfl, by simp [isShutdown]⟩, rfl⟩

theorem send_onward (s : Sender) (f : Bytes) : s.Onward (s.send f).2 := by
  have all := s.writeAll_onward f
  unfold send
  split <;> rename_i s' written <;> rw [written] at all
  · exact all.1
  · have flushed := s'.flush_onward
    split <;> rename_i h <;> rw [h] at flushed <;> exact all.1.trans flushed.1

theorem sendAll_onward (s : Sender) (frames : List Bytes) : s.Onward (s.sendAll frames).2 := by
  induction frames generalizing s with
  | nil => exact s.onward_refl
  | cons f rest ih =>
    have first := s.send_onward f
    cases sent : s.send f with
    | mk result s' =>
      rw [sent] at first
      cases result with
      | ok =>
        rw [sendAll_of_sent sent]
        exact first.trans (ih s')
      | error e =>
        rw [sendAll_of_unsent sent]
        exact first

/-- The sender with another flush that fails, and with a shutdown that fails or not. -/
def failing (s : Sender) (badFlush : Option Nat) (badShutdown : Bool) : Sender :=
  { s with badFlush, badShutdown }

/-- Of the first `n` flushes the same one fails, or none. -/
def SameFlushes (b b' : Option Nat) (n : Nat) : Prop :=
  ∀ k < n, b = some (k + 1) ↔ b' = some (k + 1)

section failing
variable {s s' : Sender} {data rest : Bytes} {b : Option Nat} {n : Nat}

theorem write_failing (s : Sender) (data : Bytes) (b : Option Nat) (d : Bool) :
    (s.failing b d).write data = ((s.write data).1, (s.write data).2.failing b d) := by
  have cut_eq : (s.failing b d).cut data = s.cut data := rfl
  have stops_eq : (s.failing b d).stops = s.stops := rfl
  have taken_eq : (s.failing b d).taken = s.taken := rfl
  simp only [write, cut_eq, stops_eq, taken_eq]
  split
  · rename_i stop _
    simp only [halt, failing]
    cases stop.cause <;> cases stop.once <;> rfl
  · split <;> rfl

theorem writeAll_of_took (nonempty : ¬ data.isEmpty = true) (h : s.write data = (.ok rest, s')) :
    s.writeAll data = s'.writeAll rest := by
  rw [writeAll, if_neg nonempty]
  split <;> simp_all

theorem writeAll_of_error {cause : IoError} (nonempty : ¬ data.isEmpty = true)
    (h : s.write data = (.error cause, s')) : s.writeAll data =
      if cause = .interrupted ∧ s'.stops.length < s.stops.length then s'.writeAll data
      else (.error cause, s') := by
  rw [writeAll, if_neg nonempty]
  split <;> simp_all

theorem writeAll_failing (s : Sender) (data : Bytes) (b : Option Nat) (d : Bool) :
    (s.failing b d).writeAll data = ((s.writeAll data).1, (s.writeAll data).2.failing b d) := by
  fun_induction writeAll s data with
  | case1 s data empty => rw [writeAll, if_pos empty]
  | case2 s data nonempty rest s' written ih =>
    have first := s.write_failing data b d
    rw [written] at first
    rw [writeAll_of_took nonempty first, ih]
  | case3 s data nonempty cause s' written again ih =>
    have first := s.write_failing data b d
    rw [written] at first
    rw [writeAll_of_error nonempty first, ← ih]
    exact if_pos again
  | case4 s data nonempty cause s' written ended =>
    have first := s.write_failing data b d
    rw [written] at first
    rw [writeAll_of_error nonempty first]
    exact if_neg ended

theorem flush_of_bad (bad : s.badFlush = some (s.flushes + 1)) :
    s.flush = (.error s.cause, { s with flushes := s.flushes + 1 }.record .flushFailed) :=
  if_pos bad

theorem flush_of_good (good : s.badFlush ≠ some (s.flushes + 1)) :
    s.flush = (.ok (), { s with flushes := s.flushes + 1 }.record .flushed) :=
  if_neg good

theorem flush_failing (d : Bool)
    (same : s.badFlush = some (s.flushes + 1) ↔ b = some (s.flushes + 1)) :
    (s.failing b d).flush = ((s.flush).1, (s.flush).2.failing b d) := by
  by_cases bad : s.badFlush = some (s.flushes + 1)
  · rw [flush_of_bad bad]
    exact flush_of_bad (same.1 bad)
  · rw [flush_of_good bad]
    exact flush_of_good (mt same.2 bad)

theorem send_failing {f : Bytes} (d : Bool) (same : SameFlushes s.badFlush b n)
    (upto : (s.send f).2.flushes ≤ n) :
    (s.failing b d).send f = ((s.send f).1, (s.send f).2.failing b d) := by
  have all := s.writeAll_failing f b d
  have onward := (s.writeAll_onward f).1
  cases written : s.writeAll f with
  | mk result s' =>
    rw [written] at all onward
    cases result with
    | error cause => simp only [send, written, all]
    | ok =>
      have counted := (s'.flush_onward).2
      simp only [send, written] at upto
      have flush_eq : (s'.failing b d).flush = ((s'.flush).1, (s'.flush).2.failing b d) := by
        apply flush_failing
        rw [onward.badFlush]
        apply same
        cases flushed : s'.flush with
        | mk result s'' => cases result <;> simp only [flushed] at upto counted <;> omega
      simp only [send, written, all, flush_eq]
      cases s'.flush with
      | mk result s'' => cases result <;> rfl

theorem sendAll_failing {frames : List Bytes} (d : Bool) (same : SameFlushes s.badFlush b n)
    (upto : (s.sendAll frames).2.flushes ≤ n) :
    (s.failing b d).sendAll frames =
      ((s.sendAll frames).1, (s.sendAll frames).2.failing b d) := by
  induction frames generalizing s with
  | nil => rfl
  | cons f rest ih =>
    cases sent : s.send f with
    | mk result s' =>
      have first := s.send_onward f
      rw [sent] at first
      cases result with
      | error e =>
        rw [sendAll_of_unsent sent] at upto ⊢
        have unsent := send_failing (f := f) d same (by rw [sent]; exact upto)
        rw [sent] at unsent
        rw [sendAll_of_unsent unsent]
      | ok =>
        rw [sendAll_of_sent sent] at upto ⊢
        have later := (s'.sendAll_onward rest).flushes
        have sent' := send_failing (f := f) d same (by rw [sent]; exact Nat.le_trans later upto)
        rw [sent] at sent'
        rw [sendAll_of_sent sent']
        apply ih
        · rw [first.badFlush]
          exact same
        · exact upto

end failing

/-- What a close behind `n` flushes adds to the log: a flush, and a shutdown if the flush works. -/
def closing (s : Sender) (n : Nat) : List SinkEvent :=
  if s.badFlush = some (n + 1) then [flushFailed]
  else [flushed, if s.badShutdown then shutDownFailed else shutDown]

theorem Onward.closing {s s' : Sender} (h : s.Onward s') (n : Nat) :
    s'.closing n = s.closing n := by
  rw [Sender.closing, Sender.closing, h.badFlush, h.badShutdown]

theorem close_events (s : Sender) : (s.close).2.events = s.events ++ s.closing s.flushes := by
  by_cases bad : s.badFlush = some (s.flushes + 1)
  · rw [close, closing, if_pos bad, flush_of_bad bad]
    exact joined_of_event s.log [] (by simp)
  · rw [close, closing, if_neg bad, flush_of_good bad]
    cases shut : s.badShutdown with
    | false => exact joined_of_event s.log [shutDown] (by simp)
    | true => exact joined_of_event s.log [shutDownFailed] (by simp)

end Sender

open Sender (SameFlushes)

namespace Run

theorem round_onward (r : Run) : r.sender.Onward (r.round).2.sender := by
  rcases r.round_cases with ⟨e, receiver, -, round⟩ | ⟨p, receiver, step, journal, -, -, round⟩
  · rw [round]
    exact r.sender.onward_refl
  · rw [round]
    exact r.sender.sendAll_onward _

/-- Behind its first round a sender is not shut down by the others. -/
theorem drive_onward (r : Run) : (r.round).2.sender.Onward (r.drive).2.sender :=
  drive_keeps (I := fun r' => (r.round).2.sender.Onward r'.sender)
    (fun r' h => h.trans r'.round_onward) (r.round).2.sender.onward_refl

theorem converse_onward (r : Run) : r.sender.Onward (r.converse).2.sender := by
  have first := r.sender.send_onward r.suite.opening.frame
  obtain ⟨journal, opened⟩ := transmit_eq r.suite.opening_fits
  cases sent : r.sender.send r.suite.opening.frame with
  | mk result sender =>
    rw [sent] at first opened
    cases result with
    | error e =>
      rw [converse_of_unsent opened]
      exact first
    | ok =>
      rw [converse_of_sent opened]
      have rounds := round_onward { r with sender, journal }
      exact first.trans (rounds.trans (drive_onward _))

/-- The run with another flush of its sender that fails, and with a shutdown that fails or not. -/
def failing (r : Run) (badFlush : Option Nat) (badShutdown : Bool) : Run :=
  { r with sender := r.sender.failing badFlush badShutdown }

section failing
variable {b : Option Nat} {d : Bool} {n : Nat} {r g : Run}

/-- The second run is the first one with other faults behind the first `n` flushes. -/
structure Mirrors (b : Option Nat) (d : Bool) (n : Nat) (r g : Run) : Prop where
  same : SameFlushes r.sender.badFlush b n
  mirrored : ∃ journal, g = { r with sender := r.sender.failing b d, journal }

theorem round_mirrors (h : Mirrors b d n r g) (upto : (r.round).2.sender.flushes ≤ n) :
    (r.round).1 = (g.round).1 ∧ Mirrors b d n (r.round).2 (g.round).2 := by
  have same : SameFlushes (r.round).2.sender.badFlush b n := by
    rw [r.round_onward.badFlush]
    exact h.same
  obtain ⟨journal, rfl⟩ := h.mirrored
  rcases r.round_cases with
    ⟨e, receiver, read, round⟩ | ⟨p, receiver, step, journal₁, read, dispatched, round⟩
  · have round' := @round_of_error { r with sender := r.sender.failing b d, journal } _ _ read
    rw [round] at same ⊢
    rw [round']
    exact ⟨rfl, same, journal, rfl⟩
  · obtain ⟨journal₂, round'⟩ :=
      @round_eq { r with sender := r.sender.failing b d, journal } p receiver step read dispatched
    rw [round] at same upto
    have sent := Sender.sendAll_failing d h.same upto
    rw [sent] at round'
    rw [round, round']
    exact ⟨rfl, same, journal₂, rfl⟩

theorem drive_mirrors (h : Mirrors b d n r g) (upto : (r.drive).2.sender.flushes ≤ n) :
    (r.drive).1 = (g.drive).1 ∧ Mirrors b d n (r.drive).2 (g.drive).2 := by
  have step : ∀ r g, Mirrors b d n r g →
      ((r.round).1 = (g.round).1 ∧ Mirrors b d n (r.round).2 (g.round).2) ∨
        n < (r.round).2.sender.flushes := by
    intro r g h
    rcases Nat.lt_or_ge n (r.round).2.sender.flushes with beyond | within
    · exact .inr beyond
    · exact .inl (round_mirrors h within)
  rcases drive_together (C := fun r _ => n < (r.round).2.sender.flushes) step h with
    mirrored | ⟨r', g', -, beyond, driven, -⟩
  · exact mirrored
  · -- no round makes more flushes than all of them together
    have fewer := (drive_onward r').flushes
    rw [driven] at fewer
    omega

theorem converse_mirrors (same : SameFlushes r.sender.badFlush b n)
    (upto : (r.converse).2.sender.flushes ≤ n) :
    (r.converse).1 = ((r.failing b d).converse).1 ∧
      Mirrors b d n (r.converse).2 ((r.failing b d).converse).2 := by
  have first := r.sender.send_onward r.suite.opening.frame
  obtain ⟨journal, opened⟩ := @transmit_eq r _ r.suite.opening_fits
  obtain ⟨journal', opened'⟩ :=
    @transmit_eq { r with sender := r.sender.failing b d } _ r.suite.opening_fits
  cases sent : r.sender.send r.suite.opening.frame with
  | mk result sender =>
    rw [sent] at first opened
    cases result with
    | error e =>
      rw [converse_of_unsent opened] at upto ⊢
      have unsent := Sender.send_failing d same (by rw [sent]; exact upto)
      rw [unsent, sent] at opened'
      rw [failing, converse_of_unsent opened']
      exact ⟨rfl, by rw [first.badFlush]; exact same, journal', rfl⟩
    | ok =>
      rw [converse_of_sent opened] at upto ⊢
      have onward := (round_onward { r with sender, journal }).trans (drive_onward _)
      have sent' := Sender.send_failing d same
        (by rw [sent]; exact Nat.le_trans onward.flushes upto)
      rw [sent', sent] at opened'
      rw [failing, converse_of_sent opened']
      have opening : Mirrors b d n { r with sender, journal }
          { r with sender := sender.failing b d, journal := journal' } :=
        ⟨by rw [first.badFlush]; exact same, journal', rfl⟩
      exact drive_mirrors opening upto

end failing

theorem finish_eq (r : Run) : ∃ journal,
    r.finish = ((r.converse).1, (r.converse).2.ended (r.converse).1 journal) :=
  finish_of_converse rfl

theorem finish_result (r : Run) : (r.finish).1 = (r.converse).1 := by
  obtain ⟨journal, finished⟩ := r.finish_eq
  rw [finished]

theorem finish_accepted (r : Run) :
    (r.finish).2.sender.accepted = (r.converse).2.sender.accepted := by
  obtain ⟨journal, finished⟩ := r.finish_eq
  rw [finished, ended_accepted]

/-- What the end of a run adds to the log behind `n` flushes: nothing if the run breaks off. -/
def farewell (r : Run) (n : Nat) : List SinkEvent :=
  if (r.finish).1 = brokenOff then [] else r.sender.closing n

theorem finish_events (r : Run) : (r.finish).2.sender.events =
    (r.converse).2.sender.events ++ r.farewell (r.converse).2.sender.flushes := by
  obtain ⟨journal, finished⟩ := r.finish_eq
  rw [farewell, r.finish_result, finished, ended_sender]
  split
  · rw [List.append_nil]
  · rw [← r.converse_onward.closing]
    exact Sender.close_events _

/-- Up to its close a run does not shut its sink down. -/
theorem converse_unshut {r : Run} (fresh : r.sender.log = []) :
    ∀ e ∈ (r.converse).2.sender.events, e.isShutdown = false := by
  obtain ⟨since, log, unshut⟩ := r.converse_onward.log
  rw [fresh, List.append_nil] at log
  rw [Sender.events_eq_joined, log]
  exact SinkEvent.joined_unshut unshut (by simp)

/-- Whatever ends a run, its sink's log is that of the rounds, with no shutdown in it, and one
close behind it, in which nothing is written; only a run that breaks off is not closed, and it does
so only under a watchdog whose next deadline is too late for the clock. What becomes of the flush
and the shutdown of the close is to be seen in the close only. -/
theorem finish_released (r : Run) (fresh : r.sender.log = []) :
    let left := (r.converse).2.sender
    (∀ e ∈ left.events, e.isShutdown = false) ∧
      (r.finish).1 = (r.converse).1 ∧
      ((r.finish).1 ≠ brokenOff →
        (r.finish).2.sender.events = left.events ++ r.sender.closing left.flushes) ∧
      ((r.finish).1 = brokenOff → (r.finish).2.sender.events = left.events ∧
        ∃ limit, r.receiver.pacing.limit = some limit ∧
          lastInstant < (r.finish).2.receiver.clock + limit) ∧
      (r.finish).2.sender.accepted = left.accepted ∧
      ∀ badFlush badShutdown, SameFlushes r.sender.badFlush badFlush left.flushes →
        let g := r.failing badFlush badShutdown
        (g.finish).1 = (r.finish).1 ∧
          (g.finish).2.console = (r.finish).2.console ∧
          (g.finish).2.receiver.clock = (r.finish).2.receiver.clock ∧
          (g.finish).2.sender.accepted = (r.finish).2.sender.accepted ∧
          (g.finish).2.sender.events = left.events ++
            if (r.finish).1 = brokenOff then [] else g.sender.closing left.flushes := by
  intro left
  refine ⟨converse_unshut fresh, r.finish_result, ?_, ?_, r.finish_accepted, ?_⟩
  · intro whole
    rw [finish_events, farewell, if_neg whole]
  · intro broken
    refine ⟨?_, r.receiver.pacing.exists_of_overflows (finish_overflow broken)⟩
    rw [finish_events, farewell, if_pos broken, List.append_nil]
  · intro b d same g
    obtain ⟨result, -, journal, mirrored⟩ := converse_mirrors (d := d) same (Nat.le_refl _)
    have sender_eq : (g.converse).2.sender = left.failing b d := by rw [mirrored]
    have same_end : (g.finish).1 = (r.finish).1 := by
      rw [finish_result, finish_result, result]
    obtain ⟨journal₁, finished⟩ := r.finish_eq
    obtain ⟨journal₂, finished'⟩ := g.finish_eq
    refine ⟨same_end, ?_, ?_, ?_, ?_⟩
    · rw [finished, finished', mirrored, ended_console, ended_console]
    · rw [finished, finished', mirrored, ended_receiver, ended_receiver]
    · rw [finish_accepted, finish_accepted, sender_eq]
      rfl
    · rw [finish_events, farewell, same_end, sender_eq]
      rfl

/-- A run that aborts behind nine flushes, on a sink that fails the tenth: it aborts all the same,
and its close stops at the flush. -/
theorem finish_released_stopping :
    let r := stopping { arrivals := [.data (failures.flatMap Packet.frame)] }
    let left := (r.converse).2.sender
    let g := r.failing (some 10) true
    r.sender.log = [] ∧ SameFlushes r.sender.badFlush (some 10) left.flushes ∧
      (g.finish).1 = .ok .aborted ∧
      (r.finish).2.sender.events = left.events ++ [.flushed, .shutDown] ∧
      (g.finish).2.sender.events = left.events ++ [.flushFailed] := by
  intro r left g
  have fresh : r.sender.log = [] := rfl
  have aborted : (r.finish).1 = .ok .aborted := by decide +kernel
  have whole : (r.finish).1 ≠ brokenOff := aborted ▸ ok_ne_brokenOff .aborted
  have flushes : left.flushes = 9 := by decide +kernel
  have same : SameFlushes r.sender.badFlush (some 10) left.flushes := by
    intro k hk
    rw [flushes] at hk
    constructor <;> intro fails
    · cases fails
    · have := Option.some.inj fails
      omega
  obtain ⟨-, -, events, -, -, failing⟩ := finish_released r fresh
  obtain ⟨result, -, -, -, events'⟩ := failing (some 10) true same
  refine ⟨fresh, same, result.trans aborted, ?_, ?_⟩
  · rw [events whole, flushes]
    rfl
  · rw [events', if_neg whole, flushes]
    rfl

/-- Under the longest watchdog a run breaks off behind its first packet, and its sink's log ends
with the flush of that packet: there is no close. -/
theorem finish_unreleased :
    let r : Run := { receiver := { arrivals := [.data (failures.flatMap Packet.frame)]
                                   pacing := { limit := some longestWatch } } }
    let left := (r.converse).2.sender
    (r.finish).2.sender.events = [.wrote r.suite.opening.frame, .flushed] ∧
      (r.finish).2.sender.events ≠ left.events ++ r.sender.closing left.flushes := by
  decide +kernel

end Run

end SerialSuite
