import SerialSuite.Proofs.Course
import Mathlib.Data.List.Induction

/-!
How a run on a list of packets ends: with the first packet that is malformed, that is a failure
which counts in a run that stops on errors, or that is a request behind a final result; and with the
link's error if there is none (`finish_decided`).
-/

namespace SerialSuite

open History

section splits
variable {α : Type} {P : List α → α → Prop} {xs : List α} {y : α}

/-- Some element of a longer list, with those before it, is one of the list, or it is the last. -/
theorem exists_split_concat : (∃ before x rest, xs ++ [y] = before ++ x :: rest ∧ P before x) ↔
    (∃ before x rest, xs = before ++ x :: rest ∧ P before x) ∨ P xs y := by
  constructor
  · rintro ⟨before, x, rest, split, holds⟩
    rcases List.eq_nil_or_concat rest with rfl | ⟨rest, z, rfl⟩
    · obtain ⟨rfl, ⟨⟩⟩ := List.append_inj' split rfl
      exact .inr holds
    · rw [List.concat_eq_append, ← List.cons_append, ← List.append_assoc] at split
      exact .inl ⟨before, x, rest, (List.append_inj' split rfl).1, holds⟩
  · rintro (⟨before, x, rest, rfl, holds⟩ | holds)
    · exact ⟨before, x, rest ++ [y], by simp, holds⟩
    · exact ⟨xs, y, [], rfl, holds⟩

theorem forall_split_concat : (∀ before x rest, xs ++ [y] = before ++ x :: rest → P before x) ↔
    (∀ before x rest, xs = before ++ x :: rest → P before x) ∧ P xs y := by
  have none := not_congr (@exists_split_concat α (fun before x => ¬ P before x) xs y)
  simpa using none

end splits

/-- What is heard in a list of packets, the latest first. -/
def heardIn (ps : List Packet) : History := (ps.map fun p => Heard.ofPayload p.payload).reverse

theorem heardIn_concat (ps : List Packet) (p : Packet) :
    heardIn (ps ++ [p]) = .ofPayload p.payload :: heardIn ps := by
  simp [heardIn]

/-- What is heard decides the run. -/
inductive Decides (m : Mode) (before : History) : Heard → Prop
  | malformed (e : MessageError) : Decides m before (.malformed e)
  | failure (isFinal : Bool) (state : Bytes) : m.stopOnError = true → before.skips m = false →
      Decides m before (.result true isFinal state)
  | request : before.any Heard.isFinal = true → Decides m before .request

/-- None of the packets decides the run. -/
def Undecided (m : Mode) (ps : List Packet) : Prop :=
  ∀ before p rest, ps = before ++ p :: rest →
    ¬ Decides m (heardIn before) (.ofPayload p.payload)

theorem not_decides_iff {m : Mode} {before : History} {x : Heard} :
    ¬ Decides m before x ↔ before.decision m x = .ok none := by
  constructor
  · intro undecided
    cases x with
    | malformed e => exact absurd (.malformed e) undecided
    | request =>
      have running : before.any Heard.isFinal ≠ true := fun final =>
        undecided (.request final)
      simp [decision, running]
    | result failed isFinal state =>
      cases failed with
      | false => rfl
      | true =>
        have goes_on : ¬ (m.stopOnError = true ∧ before.skips m = false) :=
          fun stops => undecided (.failure isFinal state stops.1 stops.2)
        simpa [decision] using goes_on
    | _ => rfl
  · rintro next (e | ⟨isFinal, state, stop, counts⟩ | final)
    · cases next
    · simp [decision, stop, counts] at next
    · simp [decision, final] at next

theorem undecided_nil (m : Mode) : Undecided m [] := by
  simp [Undecided]

theorem undecided_concat {m : Mode} {ps : List Packet} {p : Packet} : Undecided m (ps ++ [p]) ↔
    Undecided m ps ∧ ¬ Decides m (heardIn ps) (.ofPayload p.payload) := by
  exact forall_split_concat

theorem verdict_of_undecided {m : Mode} {ps : List Packet} (h : Undecided m ps)
    (rest : List Packet) : verdict m [] (ps ++ rest) = verdict m (heardIn ps) rest := by
  -- from the right end, where the history of a packet is all that stands before it
  induction ps using List.reverseRecOn generalizing rest with
  | nil => rfl
  | append_singleton ps p ih =>
    obtain ⟨earlier, last⟩ := undecided_concat.1 h
    rw [List.append_assoc, ih earlier, List.singleton_append,
      verdict_of_next (not_decides_iff.1 last), heardIn_concat]

/-- A run is decided by its first packet that is malformed, a failure that counts while errors stop
the run, or a request behind a final result. It reads nothing behind that packet, and without one it
ends with the link's error. In a run that stops on errors no failure is counted when it completes,
and one when it aborts. -/
theorem finish_decided {r : Run} {ps : List Packet} (h : r.Ready)
    (fits : ∀ p ∈ ps, p.payload.length ≤ Packet.maxPayload)
    (hp : r.receiver.pending = ps.flatMap Packet.frame) :
    (∀ before p rest, ps = before ++ p :: rest → Undecided r.suite.mode before →
      (∀ e, Heard.ofPayload p.payload = .malformed e →
        (r.finish).1 = .error (.message e) ∧ exitCode (r.finish).1 = 2 ∧
        (r.finish).2.receiver.pending = rest.flatMap Packet.frame) ∧
      (∀ isFinal state, Heard.ofPayload p.payload = .result true isFinal state →
        r.suite.mode.stopOnError = true → (heardIn before).skips r.suite.mode = false →
        (r.finish).1 = .ok .aborted ∧ exitCode (r.finish).1 = 1 ∧
        (r.finish).2.receiver.pending = rest.flatMap Packet.frame) ∧
      (Heard.ofPayload p.payload = .request → (heardIn before).any Heard.isFinal = true →
        (r.finish).1 = .ok .completed ∧ exitCode (r.finish).1 = 0 ∧
        (r.finish).2.receiver.pending = rest.flatMap Packet.frame)) ∧
    (Undecided r.suite.mode ps →
      (r.finish).1 = .error (.link (.io Receiver.exhausted)) ∧ exitCode (r.finish).1 = 3) ∧
    (r.suite.mode.stopOnError = true →
      ((r.finish).1 = .ok .completed → (r.finish).2.suite.progress.tally.failed = 0) ∧
      ((r.finish).1 = .ok .aborted → (r.finish).2.suite.progress.tally.failed = 1)) := by
  have came := Run.finish_course h fits hp
  refine ⟨?_, ?_, fun stop => ⟨fun hx => came.completed hx stop, fun hx => came.aborted hx stop⟩⟩
  · rintro before p rest rfl undecided
    have result := came.result
    have left := came.left
    rw [verdict_of_undecided undecided] at result left
    refine ⟨fun e heard => ?_, fun isFinal state heard stop counts => ?_, fun heard final => ?_⟩
    · have decided : (heardIn before).decision r.suite.mode (.ofPayload p.payload) =
          .error (.message e) := by rw [heard]; rfl
      rw [verdict_of_error decided] at result left
      exact ⟨result, by rw [result]; rfl, left⟩
    · have decided : (heardIn before).decision r.suite.mode (.ofPayload p.payload) =
          .ok (some .aborted) := by simp [heard, decision, stop, counts]
      rw [verdict_of_ending decided] at result left
      exact ⟨result, by rw [result]; rfl, left⟩
    · have decided : (heardIn before).decision r.suite.mode (.ofPayload p.payload) =
          .ok (some .completed) := by simp [heard, decision, final]
      rw [verdict_of_ending decided] at result left
      exact ⟨result, by rw [result]; rfl, left⟩
  · intro undecided
    have result := came.result
    rw [← List.append_nil ps, verdict_of_undecided undecided] at result
    exact ⟨result, by rw [result]; rfl⟩

/-- A run that stops on errors. -/
def stopping (receiver : Receiver) : Run where
  receiver := receiver
  suite := { mode := { stopOnError := true } }

theorem stopping_ready {receiver : Receiver} (h : receiver.Steady) : (stopping receiver).Ready :=
  ⟨h, ⟨by simp [stopping], rfl, rfl, rfl⟩, rfl, rfl⟩

/-- A failure that is skipped, and one that is not. -/
def failures : List Packet :=
  [⟨2, [0x33, 1, 0, 0, 0, 0, 0, 0] ++ List.replicate 96 0⟩, ⟨2, [0x35, 0, 0, 0, 0, 0, 0, 0]⟩,
    ⟨2, [0x33, 0, 0, 0, 0, 0, 0, 0] ++ List.replicate 96 0⟩, ⟨2, [0x45, 0, 0, 0, 0, 0, 0, 0]⟩]

theorem finish_decided_failures :
    let r := stopping { arrivals := [.data (failures.flatMap Packet.frame), .wait 5, .empty,
      .data (Packet.frame ⟨2, [0x11]⟩)] }
    r.Ready ∧ (r.finish).1 = .ok .aborted ∧ exitCode (r.finish).1 = 1 ∧
      (r.finish).2.receiver.pending = Packet.frame ⟨2, [0x11]⟩ ∧
      (r.finish).2.suite.progress.tally.failed = 1 := by
  intro r
  have ready : r.Ready := stopping_ready ⟨rfl, by simp⟩
  obtain ⟨decided, -, counted⟩ := @finish_decided r (failures ++ [⟨2, [0x11]⟩]) ready
    (by decide +kernel) (by decide +kernel)
  have first : Undecided r.suite.mode (failures.take 1) :=
    (@undecided_concat _ [] _).2 ⟨undecided_nil _, not_decides_iff.2 rfl⟩
  have second : Undecided r.suite.mode (failures.take 2) :=
    (@undecided_concat _ (failures.take 1) _).2 ⟨first, not_decides_iff.2 rfl⟩
  have third : Undecided r.suite.mode (failures.take 3) :=
    (@undecided_concat _ (failures.take 2) _).2 ⟨second, not_decides_iff.2 rfl⟩
  obtain ⟨-, aborts, -⟩ := decided (failures.take 3) _ [⟨2, [0x11]⟩] rfl third
  obtain ⟨result, code, left⟩ := aborts true [] (by decide +kernel) rfl (by decide +kernel)
  exact ⟨ready, result, code, left, (counted rfl).2 result⟩

end SerialSuite
