import SerialSuite.Sender

/-!
Reliable senders: writes may take a part of the data only, but nothing fails. Whatever the parts,
the events of such a sender are one write and one flush for each frame (`send_holds`).
-/

namespace SerialSuite

namespace SinkEvent

theorem join_ne_nil (e : SinkEvent) (later : List SinkEvent) : e.join later ≠ [] := by
  fun_cases join e later <;> simp

theorem join_append (e : SinkEvent) {later : List SinkEvent} (more : List SinkEvent)
    (h : later ≠ []) : e.join (later ++ more) = e.join later ++ more := by
  obtain ⟨f, later, rfl⟩ := List.exists_cons_of_ne_nil h
  cases e <;> cases f <;> rfl

/-- Events in order from a log, in front of later ones. -/
def joined (log later : List SinkEvent) : List SinkEvent :=
  log.foldl (fun later e => e.join later) later

theorem joined_cons (e : SinkEvent) (log later : List SinkEvent) :
    joined (e :: log) later = joined log (e.join later) := rfl

theorem joined_append (log : List SinkEvent) {later : List SinkEvent} (more : List SinkEvent)
    (h : later ≠ []) : joined log (later ++ more) = joined log later ++ more := by
  induction log generalizing later with
  | nil => rfl
  | cons e log ih => rw [joined_cons, joined_cons, join_append e more h, ih (join_ne_nil e later)]

/-- The log's last event is not a write, so that nothing written later joins it. -/
def Apart (log : List SinkEvent) : Prop := ∀ b, log.head? ≠ some (wrote b)

theorem joined_of_apart {log : List SinkEvent} (later : List SinkEvent) (h : Apart log) :
    joined log later = joined log [] ++ later := by
  match log with
  | [] => rfl
  | e :: log =>
    have alone : e.join later = [e] ++ later := by
      cases e with
      | wrote b => exact absurd rfl (h b)
      | _ => rfl
    have first : e.join [] = [e] := by cases e <;> rfl
    rw [joined_cons, joined_cons, alone, first, joined_append log later (by simp)]

end SinkEvent

namespace Sender
open SinkEvent

/-- Every write takes something, and nothing fails. -/
structure Reliable (s : Sender) : Prop where
  writes : s.perWrite ≠ some 0
  passable : s.stops = []
  flushes : s.badFlush = none
  shuts : s.badShutdown = false

/-- The events of frames that are sent one after the other. -/
def sent (frames : List Bytes) : List SinkEvent := frames.flatMap fun f => [wrote f, flushed]

theorem sent_append (a b : List Bytes) : sent (a ++ b) = sent a ++ sent b := by
  simp [sent]

theorem events_eq_joined (s : Sender) : s.events = joined s.log [] := rfl

theorem write_reliable {s : Sender} {data : Bytes} (h : s.Reliable) (hd : data ≠ []) :
    ∃ piece rest, piece ≠ [] ∧ data = piece ++ rest ∧ s.write data = (.ok rest, s.take piece) := by
  have piece_ne : (s.cut data).1 ≠ [] := by
    unfold cut room
    rw [h.passable]
    cases hp : s.perWrite with
    | none => simpa using hd
    | some n =>
      have : n ≠ 0 := fun hn => h.writes (hn ▸ hp)
      simp [this, hd]
  refine ⟨(s.cut data).1, (s.cut data).2, piece_ne, (s.cut_append data).symm, ?_⟩
  simp [write, h.passable, piece_ne]

theorem take_reliable {s : Sender} (h : s.Reliable) (piece : Bytes) : (s.take piece).Reliable :=
  ⟨h.writes, h.passable, h.flushes, h.shuts⟩

/-- However the data is cut, its pieces join to it in the events. -/
theorem writeAll_reliable {s : Sender} {data : Bytes} (h : s.Reliable) :
    ∃ s', s.writeAll data = (.ok (), s') ∧ s'.Reliable ∧
      ∀ later, data ≠ [] → joined s'.log (flushed :: later) =
        joined s.log (wrote data :: flushed :: later) := by
  -- the flush behind the data keeps its last piece apart from what is written later
  fun_induction writeAll s data with
  | case1 s data empty => exact ⟨s, rfl, h, fun _ hne => absurd (by simpa using empty) hne⟩
  | case2 s data nonempty rest s' written ih =>
    obtain ⟨piece, rest, -, rfl, once⟩ := write_reliable h (by simpa using nonempty)
    obtain ⟨⟨⟩, rfl⟩ := once.symm.trans written
    obtain ⟨s', all, hs', events⟩ := ih (take_reliable h piece)
    refine ⟨s', all, hs', fun later _ => ?_⟩
    by_cases more : rest = []
    · subst more
      rw [writeAll] at all
      obtain ⟨-, rfl⟩ := all
      rw [List.append_nil]
      rfl
    · rw [events later more]
      rfl
  | case3 s data nonempty cause s' written =>
    obtain ⟨_, _, _, _, once⟩ := write_reliable h (by simpa using nonempty)
    simp [written] at once
  | case4 s data nonempty cause s' written =>
    obtain ⟨_, _, _, _, once⟩ := write_reliable h (by simpa using nonempty)
    simp [written] at once

/-- A reliable sender that was given these frames and nothing else. -/
structure Holds (s : Sender) (frames : List Bytes) : Prop where
  reliable : s.Reliable
  apart : Apart s.log
  events_eq : s.events = sent frames

theorem holds_nil {s : Sender} (h : s.Reliable) (hl : s.log = []) : s.Holds [] where
  reliable := h
  apart := by simp [Apart, hl]
  events_eq := by simp [events, sent, hl]

/-- A reliable sender takes a frame whole and flushes it. -/
theorem send_holds {s : Sender} {frames : List Bytes} {f : Bytes} (h : s.Holds frames)
    (hf : f ≠ []) : ∃ s', s.send f = (.ok (), s') ∧ s'.Holds (frames ++ [f]) := by
  obtain ⟨s', all, hs', events⟩ := @writeAll_reliable s f h.reliable
  refine ⟨{ s' with flushes := s'.flushes + 1 }.record .flushed, ?_, ?_⟩
  · simp [send, all, flush, hs'.flushes]
  · refine ⟨⟨hs'.writes, hs'.passable, hs'.flushes, hs'.shuts⟩, by simp [Apart, record], ?_⟩
    calc
      _ = joined s'.log [flushed] := rfl
      _ = joined s.log [wrote f, flushed] := events [] hf
      _ = joined s.log [] ++ [wrote f, flushed] := joined_of_apart _ h.apart
      _ = _ := by rw [← events_eq_joined, h.events_eq, sent_append]; rfl

/-- Closing a reliable sender adds a flush and a shutdown to its events. -/
theorem close_holds {s : Sender} {frames : List Bytes} (h : s.Holds frames) :
    (s.close).1 = .ok () ∧ (s.close).2.events = sent frames ++ [flushed, shutDown] := by
  have closed : s.close =
      (.ok (), ({ s with flushes := s.flushes + 1 }.record .flushed).record .shutDown) := by
    simp [close, flush, shutdown, h.reliable.flushes, record, h.reliable.shuts]
  rw [closed]
  refine ⟨rfl, ?_⟩
  calc
    _ = joined s.log [flushed, shutDown] := rfl
    _ = joined s.log [] ++ [flushed, shutDown] := joined_of_apart _ h.apart
    _ = _ := by rw [← events_eq_joined, h.events_eq]

theorem bytes_sent (frames : List Bytes) :
    (sent frames).flatMap SinkEvent.bytes = frames.flatten := by
  induction frames with
  | nil => rfl
  | cons f frames ih => simpa [sent, SinkEvent.bytes] using ih

end Sender

end SerialSuite
