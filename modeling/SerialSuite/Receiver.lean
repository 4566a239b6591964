import SerialSuite.Reading

/-!
The receiving end of the link: what the target's side delivers and when, and how reads are paced.

An empty read means that nothing has arrived yet, not that the stream has ended: the receiver polls
again. The watchdog gives up once no byte was taken for its limit. A fill sets its deadline when it
starts and whenever it takes data, the last data too, and breaks off where the clock cannot name the
deadline. `fill_ok` says that a fill that succeeds takes exactly the bytes asked for off the front
of what is still to come.
-/

namespace SerialSuite

/-- What a read of the link meets next. -/
inductive Arrival where
  | data (bytes : Bytes)
  /-- One read that returns no bytes at once. -/
  | empty
  /-- A silence, counted from the first read that meets it. -/
  | wait (ms : Nat)
  /-- One read that fails. -/
  | fail (cause : IoError)
  deriving DecidableEq, Repr

def Arrival.bytes : Arrival → Bytes
  | .data bytes => bytes
  | _ => []

/-- How reads are paced, in milliseconds. -/
structure Pacing where
  /-- Pause after an empty read. -/
  poll : Nat := 10
  /-- The watchdog; without one a fill waits for ever. -/
  limit : Option Nat := none
  poll_pos : 0 < poll := by decide
  deriving DecidableEq, Repr

/-- The last instant that the clock can name, in whole milliseconds from its zero: its seconds are a
number of 64 bits with a sign. -/
def lastInstant : Nat := 0x8000000000000000 * 1000 - 1

/-- The longest that a single pause may last: thirty years, in milliseconds. As measured, the timer
ends every longer one there, though the clock can name a later end. -/
def longestPause : Nat := 30 * 365 * 24 * 60 * 60 * 1000

/-- How long a pause lasts that is asked for in milliseconds. -/
def pauseFor (ms : Nat) : Nat := min ms longestPause

namespace Pacing

/-- The time between two polls. -/
def step (p : Pacing) : Nat := pauseFor p.poll

/-- The watchdog's error. -/
def silence (p : Pacing) : LinkError := .silent (.ofMillis (p.limit.getD 0))

/-- When the watchdog gives up, if the last byte was taken at `since`. -/
def deadline (p : Pacing) (since : Nat) : Option Nat := p.limit.map (since + ·)

/-- Whether the clock cannot name that instant. -/
def overflows (p : Pacing) (since : Nat) : Bool := (p.deadline since).any (lastInstant < ·)

theorem overflows_of_unlimited {p : Pacing} (unlimited : p.limit = none) (since : Nat) :
    p.overflows since = false := by
  simp [overflows, deadline, unlimited]

theorem overflows_iff {p : Pacing} {limit : Nat} (limited : p.limit = some limit) (since : Nat) :
    p.overflows since = true ↔ lastInstant < since + limit := by
  simp [overflows, deadline, limited]

theorem exists_of_overflows (p : Pacing) {since : Nat} (h : p.overflows since = true) :
    ∃ limit, p.limit = some limit ∧ lastInstant < since + limit := by
  cases limited : p.limit with
  | none => simp [overflows_of_unlimited limited] at h
  | some limit => exact ⟨limit, rfl, (overflows_iff limited since).1 h⟩

/-- The first poll, counted from `now`, at or after `deadline`. -/
def pollAt (p : Pacing) (now deadline : Nat) : Nat :=
  now + p.step * ((deadline - now + p.step - 1) / p.step)

end Pacing

/-- The receiving end at one instant of its clock. -/
structure Receiver where
  arrivals : List Arrival
  pacing : Pacing := {}
  clock : Nat := 0
  /-- End of the silence met last; no read gets past it earlier. -/
  heldUntil : Nat := 0
  deriving Repr

namespace Receiver

/-- The error of a read past the last arrival when no watchdog is set. -/
def exhausted : IoError := .custom "script exhausted"

/-- The bytes still to come. -/
def pending (r : Receiver) : Bytes := r.arrivals.flatMap Arrival.bytes

/-- A read that starts at `now` waits for the end of a silence. Data that is ready by the deadline
wins over the watchdog, and so does data that is ready at once; the error is the instant at which
the read is given up otherwise. -/
def release (deadline : Option Nat) (now held : Nat) : Except Nat Nat :=
  match deadline with
  | none => .ok (max now held)
  | some d => if held ≤ max now d then .ok (max now held) else .error (max now d)

/-- The bytes of a buffer, from the pieces before its last one, latest first. -/
def assemble (got : List Bytes) (last : Bytes) : Bytes := got.foldl (fun b piece => piece ++ b) last

theorem assemble_eq (got : List Bytes) (last : Bytes) :
    assemble got last = got.reverse.flatten ++ last := by
  induction got generalizing last with
  | nil => rfl
  | cons piece got ih => simp_all [assemble]

/-- Fills the last `want` bytes of a buffer, at least one. `got` holds the pieces taken so far, last
one first, and `since` is the instant of the last of them, or of the start. -/
def fillFrom (pacing : Pacing) (want : Nat) (got : List Bytes) (since now held : Nat)
    (arrivals : List Arrival) : Except LinkError Bytes × Receiver :=
  match release (pacing.deadline since) now held with
  | .error t => (.error pacing.silence, ⟨arrivals, pacing, t, held⟩)
  | .ok now =>
    match arrivals with
    | [] =>
      match pacing.deadline since with
      | none => (.error (.io exhausted), ⟨[], pacing, now, held⟩)
      | some d => (.error pacing.silence, ⟨[], pacing, pacing.pollAt now d, held⟩)
    | .data bytes :: rest =>
      let (piece, left) := bytes.splitAt want
      if piece.isEmpty then fillFrom pacing want got since now held rest
      else if pacing.overflows now then
        (.error (.io .overflow), ⟨.data left :: rest, pacing, now, held⟩)
      else if piece.length < want then
        fillFrom pacing (want - piece.length) (piece :: got) now now held rest
      else (.ok (assemble got piece), ⟨.data left :: rest, pacing, now, held⟩)
    | .empty :: rest =>
      if (pacing.deadline since).any (· ≤ now) then
        (.error pacing.silence, ⟨rest, pacing, now, held⟩)
      else fillFrom pacing want got since (now + pacing.step) held rest
    | .wait ms :: rest => fillFrom pacing want got since now (now + pauseFor ms) rest
    | .fail cause :: rest => (.error (.io cause), ⟨rest, pacing, now, held⟩)

/-- Reads exactly `want` bytes. Bytes taken before an error are lost. -/
def fill (r : Receiver) (want : Nat) : Except LinkError Bytes × Receiver :=
  if r.pacing.overflows r.clock then (.error (.io .overflow), r)
  else if want = 0 then (.ok [], r)
  else fillFrom r.pacing want [] r.clock r.clock r.heldUntil r.arrivals

/-- Answers a reader's requests. -/
def perform : Reading α → Receiver → Except LinkError α × Receiver
  | .done result, r => (result, r)
  | .pause ms next, r => perform next { r with clock := r.clock + pauseFor ms }
  | .fill want next, r =>
    match r.fill want with
    | (.ok bytes, r) => perform (next bytes) r
    | (.error e, r) => (.error e, r)

/-- Reads one packet. -/
def readPacket (settle : Nat) (r : Receiver) : Except LinkError Packet × Receiver :=
  perform (Packet.reading settle) r

theorem length_flatten_reverse (pieces : List Bytes) :
    pieces.reverse.flatten.length = pieces.flatten.length := by
  simp [List.length_flatten]

/-- What a fill says it took is what it took. -/
inductive Took (want : Nat) (before : Bytes) : Except LinkError Bytes × Receiver → Prop
  | ok {b r} : b.length = want → before = b ++ r.pending → Took want before (.ok b, r)
  | error {e r} (lost : Bytes) : lost.length < want → before = lost ++ r.pending →
      Took want before (.error e, r)
  | brokenOff {r} (lost : Bytes) : lost.length ≤ want → before = lost ++ r.pending →
      Took want before (.error (.io .overflow), r)

theorem fillFrom_took {pacing : Pacing} {want : Nat} {got : List Bytes} {since now held : Nat}
    {arrivals : List Arrival} (h : 0 < want) :
    Took (got.flatten.length + want) (got.reverse.flatten ++ arrivals.flatMap Arrival.bytes)
      (fillFrom pacing want got since now held arrivals) := by
  have lost : got.reverse.flatten.length < got.flatten.length + want := by
    rw [length_flatten_reverse]
    exact Nat.lt_add_of_pos_right h
  fun_induction fillFrom pacing want got since now held arrivals with
  | case1 | case2 | case3 | case8 => exact .error _ lost rfl
  | case11 => exact .error _ lost (by simp [pending, Arrival.bytes])
  | case4 want got since now held t _ bytes rest piece left hs hp ih =>
    obtain ⟨rfl, rfl⟩ := Prod.mk.inj ((List.splitAt_eq ..).symm.trans hs)
    have : bytes = [] := by simpa [Nat.ne_of_gt h] using hp
    simpa [this, Arrival.bytes] using ih h lost
  | case5 want got since now held t _ bytes rest piece left hs hp =>
    obtain ⟨rfl, rfl⟩ := Prod.mk.inj ((List.splitAt_eq ..).symm.trans hs)
    refine .brokenOff (got.reverse.flatten ++ bytes.take want) ?_ ?_
    · have few : (bytes.take want).length ≤ want := List.length_take_le ..
      rw [List.length_append, length_flatten_reverse]
      exact Nat.add_le_add_left few _
    · simp [pending, Arrival.bytes]
      rw [← List.append_assoc, List.take_append_drop]
  | case6 want got since now held t _ bytes rest piece left hs hp _ hl ih =>
    obtain ⟨rfl, rfl⟩ := Prod.mk.inj ((List.splitAt_eq ..).symm.trans hs)
    have hb : bytes.take want = bytes := List.take_of_length_le (by simp at hl; omega)
    rw [hb] at hl ih
    have total : (bytes :: got).flatten.length + (want - bytes.length) =
        got.flatten.length + want := by simp; omega
    have stream : (bytes :: got).reverse.flatten ++ rest.flatMap Arrival.bytes =
        got.reverse.flatten ++ (Arrival.data bytes :: rest).flatMap Arrival.bytes := by
      simp [Arrival.bytes]
    rw [← total, ← stream]
    simpa only [hb] using ih (by omega) (by simp; omega)
  | case7 want got since now held t _ bytes rest piece left hs hp _ hl =>
    obtain ⟨rfl, rfl⟩ := Prod.mk.inj ((List.splitAt_eq ..).symm.trans hs)
    rw [assemble_eq]
    refine .ok ?_ ?_
    · have : (bytes.take want).length = want := by simp at hl ⊢; omega
      simp [this]
    · simp [pending, Arrival.bytes]
      rw [← List.append_assoc, List.take_append_drop]
  | case9 want got since now held t _ rest _ ih => simpa [Arrival.bytes] using ih h lost
  | case10 want got since now held t _ ms rest ih => simpa [Arrival.bytes] using ih h lost

theorem fill_of_overflow {r : Receiver} {want : Nat} (h : r.pacing.overflows r.clock = true) :
    r.fill want = (.error (.io .overflow), r) := if_pos h

theorem fill_eq_fillFrom {r : Receiver} {want : Nat} (fits : r.pacing.overflows r.clock = false)
    (h : 0 < want) :
    r.fill want = fillFrom r.pacing want [] r.clock r.clock r.heldUntil r.arrivals := by
  simp [fill, fits, Nat.ne_of_gt h]

/-- A fill that succeeds takes the next bytes, as many as it was asked for; one that fails has taken
fewer, and one that breaks off no more. -/
theorem fill_took (r : Receiver) (want : Nat) : Took want r.pending (r.fill want) := by
  cases fits : r.pacing.overflows r.clock with
  | true =>
    rw [fill_of_overflow fits]
    exact .brokenOff [] (Nat.zero_le want) rfl
  | false =>
    rcases Nat.eq_zero_or_pos want with rfl | h
    · simp only [fill, fits]
      exact .ok rfl rfl
    · rw [fill_eq_fillFrom fits h]
      simpa [pending] using @fillFrom_took r.pacing want [] r.clock r.clock r.heldUntil r.arrivals h

theorem fill_ok {r r' : Receiver} {want : Nat} {b : Bytes} (h : r.fill want = (.ok b, r')) :
    b.length = want ∧ r.pending = b ++ r'.pending := by
  have took := fill_took r want
  rw [h] at took
  cases took with
  | ok hl hb => exact ⟨hl, hb⟩

theorem consumes_of_perform {reading : Reading α} {r r' : Receiver} {a : α}
    (h : perform reading r = (.ok a, r')) :
    ∃ b, Consumes reading b (.ok a) ∧ r.pending = b ++ r'.pending := by
  induction reading generalizing r with
  | done => cases h; exact ⟨[], .done _, rfl⟩
  | pause ms next ih =>
    obtain ⟨b, hb, hr⟩ := ih h
    exact ⟨b, .pause hb, hr⟩
  | fill want next ih =>
    simp only [perform] at h
    split at h
    · rename_i bytes r₁ h₁
      obtain ⟨hl, hp⟩ := fill_ok h₁
      obtain ⟨b, hb, hr⟩ := ih bytes h
      exact ⟨bytes ++ b, .fill hl hb, by rw [hp, hr, List.append_assoc]⟩
    · simp at h

/-- A packet that was read stood framed at the front of what was to come. -/
theorem readPacket_ok {settle : Nat} {r r' : Receiver} {p : Packet}
    (h : r.readPacket settle = (.ok p, r')) : r.pending = p.frame ++ r'.pending := by
  obtain ⟨b, hb, hr⟩ := consumes_of_perform h
  exact eq_frame_of_consumes hb ▸ hr

end Receiver

end SerialSuite
