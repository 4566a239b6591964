import SerialSuite.LinkError

/-!
The sending end of the link: what the target's side accepts, and the log of what it was given.

A write may take a part of the data only. `send` writes on until everything is taken; a write that
is interrupted is tried again, any other failure ends the send.
-/

namespace SerialSuite

/-- What a sender's log records. -/
inductive SinkEvent where
  | wrote (bytes : Bytes)
  | flushed
  | shutDown
  | writeFailed
  | wroteNothing
  | flushFailed
  | shutDownFailed
  deriving DecidableEq, Repr

/-- A place in the output where writes stop being taken: either they fail, or they take nothing. -/
structure Stop where
  position : Nat
  cause : Option IoError
  /-- Only the first write that starts there is stopped. -/
  once : Bool := false
  deriving Repr

/-- The sending end, with its faults and its log. -/
structure Sender where
  /-- Most bytes that one write takes. -/
  perWrite : Option Nat := none
  stops : List Stop := []
  /-- The flush that fails, counted from 1. -/
  badFlush : Option Nat := none
  badShutdown : Bool := false
  /-- What flush and shutdown fail with. -/
  cause : IoError := .os 32
  /-- Bytes taken so far. -/
  taken : Nat := 0
  flushes : Nat := 0
  /-- What happened, the last event first. -/
  log : List SinkEvent := []
  deriving Repr

namespace SinkEvent

/-- The bytes that were taken. -/
def bytes : SinkEvent → Bytes
  | wrote b => b
  | _ => []

/-- An event in front of later ones; writes with nothing between them count as one. -/
def join : SinkEvent → List SinkEvent → List SinkEvent
  | wrote a, wrote b :: later => wrote (a ++ b) :: later
  | e, later => e :: later

theorem flatMap_bytes_join (e : SinkEvent) (later : List SinkEvent) :
    (e.join later).flatMap bytes = e.bytes ++ later.flatMap bytes := by
  fun_cases join e later <;> simp [bytes]

end SinkEvent

namespace Sender

/-- Every byte taken, in order. -/
def accepted (s : Sender) : Bytes := s.log.reverse.flatMap SinkEvent.bytes

/-- What happened, in order. -/
def events (s : Sender) : List SinkEvent := s.log.foldl (fun later e => e.join later) []

theorem flatMap_bytes_events (s : Sender) : s.events.flatMap SinkEvent.bytes = s.accepted := by
  have joined (log later : List SinkEvent) :
      (log.foldl (fun later e => e.join later) later).flatMap SinkEvent.bytes =
        log.reverse.flatMap SinkEvent.bytes ++ later.flatMap SinkEvent.bytes := by
    induction log generalizing later with
    | nil => rfl
    | cons e log ih => simp [ih, SinkEvent.flatMap_bytes_join]
  simpa [events, accepted] using joined s.log []

def record (s : Sender) (e : SinkEvent) : Sender := { s with log := e :: s.log }

theorem accepted_record (s : Sender) (e : SinkEvent) :
    (s.record e).accepted = s.accepted ++ e.bytes := by
  simp [accepted, record]

/-- How much the next write may take: its own limit, and no more than up to the next stop. -/
def room (s : Sender) : Option Nat :=
  (s.perWrite.toList ++ s.stops.filterMap fun stop =>
    if s.taken < stop.position then some (stop.position - s.taken) else none).min?

/-- The data that the next write may take, and the data behind it. -/
def cut (s : Sender) (data : Bytes) : Bytes × Bytes :=
  match s.room with
  | some n => data.splitAt n
  | none => (data, [])

theorem cut_append (s : Sender) (data : Bytes) : (s.cut data).1 ++ (s.cut data).2 = data := by
  unfold cut
  split <;> simp

/-- A write that meets a stop. -/
def halt (s : Sender) (stop : Stop) : IoError × Sender :=
  let s := if stop.once then { s with stops := s.stops.eraseP (·.position = s.taken) } else s
  match stop.cause with
  | some cause => (cause, s.record .writeFailed)
  | none => (.wroteNothing, s.record .wroteNothing)

def take (s : Sender) (piece : Bytes) : Sender :=
  { s with taken := s.taken + piece.length }.record (.wrote piece)

/-- A write whose data may be taken in part; gives back what is left. -/
def write (s : Sender) (data : Bytes) : Except IoError Bytes × Sender :=
  match s.stops.find? (·.position = s.taken) with
  | some stop => (.error (s.halt stop).1, (s.halt stop).2)
  | none =>
    let (piece, rest) := s.cut data
    if piece = [] then (.error .wroteNothing, s.record .wroteNothing) else (.ok rest, s.take piece)

/-- A write that succeeds takes a non-empty front of the data and leaves the rest. -/
theorem write_ok {s s' : Sender} {data rest : Bytes} (h : s.write data = (.ok rest, s')) :
    ∃ piece, piece ≠ [] ∧ data = piece ++ rest ∧ s' = s.take piece := by
  unfold write at h
  split at h
  · cases h
  · dsimp only at h
    split at h
    · simp at h
    · rename_i hp
      simp only [Prod.mk.injEq, Except.ok.injEq] at h
      exact ⟨_, hp, h.1 ▸ (s.cut_append data).symm, h.2.symm⟩

/-- Writes all of the data. A stop that interrupts for ever can never be passed, so that the
interruption is then the error. -/
def writeAll (s : Sender) (data : Bytes) : Except IoError Unit × Sender :=
  if data.isEmpty then (.ok (), s)
  else
    match _h : s.write data with
    | (.ok rest, s') => writeAll s' rest
    | (.error cause, s') =>
      if cause = .interrupted ∧ s'.stops.length < s.stops.length then writeAll s' data
      else (.error cause, s')
termination_by data.length + s.stops.length
decreasing_by
  · obtain ⟨piece, hp, rfl, rfl⟩ := write_ok _h
    have := List.length_pos_iff.2 hp
    simp [take, record]; omega
  · omega

def flush (s : Sender) : Except IoError Unit × Sender :=
  let s := { s with flushes := s.flushes + 1 }
  if s.badFlush = some s.flushes then (.error s.cause, s.record .flushFailed)
  else (.ok (), s.record .flushed)

def shutdown (s : Sender) : Except IoError Unit × Sender :=
  if s.badShutdown then (.error s.cause, s.record .shutDownFailed)
  else (.ok (), s.record .shutDown)

/-- Writes a frame and flushes it. -/
def send (s : Sender) (frame : Bytes) : Except LinkError Unit × Sender :=
  match s.writeAll frame with
  | (.error cause, s) => (.error (.io cause), s)
  | (.ok (), s) =>
    match s.flush with
    | (.error cause, s) => (.error (.io cause), s)
    | (.ok (), s) => (.ok (), s)

/-- Flushes and, only if that worked, shuts down. -/
def close (s : Sender) : Except IoError Unit × Sender :=
  match s.flush with
  | (.error cause, s) => (.error cause, s)
  | (.ok (), s) => s.shutdown

end Sender

end SerialSuite
