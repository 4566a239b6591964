import SerialSuite.Proofs.Watchdog
import Mathlib.Data.List.Chain

/-!
How a watched receiver keeps time. `taken` lists the pieces of data that a fill takes, each with its
instant. Between one piece and the next, and between the last piece and the end of the fill, less
than the watchdog's limit and one poll goes by; the watchdog itself never gives up before its limit,
and the fill breaks off where the last piece is too late for it (`OnTime`). What a reader pauses is
no silence: the next fill starts behind the pause.
-/

namespace SerialSuite

/-- Some data that a read took, and when it did. -/
structure Piece where
  instant : Nat
  bytes : Bytes
  deriving DecidableEq, Repr

namespace Pacing
variable (p : Pacing) {now d : Nat}

theorem step_pos : 0 < p.step := by
  have := p.poll_pos
  simp only [step, pauseFor, longestPause]
  omega

theorem silence_ne (b : Breakdown) : p.silence ≠ .io b := by simp [silence]

theorem step_le : p.step ≤ p.poll := Nat.min_le_left ..

theorem pollAt_of_le (h : d ≤ now) : p.pollAt now d = now := by
  have pos := p.step_pos
  have none : (d - now + p.step - 1) / p.step = 0 := Nat.div_eq_of_lt (by omega)
  simp [pollAt, none]

/-- The poll that finds the deadline over is the first one at or after it. -/
theorem pollAt_of_lt (h : now < d) : d ≤ p.pollAt now d ∧ p.pollAt now d < d + p.step := by
  have pos := p.step_pos
  have whole := Nat.div_add_mod (d - now + p.step - 1) p.step
  have rest := Nat.mod_lt (d - now + p.step - 1) pos
  unfold pollAt
  generalize p.step * ((d - now + p.step - 1) / p.step) = waited at whole ⊢
  omega

/-- A watched reader that polls to the end of its patience is found out within one poll. -/
theorem pollAt_soon {limit since t : Nat} (soon : t < since + (limit + p.poll)) :
    since + limit ≤ p.pollAt t (since + limit) ∧
      p.pollAt t (since + limit) < since + (limit + p.poll) := by
  have step_le := p.step_le
  rcases Nat.lt_or_ge t (since + limit) with early | late
  · have := p.pollAt_of_lt early
    omega
  · rw [p.pollAt_of_le late]
    exact ⟨late, soon⟩

end Pacing

namespace Receiver

/-- The pieces of data that `fillFrom` takes. -/
def takenFrom (pacing : Pacing) (want since now held : Nat) (arrivals : List Arrival) :
    List Piece :=
  match release (pacing.deadline since) now held with
  | .error _ => []
  | .ok now =>
    match arrivals with
    | .data bytes :: rest =>
      if bytes = [] then takenFrom pacing want since now held rest
      else if bytes.length < want ∧ pacing.overflows now = false then
        ⟨now, bytes⟩ :: takenFrom pacing (want - bytes.length) now now held rest
      else [⟨now, bytes.take want⟩]
    | .empty :: rest =>
      if (pacing.deadline since).any (· ≤ now) then []
      else takenFrom pacing want since (now + pacing.step) held rest
    | .wait ms :: rest => takenFrom pacing want since now (now + pauseFor ms) rest
    | [] | .fail _ :: _ => []

/-- The pieces of data that a fill takes. -/
def taken (r : Receiver) (want : Nat) : List Piece :=
  if want = 0 ∨ r.pacing.overflows r.clock then []
  else takenFrom r.pacing want r.clock r.clock r.heldUntil r.arrivals

/-- The instant of the last piece that a fill takes, and of its start if it takes none. -/
def lastTaken (r : Receiver) (want : Nat) : Nat :=
  ((r.taken want).map Piece.instant).getLastD r.clock

section steps
variable {p : Pacing} {want since now held t : Nat} {got : List Bytes} {bytes : Bytes}
  {rest : List Arrival}

theorem fillFrom_given_up {arrivals : List Arrival}
    (given_up : release (p.deadline since) now held = .error t) :
    fillFrom p want got since now held arrivals = (.error p.silence, ⟨arrivals, p, t, held⟩) := by
  rw [fillFrom.eq_def, given_up]

variable (released : release (p.deadline since) now held = .ok t)
include released

theorem fillFrom_nil : fillFrom p want got since now held [] =
    (.error ((p.deadline since).elim (.io exhausted) fun _ => p.silence),
      ⟨[], p, (p.deadline since).elim t (p.pollAt t), held⟩) := by
  rw [fillFrom.eq_def, released]
  cases p.deadline since <;> rfl

theorem fillFrom_none : fillFrom p want got since now held (.data [] :: rest) =
    fillFrom p want got since t held rest := by
  rw [fillFrom.eq_def, released]
  simp [List.splitAt_eq]

theorem fillFrom_part (some_bytes : bytes ≠ []) (short : bytes.length < want)
    (fits : p.overflows t = false) :
    fillFrom p want got since now held (.data bytes :: rest) =
      fillFrom p (want - bytes.length) (bytes :: got) t t held rest := by
  have all : bytes.take want = bytes := List.take_of_length_le (Nat.le_of_lt short)
  rw [fillFrom.eq_def, released]
  simp [List.splitAt_eq, all, some_bytes, short, fits]

/-- The last piece that a fill takes is enough, or it is too late for the next deadline. -/
theorem fillFrom_last (some_wanted : 0 < want) (some_bytes : bytes ≠ [])
    (last : ¬ (bytes.length < want ∧ p.overflows t = false)) :
    fillFrom p want got since now held (.data bytes :: rest) =
      (if p.overflows t then .error (.io .overflow) else .ok (assemble got (bytes.take want)),
        ⟨.data (bytes.drop want) :: rest, p, t, held⟩) := by
  have some_taken : bytes.take want ≠ [] := by
    simp [some_bytes, Nat.ne_of_gt some_wanted]
  rw [fillFrom.eq_def, released]
  cases late : p.overflows t with
  | true => simp [List.splitAt_eq, some_taken, late]
  | false =>
    have enough : want ≤ bytes.length := Nat.not_lt.1 fun short => last ⟨short, late⟩
    have length_eq : (bytes.take want).length = want := List.length_take_of_le enough
    simp [List.splitAt_eq, some_taken, length_eq, late]

theorem fillFrom_late (late : (p.deadline since).any (· ≤ t)) :
    fillFrom p want got since now held (.empty :: rest) =
      (.error p.silence, ⟨rest, p, t, held⟩) := by
  rw [fillFrom.eq_def, released]
  exact if_pos late

theorem fillFrom_empty (waits : ¬ (p.deadline since).any (· ≤ t)) :
    fillFrom p want got since now held (.empty :: rest) =
      fillFrom p want got since (t + p.step) held rest := by
  rw [fillFrom.eq_def, released]
  exact if_neg waits

theorem fillFrom_wait {ms : Nat} : fillFrom p want got since now held (.wait ms :: rest) =
    fillFrom p want got since t (t + pauseFor ms) rest := by
  rw [fillFrom.eq_def, released]

theorem fillFrom_fail {cause : IoError} :
    fillFrom p want got since now held (.fail cause :: rest) =
      (.error (.io cause), ⟨rest, p, t, held⟩) := by
  rw [fillFrom.eq_def, released]

end steps

section pieces
variable {p : Pacing} {want since now held : Nat} {arrivals : List Arrival}

theorem takenFrom_append (some_wanted : 0 < want) (got : List Bytes) :
    arrivals.flatMap Arrival.bytes =
      (takenFrom p want since now held arrivals).flatMap Piece.bytes ++
        (fillFrom p want got since now held arrivals).2.pending := by
  fun_induction takenFrom p want since now held arrivals generalizing got with
  | case1 arrivals want since now held t given_up =>
    rw [fillFrom_given_up given_up]
    rfl
  | case2 want since now held t released rest ih =>
    rw [fillFrom_none released]
    exact ih some_wanted got
  | case3 want since now held t released bytes rest some_bytes more ih =>
    rw [fillFrom_part released some_bytes more.1 more.2, List.flatMap_cons, List.flatMap_cons,
      List.append_assoc, ← ih (by omega)]
    rfl
  | case4 want since now held t released bytes rest some_bytes last =>
    rw [fillFrom_last released some_wanted some_bytes last]
    simp only [pending, Arrival.bytes, List.flatMap_cons, List.flatMap_nil, List.append_nil]
    rw [← List.append_assoc, List.take_append_drop]
  | case5 want since now held t released rest late =>
    rw [fillFrom_late released late]
    rfl
  | case6 want since now held t released rest waits ih =>
    rw [fillFrom_empty released waits]
    exact ih some_wanted got
  | case7 want since now held t released ms rest ih =>
    rw [fillFrom_wait released]
    exact ih some_wanted got
  | case8 want since now held t released =>
    rw [fillFrom_nil released]
    rfl
  | case9 want since now held t released cause rest =>
    rw [fillFrom_fail released]
    rfl

/-- A fill of just the pieces up to `q` ends with `q`, if it has the time. -/
theorem fillFrom_taken (some_wanted : 0 < want) {before after : List Piece} {q : Piece}
    (h : takenFrom p want since now held arrivals = before ++ q :: after) (got : List Bytes) :
    0 < ((before ++ [q]).flatMap Piece.bytes).length ∧
    ∃ r, fillFrom p ((before ++ [q]).flatMap Piece.bytes).length got since now held arrivals =
      (if p.overflows q.instant then .error (.io .overflow)
        else .ok (got.reverse.flatten ++ (before ++ [q]).flatMap Piece.bytes), r) ∧
      r.clock = q.instant := by
  fun_induction takenFrom p want since now held arrivals generalizing before got with
  | case1 | case5 | case8 | case9 => simp at h
  | case2 want since now held t released rest ih =>
    rw [fillFrom_none released]
    exact ih some_wanted h got
  | case3 want since now held t released bytes rest some_bytes more ih =>
    have pos : 0 < bytes.length := List.length_pos_iff.2 some_bytes
    rcases before with - | ⟨q', before⟩
    · obtain ⟨rfl, -⟩ := List.cons.inj h
      rw [List.nil_append, List.flatMap_singleton,
        fillFrom_last released pos some_bytes fun more => Nat.lt_irrefl _ more.1]
      refine ⟨pos, _, Prod.ext ?_ rfl, rfl⟩
      simp [assemble_eq]
    · -- the fill takes the first piece whole, and goes on to `q`
      obtain ⟨rfl, later⟩ := List.cons.inj h
      obtain ⟨some_more, r, filled, clock⟩ := ih (by omega) later (bytes :: got)
      rw [List.cons_append, List.flatMap_cons, List.length_append]
      dsimp only
      refine ⟨by omega, r, ?_, clock⟩
      rw [fillFrom_part released some_bytes (by omega) more.2, Nat.add_sub_cancel_left, filled]
      simp
  | case4 want since now held t released bytes rest some_bytes last =>
    obtain ⟨rfl, rfl⟩ : before = [] ∧ q = ⟨t, bytes.take want⟩ := by
      cases before <;> simp_all
    have pos : 0 < (bytes.take want).length := by
      rw [List.length_take]
      exact Nat.lt_min.2 ⟨some_wanted, List.length_pos_iff.2 some_bytes⟩
    have enough : (bytes.take want).length ≤ bytes.length := List.length_take_le' ..
    have whole : bytes.take (bytes.take want).length = bytes.take want := by
      rw [List.length_take, ← List.take_take, List.take_length]
    rw [List.nil_append, List.flatMap_singleton,
      fillFrom_last released pos some_bytes fun more => Nat.not_lt.2 enough more.1, whole]
    refine ⟨pos, _, Prod.ext ?_ rfl, rfl⟩
    simp [assemble_eq]
  | case6 want since now held t released rest waits ih =>
    rw [fillFrom_empty released waits]
    exact ih some_wanted h got
  | case7 want since now held t released ms rest ih =>
    rw [fillFrom_wait released]
    exact ih some_wanted h got

end pieces

/-- A fill under a watchdog that waits for `limit`: from its start at `since` on, data comes before
the limit and one poll are over, and so does its end; the watchdog keeps its limit. -/
structure OnTime (p : Pacing) (limit want since : Nat) (pieces : List Piece)
    (filled : Except LinkError Bytes × Receiver) : Prop where
  soon : List.IsChain (fun a b => a ≤ b ∧ b < a + (limit + p.poll))
    (since :: pieces.map Piece.instant)
  after : (pieces.map Piece.instant).getLastD since ≤ filled.2.clock
  before : filled.2.clock < (pieces.map Piece.instant).getLastD since + (limit + p.poll)
  patient : filled.1 = .error p.silence →
    (pieces.map Piece.instant).getLastD since + limit ≤ filled.2.clock
  bounded : filled.2.clock < since + want * (limit + p.poll)
  broken : filled.1 = .error (.io .overflow) ↔
    p.overflows ((pieces.map Piece.instant).getLastD since) = true

section time
variable {p : Pacing} {limit want since now held t : Nat} {pieces : List Piece}
  {filled : Except LinkError Bytes × Receiver}

theorem OnTime.of_none (some_wanted : 0 < want) (later : since ≤ filled.2.clock)
    (soon : filled.2.clock < since + (limit + p.poll))
    (patient : filled.1 = .error p.silence → since + limit ≤ filled.2.clock)
    (fits : p.overflows since = false) (whole : filled.1 ≠ .error (.io .overflow)) :
    OnTime p limit want since [] filled where
  soon := .singleton _
  after := later
  before := soon
  patient := patient
  bounded := Nat.lt_of_lt_of_le soon
    (Nat.add_le_add_left (Nat.le_mul_of_pos_left _ some_wanted) since)
  broken := iff_of_false whole (by simp [fits])

theorem OnTime.of_last {b b' : Bytes} {left : List Arrival} (some_wanted : 0 < want)
    (later : since ≤ t) (soon : t < since + (limit + p.poll)) :
    OnTime p limit want since [⟨t, b⟩]
      (if p.overflows t then .error (.io .overflow) else .ok b', ⟨left, p, t, held⟩) where
  soon := List.isChain_cons_cons.2 ⟨⟨later, soon⟩, .singleton _⟩
  after := Nat.le_refl t
  before := Nat.lt_add_of_pos_right (Nat.add_pos_right limit p.poll_pos)
  patient silent := by
    dsimp only at silent
    split at silent <;> cases silent
  bounded := Nat.lt_of_lt_of_le soon
    (Nat.add_le_add_left (Nat.le_mul_of_pos_left _ some_wanted) since)
  broken := by cases late : p.overflows t <;> simp [late]

theorem OnTime.cons {b : Bytes} {n : Nat} (later : since ≤ t) (soon : t < since + (limit + p.poll))
    (fewer : n < want) (rest : OnTime p limit n t pieces filled) :
    OnTime p limit want since (⟨t, b⟩ :: pieces) filled where
  soon := List.isChain_cons_cons.2 ⟨⟨later, soon⟩, rest.soon⟩
  after := by simpa only [List.map_cons, List.getLastD_cons] using rest.after
  before := by simpa only [List.map_cons, List.getLastD_cons] using rest.before
  patient := by simpa only [List.map_cons, List.getLastD_cons] using rest.patient
  bounded := by
    have := rest.bounded
    have := Nat.mul_le_mul_right (limit + p.poll) (show n + 1 ≤ want from fewer)
    rw [Nat.succ_mul] at this
    omega
  broken := by simpa only [List.map_cons, List.getLastD_cons] using rest.broken

theorem release_ok (limited : p.limit = some limit) (later : since ≤ now)
    (soon : now < since + (limit + p.poll))
    (released : release (p.deadline since) now held = .ok t) :
    since ≤ t ∧ t < since + (limit + p.poll) := by
  have := p.poll_pos
  simp only [release, Pacing.deadline, limited, Option.map_some] at released
  split at released
  · cases released
    omega
  · cases released

theorem release_error (limited : p.limit = some limit)
    (given_up : release (p.deadline since) now held = .error t) : t = max now (since + limit) := by
  simp only [release, Pacing.deadline, limited, Option.map_some] at given_up
  split at given_up
  · cases given_up
  · cases given_up
    rfl

theorem fillFrom_onTime (limited : p.limit = some limit) (some_wanted : 0 < want)
    (fits : p.overflows since = false) (later : since ≤ now)
    (soon : now < since + (limit + p.poll)) (got : List Bytes) (arrivals : List Arrival) :
    OnTime p limit want since (takenFrom p want since now held arrivals)
      (fillFrom p want got since now held arrivals) := by
  fun_induction takenFrom p want since now held arrivals generalizing got with
  | case1 arrivals want since now held t given_up =>
    have t_eq := release_error limited given_up
    rw [fillFrom_given_up given_up]
    have poll_pos := p.poll_pos
    have in_time : since ≤ t ∧ t < since + (limit + p.poll) ∧ since + limit ≤ t := by omega
    exact .of_none some_wanted in_time.1 in_time.2.1 (fun _ => in_time.2.2) fits
      (mt Except.error.inj (p.silence_ne _))
  | case2 want since now held t released rest ih =>
    obtain ⟨later', soon'⟩ := release_ok limited later soon released
    rw [fillFrom_none released]
    exact ih some_wanted fits later' soon' got
  | case3 want since now held t released bytes rest some_bytes more ih =>
    obtain ⟨later', soon'⟩ := release_ok limited later soon released
    have pos : 0 < bytes.length := List.length_pos_iff.2 some_bytes
    have taken := ih (by omega) more.2 (Nat.le_refl t) (by omega) (bytes :: got)
    rw [fillFrom_part released some_bytes more.1 more.2]
    exact .cons later' soon' (by omega) taken
  | case4 want since now held t released bytes rest some_bytes last =>
    obtain ⟨later', soon'⟩ := release_ok limited later soon released
    rw [fillFrom_last released some_wanted some_bytes last]
    exact .of_last some_wanted later' soon'
  | case5 want since now held t released rest late =>
    obtain ⟨later', soon'⟩ := release_ok limited later soon released
    have expired : since + limit ≤ t := by simpa [Pacing.deadline, limited] using late
    rw [fillFrom_late released late]
    exact .of_none some_wanted later' soon' (fun _ => expired) fits
      (mt Except.error.inj (p.silence_ne _))
  | case6 want since now held t released rest waits ih =>
    obtain ⟨later', -⟩ := release_ok limited later soon released
    have early : t < since + limit := by simpa [Pacing.deadline, limited] using waits
    have step_le := p.step_le
    rw [fillFrom_empty released waits]
    exact ih some_wanted fits (by omega) (by omega) got
  | case7 want since now held t released ms rest ih =>
    obtain ⟨later', soon'⟩ := release_ok limited later soon released
    rw [fillFrom_wait released]
    exact ih some_wanted fits later' soon' got
  | case8 want since now held t released =>
    obtain ⟨later', soon'⟩ := release_ok limited later soon released
    have deadline_eq : p.deadline since = some (since + limit) := by simp [Pacing.deadline, limited]
    have found := p.pollAt_soon soon'
    rw [fillFrom_nil released, deadline_eq]
    exact .of_none some_wanted (Nat.le_trans (Nat.le_add_right ..) found.1) found.2
      (fun _ => found.1) fits (mt Except.error.inj (p.silence_ne _))
  | case9 want since now held t released cause rest =>
    obtain ⟨later', soon'⟩ := release_ok limited later soon released
    rw [fillFrom_fail released]
    exact .of_none some_wanted later' soon'
      (fun silent => absurd (Except.error.inj silent) (p.silence_ne _).symm) fits (by simp)

end time

section fills
variable {r : Receiver} {limit want : Nat}

theorem taken_of_overflow (late : r.pacing.overflows r.clock = true) (want : Nat) :
    r.taken want = [] := if_pos (.inr late)

theorem taken_eq_takenFrom (fits : r.pacing.overflows r.clock = false) (some_wanted : 0 < want) :
    r.taken want = takenFrom r.pacing want r.clock r.clock r.heldUntil r.arrivals := by
  apply if_neg
  simp [fits, Nat.ne_of_gt some_wanted]

theorem fill_taken_append (some_wanted : 0 < want) :
    r.pending = (r.taken want).flatMap Piece.bytes ++ (r.fill want).2.pending := by
  cases fits : r.pacing.overflows r.clock with
  | true =>
    rw [taken_of_overflow fits, fill_of_overflow fits]
    rfl
  | false =>
    rw [taken_eq_takenFrom fits some_wanted, fill_eq_fillFrom fits some_wanted]
    exact takenFrom_append some_wanted []

theorem fill_taken (some_wanted : 0 < want) {before after : List Piece} {q : Piece}
    (h : r.taken want = before ++ q :: after) :
    ∃ r', r.fill ((before ++ [q]).flatMap Piece.bytes).length =
      (if r.pacing.overflows q.instant then .error (.io .overflow)
        else .ok ((before ++ [q]).flatMap Piece.bytes), r') ∧ r'.clock = q.instant := by
  cases fits : r.pacing.overflows r.clock with
  | true => simp [taken_of_overflow fits] at h
  | false =>
    rw [taken_eq_takenFrom fits some_wanted] at h
    obtain ⟨some_bytes, filled⟩ := fillFrom_taken some_wanted h []
    rw [fill_eq_fillFrom fits some_bytes]
    exact filled

theorem fill_onTime (limited : r.pacing.limit = some limit) (some_wanted : 0 < want) :
    OnTime r.pacing limit want r.clock (r.taken want) (r.fill want) := by
  have soon : r.clock < r.clock + (limit + r.pacing.poll) :=
    Nat.lt_add_of_pos_right (Nat.add_pos_right limit r.pacing.poll_pos)
  cases fits : r.pacing.overflows r.clock with
  | true =>
    rw [taken_of_overflow fits, fill_of_overflow fits]
    exact {
      soon := .singleton _
      after := Nat.le_refl _
      before := soon
      patient := fun silent => absurd (Except.error.inj silent) (r.pacing.silence_ne _).symm
      bounded := Nat.lt_of_lt_of_le soon
        (Nat.add_le_add_left (Nat.le_mul_of_pos_left _ some_wanted) _)
      broken := iff_of_true rfl fits }
  | false =>
    rw [taken_eq_takenFrom fits some_wanted, fill_eq_fillFrom fits some_wanted]
    exact fillFrom_onTime limited some_wanted fits (Nat.le_refl _) soon [] r.arrivals

theorem le_getLastD_of_isChain {gap since : Nat} {instants : List Nat}
    (h : List.IsChain (fun a b => a ≤ b ∧ b < a + gap) (since :: instants)) :
    since ≤ instants.getLastD since := by
  induction instants generalizing since with
  | nil => exact Nat.le_refl since
  | cons t rest ih =>
    obtain ⟨⟨later, -⟩, chain⟩ := List.isChain_cons_cons.1 h
    rw [List.getLastD_cons]
    exact Nat.le_trans later (ih chain)

theorem fill_patient (limited : r.pacing.limit = some limit)
    (silent : (r.fill want).1 = .error r.pacing.silence) :
    r.clock + limit ≤ (r.fill want).2.clock := by
  rcases Nat.eq_zero_or_pos want with rfl | some_wanted
  · unfold fill at silent
    split at silent <;> cases silent
  · have onTime := fill_onTime limited some_wanted
    have started := le_getLastD_of_isChain onTime.soon
    exact Nat.le_trans (Nat.add_le_add_right started limit) (onTime.patient silent)

/-- Behind its sync byte a packet is read from the end of the pause on. -/
theorem readPacket_of_sync {r₁ : Receiver} (settle : Nat)
    (synced : r.fill 1 = (.ok [Marker.sync.byte], r₁)) : ∃ (rest : Reading Packet) (r₂ : Receiver),
      r.readPacket settle = perform rest r₂ ∧ r₂.clock = r₁.clock + pauseFor settle ∧
      r₂.pacing = r₁.pacing ∧
      ∀ b x, Consumes rest b x → Consumes (Packet.reading settle) (Marker.sync.byte :: b) x := by
  refine ⟨_, { r₁ with clock := r₁.clock + pauseFor settle }, ?_, rfl, rfl, fun b x consumes =>
    .fill (b := [Marker.sync.byte]) rfl (consumes_expect_iff.2 (.inl ⟨rfl, .pause consumes⟩))⟩
  rw [readPacket, Packet.reading, perform, synced]
  rfl

/-- The pause behind the sync byte does not count as silence. -/
theorem readPacket_patient {r₁ : Receiver} {settle : Nat} (limited : r.pacing.limit = some limit)
    (synced : r.fill 1 = (.ok [Marker.sync.byte], r₁))
    (silent : (r.readPacket settle).1 = .error r.pacing.silence) :
    r₁.clock + pauseFor settle + limit ≤ (r.readPacket settle).2.clock := by
  obtain ⟨rest, r₂, read, clock, kept₂, consumes_rest⟩ := readPacket_of_sync settle synced
  have kept₁ : r₁.pacing = r.pacing := by
    have := r.fill_pacing 1
    rwa [synced] at this
  -- what the grammar of frames has against a packet is never its silence
  have content (b : Bytes) : ¬ Consumes rest b (.error r.pacing.silence) := by
    intro consumes
    cases framed_of_consumes (consumes_rest b _ consumes)
  rw [read] at silent ⊢
  obtain ⟨r₃, want, fails, last, kept₃, later⟩ := perform_error content silent
  have kept : r₃.pacing = r.pacing := kept₃.trans (kept₂.trans kept₁)
  have patient : r₃.clock + limit ≤ (r₃.fill want).2.clock :=
    fill_patient (kept.symm ▸ limited) (kept.symm ▸ fails)
  rw [last] at patient
  omega

end fills

/-- A fill under a watchdog ends in time, with its bytes, an error of the link or the watchdog's, or
it breaks off where the clock cannot name the next deadline; it does not while all that it may wait
for is within the clock. With the last piece of data taken, or the start, as the last sign of life,
each piece comes less than the limit and one poll behind the last sign of life, and so does the
watchdog's error, but no earlier than the limit. The pieces are all that the fill consumes, and each
of them comes when a fill of just the bytes up to its end is done. While a packet is read, the pause
behind the sync byte does not count as silence. -/
theorem fill_timely (r : Receiver) {limit want : Nat} (limited : r.pacing.limit = some limit)
    (some_wanted : 0 < want) :
    let silent : LinkError := .silent (.ofMillis limit)
    let gap := limit + r.pacing.poll
    ((∃ b, (r.fill want).1 = .ok b) ∨ (∃ cause : IoError, (r.fill want).1 = .error (.io cause)) ∨
      (r.fill want).1 = .error silent ∨ (r.fill want).1 = .error (.io .overflow)) ∧
    ((r.fill want).1 = .error (.io .overflow) ↔ lastInstant < r.lastTaken want + limit) ∧
    (r.clock + want * gap + limit ≤ lastInstant → (r.fill want).1 ≠ .error (.io .overflow)) ∧
    (r.fill want).2.clock < r.clock + want * gap ∧
    List.IsChain (fun earlier later => earlier ≤ later ∧ later < earlier + gap)
      (r.clock :: (r.taken want).map Piece.instant) ∧
    ((r.fill want).1 = .error silent → r.lastTaken want + limit ≤ (r.fill want).2.clock ∧
      (r.fill want).2.clock < r.lastTaken want + gap) ∧
    r.pending = (r.taken want).flatMap Piece.bytes ++ (r.fill want).2.pending ∧
    (∀ before p after, r.taken want = before ++ p :: after →
      let upto := (before ++ [p]).flatMap Piece.bytes
      ∃ r', r'.clock = p.instant ∧ r.fill upto.length =
        (if lastInstant < p.instant + limit then .error (.io .overflow) else .ok upto, r')) ∧
    ∀ settle r₁, r.fill 1 = (.ok [Marker.sync.byte], r₁) →
      (r.readPacket settle).1 = .error silent →
      r₁.clock + pauseFor settle + limit ≤ (r.readPacket settle).2.clock := by
  intro silent gap
  have silence : r.pacing.silence = silent := by simp [Pacing.silence, limited, silent]
  have onTime := fill_onTime limited some_wanted
  have broken : (r.fill want).1 = .error (.io .overflow) ↔ lastInstant < r.lastTaken want + limit :=
    onTime.broken.trans (Pacing.overflows_iff limited _)
  refine ⟨silence ▸ r.fill_result want, broken, ?_, onTime.bounded, onTime.soon, ?_,
    fill_taken_append some_wanted, ?_, ?_⟩
  · intro room breaks
    have late := broken.1 breaks
    have last : r.lastTaken want ≤ (r.fill want).2.clock := onTime.after
    have bounded : (r.fill want).2.clock < r.clock + want * gap := onTime.bounded
    omega
  · intro given_up
    exact ⟨onTime.patient (silence ▸ given_up), onTime.before⟩
  · intro before p after split upto
    obtain ⟨r', filled, clock⟩ := fill_taken some_wanted split
    rw [filled]
    simp only [Pacing.overflows_iff limited]
    exact ⟨r', clock, rfl⟩
  · intro settle r₁ synced given_up
    exact readPacket_patient limited synced (silence ▸ given_up)

/-- A sync byte, one byte 20 ms later, and two empty reads and a silence behind it. -/
def fading : List Arrival := [.data [0xAA], .wait 20, .data [1], .empty, .empty, .wait 3]

/-- The deadline is at 45 ms, the poll that finds it over at 53 ms. -/
theorem fill_timely_fading :
    let r : Receiver := { arrivals := fading, pacing := { limit := some 25 } }
    r.pacing.limit = some 25 ∧ r.taken 3 = [⟨0, [0xAA]⟩, ⟨20, [1]⟩] ∧
    (r.fill 3).1 = .error (.silent (.ofMillis 25)) ∧
    (r.fill 3).2.clock = 53 ∧ (r.fill 3).2.clock < r.clock + 3 * (25 + 10) ∧
    r.lastTaken 3 = 20 ∧ r.lastTaken 3 + 25 ≤ (r.fill 3).2.clock ∧
    (r.fill 3).2.clock < r.lastTaken 3 + (25 + 10) ∧
    (r.readPacket 300).2.clock = 353 ∧ 0 + pauseFor 300 + 25 ≤ (r.readPacket 300).2.clock := by
  intro r
  obtain ⟨-, -, -, bounded, -, patient, -, -, packet⟩ := @fill_timely r 25 3 rfl (by decide)
  have pieces : r.taken 3 = [⟨0, [0xAA]⟩, ⟨20, [1]⟩] := by decide +kernel
  have silent : (r.fill 3).1 = .error (.silent (.ofMillis 25)) := by rfl
  have ended : (r.fill 3).2.clock = 53 := by decide +kernel
  have last : r.lastTaken 3 = 20 := by decide +kernel
  have read : (r.readPacket 300).2.clock = 353 := by decide +kernel
  have synced : r.fill 1 = (.ok [Marker.sync.byte], (r.fill 1).2) := by rfl
  have unread : (r.readPacket 300).1 = .error (.silent (.ofMillis 25)) := by decide +kernel
  exact ⟨rfl, pieces, silent, ended, bounded, last, (patient silent).1, (patient silent).2, read,
    packet 300 _ synced unread⟩

/-- Under the longest watchdog a fill takes nothing of what is there, and breaks off at once. -/
theorem fill_timely_overflow :
    let r : Receiver := { arrivals := fading, pacing := { limit := some longestWatch } }
    (∀ b, (r.fill 1).1 ≠ .ok b) ∧ (∀ cause : IoError, (r.fill 1).1 ≠ .error (.io cause)) ∧
      (r.fill 1).1 ≠ .error (.silent (.ofMillis longestWatch)) ∧
      (r.fill 1).1 = .error (.io .overflow) := by
  intro r
  have late : r.pacing.overflows r.clock = true := by decide +kernel
  rw [fill_of_overflow late]
  simp

end Receiver

end SerialSuite
