import SerialSuite.Proofs.Grammar
import SerialSuite.Receiver

/-!
Steady receivers: no watchdog, no read that fails. What they give to a reader depends on the bytes
still to come and on nothing else: not on the pieces in which these arrive, nor on silences, empty
reads or pauses between them (`perform_consumes`, `perform_starved`). For packets that is the
grammar of frames (`readPacket_exact`).
-/

namespace SerialSuite.Receiver

/-- No watchdog runs, and no read fails. -/
structure Steady (r : Receiver) : Prop where
  unwatched : r.pacing.limit = none
  faultless : ∀ cause, Arrival.fail cause ∉ r.arrivals

/-- A fill of a steady receiver ends with all its bytes, or with the last arrival. -/
inductive Settled : Except LinkError Bytes × Receiver → Prop
  | filled {b r} : r.Steady → Settled (.ok b, r)
  | ran_out {r} : r.Steady → r.arrivals = [] → Settled (.error (.io exhausted), r)

theorem faultless_tail {a : Arrival} {rest : List Arrival}
    (h : ∀ cause, Arrival.fail cause ∉ a :: rest) : ∀ cause, Arrival.fail cause ∉ rest :=
  fun cause hc => h cause (List.mem_cons_of_mem a hc)

theorem fillFrom_settled {pacing : Pacing} {want : Nat} {got : List Bytes} {since now held : Nat}
    {arrivals : List Arrival} (hl : pacing.limit = none)
    (hf : ∀ cause, Arrival.fail cause ∉ arrivals) :
    Settled (fillFrom pacing want got since now held arrivals) := by
  have no_deadline (t : Nat) : pacing.deadline t = none := by simp [Pacing.deadline, hl]
  fun_induction fillFrom pacing want got since now held arrivals with
  | case1 want got since now held arrivals t ht => simp [no_deadline, release] at ht
  | case2 => exact .ran_out ⟨hl, by simp⟩ rfl
  | case3 want got since now held t _ d hd => simp [no_deadline] at hd
  | case4 _ _ _ _ _ _ _ _ _ _ _ _ _ ih => exact ih (faultless_tail hf)
  | case5 want got since now held t _ bytes rest piece left _ _ ho =>
    simp [Pacing.overflows_of_unlimited hl] at ho
  | case6 _ _ _ _ _ _ _ _ _ _ _ _ _ _ _ ih => exact ih (faultless_tail hf)
  | case7 => exact .filled ⟨hl, fun cause hc => hf cause (by simp_all)⟩
  | case8 want got since now held t _ rest hd => simp [no_deadline] at hd
  | case9 _ _ _ _ _ _ _ _ _ ih => exact ih (faultless_tail hf)
  | case10 _ _ _ _ _ _ _ _ _ ih => exact ih (faultless_tail hf)
  | case11 want got since now held t _ cause rest => exact absurd (by simp) (hf cause)

theorem Steady.fits {r : Receiver} (h : r.Steady) (since : Nat) :
    r.pacing.overflows since = false :=
  Pacing.overflows_of_unlimited h.unwatched since

theorem fill_settled {r : Receiver} (h : r.Steady) (want : Nat) : Settled (r.fill want) := by
  rcases Nat.eq_zero_or_pos want with rfl | pos
  · simp only [fill, h.fits]
    exact .filled h
  · rw [fill_eq_fillFrom (h.fits _) pos]
    exact fillFrom_settled h.unwatched h.faultless

theorem fill_of_le {r : Receiver} {want : Nat} (h : r.Steady) (hw : want ≤ r.pending.length) :
    ∃ r', r.fill want = (.ok (r.pending.take want), r') ∧ r'.Steady ∧
      r'.pending = r.pending.drop want := by
  have took := fill_took r want
  have settled := fill_settled h want
  generalize r.fill want = result at took settled ⊢
  cases settled with
  | filled hr =>
    rename_i b r'
    cases took with
    | ok hl hb => exact ⟨r', by rw [hb, List.take_left' hl], hr, by rw [hb, List.drop_left' hl]⟩
  | ran_out hr ha =>
    cases took with
    | error lost hl hb =>
      -- all that was still to come is lost, and it was too little
      rw [hb] at hw
      simp [pending, ha] at hw
      omega

theorem fill_of_lt {r : Receiver} {want : Nat} (h : r.Steady) (hw : r.pending.length < want) :
    ∃ r', r.fill want = (.error (.io exhausted), r') ∧ r'.Steady ∧ r'.pending = [] := by
  have took := fill_took r want
  have settled := fill_settled h want
  generalize r.fill want = result at took settled ⊢
  cases settled with
  | filled hr =>
    cases took with
    | ok hl hb =>
      rw [hb, List.length_append] at hw
      omega
  | ran_out hr ha =>
    rename_i r'
    exact ⟨r', rfl, hr, by simp [pending, ha]⟩

/-- What a reader consumes it gets from any steady receiver that has it next. -/
theorem perform_consumes {reading : Reading α} {b rest : Bytes} {x : Except LinkError α}
    {r : Receiver} (hc : Consumes reading b x) (h : r.Steady) (hp : r.pending = b ++ rest) :
    ∃ r', perform reading r = (x, r') ∧ r'.Steady ∧ r'.pending = rest := by
  -- the reader's fills take the bytes off the front, one after the other
  induction hc generalizing r with
  | done => exact ⟨r, rfl, h, hp⟩
  | pause _ ih => exact ih ⟨h.unwatched, h.faultless⟩ hp
  | fill hl _ ih =>
    rename_i count next b c x _
    rw [List.append_assoc] at hp
    have enough : count ≤ r.pending.length := by simp [hp, hl]
    obtain ⟨r₁, filled, h₁, hp₁⟩ := fill_of_le h enough
    rw [hp, List.take_left' hl] at filled
    rw [hp, List.drop_left' hl] at hp₁
    simp only [perform, filled]
    exact ih h₁ hp₁

/-- A reader that needs more than what is still to come gets the error of the last arrival. -/
theorem perform_starved {reading : Reading α} {r : Receiver} (h : r.Steady)
    (hc : ∀ b x rest, Consumes reading b x → r.pending ≠ b ++ rest) :
    ∃ r', perform reading r = (.error (.io exhausted), r') ∧ r'.Steady ∧ r'.pending = [] := by
  induction reading generalizing r with
  | done result => exact absurd rfl (hc [] result r.pending (.done result))
  | pause ms next ih =>
    exact ih ⟨h.unwatched, h.faultless⟩ fun b x rest hb => hc b x rest (.pause hb)
  | fill count next ih =>
    rcases Nat.lt_or_ge r.pending.length count with short | enough
    · obtain ⟨r₁, starved, h₁, hp₁⟩ := fill_of_lt h short
      exact ⟨r₁, by simp only [perform, starved], h₁, hp₁⟩
    · obtain ⟨r₁, filled, h₁, hp₁⟩ := fill_of_le h enough
      simp only [perform, filled]
      apply ih _ h₁
      intro b x rest hb he
      apply hc (r.pending.take count ++ b) x rest (.fill (List.length_take_of_le enough) hb)
      rw [List.append_assoc, ← he, hp₁, List.take_append_drop]

theorem readPacket_framed {r : Receiver} {front rest : Bytes} {x : Except LinkError Packet}
    (settle : Nat) (h : r.Steady) (hf : Framed front x) (hp : r.pending = front ++ rest) :
    ∃ r', r.readPacket settle = (x, r') ∧ r'.Steady ∧ r'.pending = rest :=
  perform_consumes (consumes_of_framed settle hf) h hp

theorem readPacket_take {r : Receiver} {n : Nat} {x : Except LinkError Packet} (settle : Nat)
    (h : r.Steady) (hf : Framed (r.pending.take n) x) :
    (r.readPacket settle).1 = x ∧ (r.readPacket settle).2.pending = r.pending.drop n := by
  obtain ⟨r', read, -, hp⟩ := readPacket_framed settle h hf (List.take_append_drop ..).symm
  rw [read]
  exact ⟨rfl, hp⟩

theorem readPacket_endsEarly {r : Receiver} (settle : Nat) (h : r.Steady)
    (he : EndsEarly r.pending) :
    ∃ r', r.readPacket settle = (.error (.io exhausted), r') ∧ r'.Steady ∧ r'.pending = [] :=
  perform_starved h fun _ _ _ hb => not_framed_of_endsEarly he (framed_of_consumes hb)

theorem readPacket_steady {r : Receiver} (settle : Nat) (h : r.Steady) :
    (r.readPacket settle).2.Steady := by
  by_cases he : EndsEarly r.pending
  · obtain ⟨r', read, hr, -⟩ := readPacket_endsEarly settle h he
    rwa [read]
  · obtain ⟨front, x, rest, hf, hp⟩ := exists_framed he
    obtain ⟨r', read, hr, -⟩ := readPacket_framed settle h hf hp
    rwa [read]

/-- Without a watchdog no deadline is too late for the clock. -/
theorem readPacket_whole {r : Receiver} (settle : Nat) (h : r.Steady) :
    (r.readPacket settle).1 ≠ .error (.io .overflow) := by
  by_cases he : EndsEarly r.pending
  · obtain ⟨r', read, -, -⟩ := readPacket_endsEarly settle h he
    simp [read]
  · obtain ⟨front, x, rest, hf, hp⟩ := exists_framed he
    obtain ⟨r', read, -, -⟩ := readPacket_framed settle h hf hp
    rw [read]
    rintro rfl
    cases hf

theorem encode_eq_ok_iff {p : Packet} {frame : Bytes} :
    p.encode = .ok frame ↔ p.payload.length ≤ Packet.maxPayload ∧ frame = p.frame := by
  unfold Packet.encode
  split <;> rename_i fits
  · simp [fits, eq_comm]
  · simp [fits]

/-- A packet is read exactly if its frame stands at the front of what is still to come. -/
theorem readPacket_ok_iff {r : Receiver} {p : Packet} (settle : Nat) (h : r.Steady) :
    (r.readPacket settle).1 = .ok p ↔ ∃ frame, p.encode = .ok frame ∧ frame <+: r.pending := by
  constructor
  · intro hp
    by_cases he : EndsEarly r.pending
    · obtain ⟨r', read, -, -⟩ := readPacket_endsEarly settle h he
      simp [read] at hp
    · obtain ⟨front, x, rest, hf, hb⟩ := exists_framed he
      obtain ⟨r', read, -, -⟩ := readPacket_framed settle h hf hb
      rw [read] at hp
      subst hp
      cases hf with
      | packet fits => exact ⟨p.frame, encode_eq_ok_iff.2 ⟨fits, rfl⟩, rest, hb.symm⟩
  · rintro ⟨frame, encoded, rest, hb⟩
    obtain ⟨fits, rfl⟩ := encode_eq_ok_iff.1 encoded
    obtain ⟨r', read, -, -⟩ := readPacket_framed settle h (.packet fits) hb.symm
    rw [read]

/-- The reader of packets accepts the grammar of frames, however the bytes `B` arrive and however
long it settles: a packet for a frame, and of a frame only; an error with the offending byte at the
first wrong marker; the link's own error only where `B` ends before one of these is decided. What
was consumed is what is no longer to come. -/
theorem readPacket_exact {r : Receiver} {B : Bytes} (settle : Nat) (h : r.Steady)
    (hB : r.pending = B) :
    (∀ p, (r.readPacket settle).1 = .ok p ↔ ∃ frame, p.encode = .ok frame ∧ frame <+: B) ∧
    (∀ p frame, (r.readPacket settle).1 = .ok p → p.encode = .ok frame →
      B = frame ++ (r.readPacket settle).2.pending) ∧
    (∀ found, B[0]? = some found → found ≠ 0xAA →
      (r.readPacket settle).1 = .error (.misframed .sync 0xAA found) ∧
      (r.readPacket settle).2.pending = B.drop 1) ∧
    (∀ found, B[0]? = some 0xAA → B[5]? = some found → found ≠ 0xBB →
      (r.readPacket settle).1 = .error (.misframed .startOfData 0xBB found) ∧
      (r.readPacket settle).2.pending = B.drop 6) ∧
    (∀ found, B[0]? = some 0xAA → B[5]? = some 0xBB → B[6 + sizeAt B]? = some found →
      found ≠ 0xCC →
      (r.readPacket settle).1 = .error (.misframed .endOfData 0xCC found) ∧
      (r.readPacket settle).2.pending = B.drop (7 + sizeAt B)) ∧
    ((r.readPacket settle).1 = .error (.io exhausted) ↔ EndsEarly B) ∧
    (EndsEarly B → (r.readPacket settle).2.pending = []) := by
  subst hB
  refine ⟨fun p => readPacket_ok_iff settle h, ?_, ?_, ?_, ?_, ⟨?_, ?_⟩, ?_⟩
  · intro p frame read encoded
    obtain ⟨-, rfl⟩ := encode_eq_ok_iff.1 encoded
    exact readPacket_ok (Prod.ext read rfl)
  · intro found h0 hf
    exact readPacket_take settle h (framed_take_one h0 hf)
  · intro found h0 h5 hf
    exact readPacket_take settle h (framed_take_six h0 h5 hf)
  · intro found h0 h5 h6 hf
    exact readPacket_take settle h ((framed_take_frame h0 h5 h6).2 hf)
  · intro starved
    by_cases he : EndsEarly r.pending
    · exact he
    · -- a stream that is decided is never answered with an error of the link
      obtain ⟨front, x, rest, hf, hb⟩ := exists_framed he
      obtain ⟨r', read, -, -⟩ := readPacket_framed settle h hf hb
      rw [read] at starved
      subst starved
      cases hf
  · intro he
    obtain ⟨r', read, -, -⟩ := readPacket_endsEarly settle h he
    rw [read]
  · intro he
    obtain ⟨r', read, -, hp⟩ := readPacket_endsEarly settle h he
    rw [read, hp]

/-- A request in three pieces, with an empty read and a silence in between, and one byte more. -/
def piecemeal : List Arrival :=
  [.data [0xAA, 2], .empty, .data [0, 0, 1, 0xBB], .wait 40, .data [0x11, 0xCC, 7]]

theorem readPacket_exact_piecemeal :
    let r : Receiver := { arrivals := piecemeal }
    r.Steady ∧ r.pending = [0xAA, 2, 0, 0, 1, 0xBB, 0x11, 0xCC, 7] ∧
    (r.readPacket 300).1 = .ok ⟨2, [0x11]⟩ ∧ (r.readPacket 300).2.pending = [7] := by
  intro r
  have steady : r.Steady := ⟨rfl, by simp [r, piecemeal]⟩
  have pending : r.pending = [0xAA, 2, 0, 0, 1, 0xBB, 0x11, 0xCC, 7] := rfl
  obtain ⟨accepted, consumed, -⟩ := readPacket_exact 300 steady pending
  have read := (accepted ⟨2, [0x11]⟩).2 ⟨[0xAA, 2, 0, 0, 1, 0xBB, 0x11, 0xCC], rfl, [7], rfl⟩
  have left := consumed _ [0xAA, 2, 0, 0, 1, 0xBB, 0x11, 0xCC] read rfl
  exact ⟨steady, pending, read, by simpa using left.symm⟩

end SerialSuite.Receiver
