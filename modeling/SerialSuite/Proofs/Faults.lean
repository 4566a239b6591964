import SerialSuite.Proofs.Lockstep

/-!
Faulty senders: writes that are cut, stopped or interrupted, and flushes that fail. `Fault` says
what can end the next sends. `sendAll_cases` says that frames are then sent whole, one after the
other, or that a fault within them ends the sends and the bytes taken break off there.
-/

namespace SerialSuite

/-- A write that meets such a stop is tried again, and goes on. -/
def Stop.passable (stop : Stop) : Bool := stop.once && stop.cause = some .interrupted

namespace Sender

/-- The stops that end a send; an interruption without end is one of them. -/
def blocks (s : Sender) : List Stop := s.stops.filter fun stop => !stop.passable

/-- What ends a send within the next so many bytes and flushes. -/
inductive Fault (s : Sender) (bytes count : Nat) : IoError → Prop
  | stop {stop : Stop} : stop ∈ s.blocks → s.taken ≤ stop.position →
      stop.position < s.taken + bytes → Fault s bytes count (stop.cause.getD .wroteNothing)
  | starved : s.perWrite = some 0 → 0 < bytes → Fault s bytes count .wroteNothing
  | flush {k : Nat} : s.badFlush = some k → s.flushes < k → k ≤ s.flushes + count →
      Fault s bytes count s.cause

/-- What becomes of a sender that takes so much data and makes so many flushes without a fault. -/
structure Past (s : Sender) (data : Bytes) (count : Nat) (s' : Sender) : Prop where
  perWrite : s'.perWrite = s.perWrite
  blocks : s'.blocks = s.blocks
  badFlush : s'.badFlush = s.badFlush
  cause : s'.cause = s.cause
  taken : s'.taken = s.taken + data.length
  flushes : s'.flushes = s.flushes + count
  accepted : s'.accepted = s.accepted ++ data
  sound : ∀ cause, ¬ s.Fault data.length count cause

theorem not_fault_zero (s : Sender) (cause : IoError) : ¬ s.Fault 0 0 cause := by
  intro fault
  cases fault with
  | stop _ _ _ => omega
  | starved _ _ => omega
  | flush _ _ _ => omega

section past
variable {s s' s'' : Sender} {a b : Bytes} {j k : Nat} {cause : IoError}

/-- What is ahead of the one is ahead of the other, farther by what lies between. -/
theorem Past.fault_iff (h : s.Past a j s') (n m : Nat) :
    s'.Fault n m cause ↔ s.Fault (a.length + n) (j + m) cause := by
  constructor
  · intro fault
    cases fault with
    | stop hb hl hr =>
      rw [h.blocks] at hb
      rw [h.taken] at hl hr
      exact .stop hb (by omega) (by omega)
    | starved hw hn => exact .starved (h.perWrite ▸ hw) (by omega)
    | flush hf hl hr =>
      rw [h.badFlush] at hf
      rw [h.flushes] at hl hr
      rw [h.cause]
      exact .flush hf (by omega) (by omega)
  · intro fault
    -- it is not in what lies between, since that was passed
    cases fault with
    | stop hb hl hr =>
      rename_i stop
      have beyond : s.taken + a.length ≤ stop.position := by
        rcases Nat.lt_or_ge stop.position (s.taken + a.length) with near | far
        · exact absurd (.stop hb hl near) (h.sound _)
        · exact far
      exact .stop (h.blocks ▸ hb) (by rw [h.taken]; omega) (by rw [h.taken]; omega)
    | starved hw hn =>
      have none_between : a.length = 0 := by
        rcases Nat.eq_zero_or_pos a.length with zero | pos
        · exact zero
        · exact absurd (.starved hw pos) (h.sound _)
      exact .starved (h.perWrite.trans hw) (by omega)
    | flush hf hl hr =>
      rename_i i
      have beyond : s.flushes + j < i := by
        rcases Nat.lt_or_ge (s.flushes + j) i with far | near
        · exact far
        · exact absurd (.flush hf hl near) (h.sound _)
      rw [← h.cause]
      exact .flush (h.badFlush.trans hf) (by rw [h.flushes]; omega) (by rw [h.flushes]; omega)

theorem Past.trans (h : s.Past a j s') (h' : s'.Past b k s'') : s.Past (a ++ b) (j + k) s'' where
  perWrite := h'.perWrite.trans h.perWrite
  blocks := h'.blocks.trans h.blocks
  badFlush := h'.badFlush.trans h.badFlush
  cause := h'.cause.trans h.cause
  taken := by rw [h'.taken, h.taken, List.length_append, Nat.add_assoc]
  flushes := by rw [h'.flushes, h.flushes, Nat.add_assoc]
  accepted := by rw [h'.accepted, h.accepted, List.append_assoc]
  sound cause fault := by
    rw [List.length_append] at fault
    exact h'.sound cause ((h.fault_iff _ _).2 fault)

theorem past_refl (s : Sender) : s.Past [] 0 s :=
  ⟨rfl, rfl, rfl, rfl, rfl, rfl, (List.append_nil _).symm, s.not_fault_zero⟩

end past

/-! One write. -/

theorem room_le {s : Sender} {n : Nat} (h : s.room = some n) :
    (∀ m, s.perWrite = some m → n ≤ m) ∧
      ∀ stop ∈ s.stops, s.taken < stop.position → s.taken + n ≤ stop.position := by
  have least := (List.min?_eq_some_iff.1 h).2
  constructor
  · intro m hm
    exact least m (by simp [hm])
  · intro stop member ahead
    have := least (stop.position - s.taken) (by
      simp only [List.mem_append, List.mem_filterMap]
      exact .inr ⟨stop, member, if_pos ahead⟩)
    omega

theorem perWrite_of_room_zero {s : Sender} (h : s.room = some 0) : s.perWrite = some 0 := by
  have member := (List.min?_eq_some_iff.1 h).1
  simp only [List.mem_append, Option.mem_toList, List.mem_filterMap] at member
  rcases member with own | ⟨stop, -, ahead⟩
  · exact own
  · split at ahead
    · have := Option.some.inj ahead
      omega
    · cases ahead

theorem not_ahead_of_room_none {s : Sender} (h : s.room = none) {stop : Stop}
    (member : stop ∈ s.stops) : ¬ s.taken < stop.position := by
  intro ahead
  have empty := List.min?_eq_none_iff.1 h
  have : stop.position - s.taken ∈ s.perWrite.toList ++ s.stops.filterMap (fun stop =>
      if s.taken < stop.position then some (stop.position - s.taken) else none) := by
    simp only [List.mem_append, List.mem_filterMap]
    exact .inr ⟨stop, member, if_pos ahead⟩
  rw [empty] at this
  cases this

/-- A write ends at the next stop at the latest. -/
theorem cut_le {s : Sender} {data : Bytes} {stop : Stop} (member : stop ∈ s.stops)
    (ahead : s.taken < stop.position) : s.taken + (s.cut data).1.length ≤ stop.position := by
  unfold cut
  cases room : s.room with
  | none => exact absurd ahead (not_ahead_of_room_none room member)
  | some n =>
    have := (room_le room).2 stop member ahead
    simp only [List.splitAt_eq, List.length_take]
    omega

theorem perWrite_of_cut_nil {s : Sender} {data : Bytes} (hd : data ≠ [])
    (h : (s.cut data).1 = []) : s.perWrite = some 0 := by
  unfold cut at h
  cases room : s.room with
  | none => simp [room, hd] at h
  | some n =>
    have : n = 0 := by simpa [room, hd] using h
    exact perWrite_of_room_zero (this ▸ room)

theorem cut_of_starved {s : Sender} (data : Bytes) (h : s.perWrite = some 0) :
    (s.cut data).1 = [] := by
  unfold cut
  cases room : s.room with
  | none =>
    have empty := List.min?_eq_none_iff.1 room
    simp [h] at empty
  | some n =>
    have := (room_le room).1 0 h
    simp [Nat.le_zero.1 this]

theorem blocks_erase {stops : List Stop} {stop : Stop} {p : Stop → Bool}
    (found : stops.find? p = some stop) (passed : stop.passable = true) :
    (stops.eraseP p).filter (fun stop => !stop.passable) =
      stops.filter fun stop => !stop.passable := by
  induction stops with
  | nil => rfl
  | cons first rest ih =>
    by_cases here : p first = true
    · obtain rfl : first = stop := by simpa [here] using found
      simp [here, passed]
    · rw [List.find?_cons_of_neg here] at found
      rw [List.eraseP_cons_of_neg here, List.filter_cons, List.filter_cons, ih found]

theorem halt_eq (s : Sender) (stop : Stop) : ∃ e : SinkEvent, e.bytes = [] ∧
    s.halt stop = (stop.cause.getD .wroteNothing,
      ({ s with stops := if stop.once then s.stops.eraseP (·.position = s.taken) else s.stops
        }).record e) := by
  unfold halt
  cases stop.cause <;> cases stop.once <;> exact ⟨_, rfl, rfl⟩

/-- What a write comes to. -/
inductive Wrote (s : Sender) (data : Bytes) : Except IoError Bytes × Sender → Prop
  | took {piece rest : Bytes} {s' : Sender} : data = piece ++ rest → s.Past piece 0 s' →
      Wrote s data (.ok rest, s')
  | passed {s' : Sender} : s'.stops.length < s.stops.length → s.Past [] 0 s' →
      Wrote s data (.error .interrupted, s')
  | failed {cause : IoError} {s' : Sender} :
      ¬ (cause = .interrupted ∧ s'.stops.length < s.stops.length) →
      s'.accepted = s.accepted → s.Fault data.length 0 cause → Wrote s data (.error cause, s')

theorem take_past {s : Sender} {data : Bytes}
    (free : ∀ stop ∈ s.stops, stop.position ≠ s.taken) (hp : (s.cut data).1 ≠ []) :
    s.Past (s.cut data).1 0 (s.take (s.cut data).1) where
  perWrite := rfl
  blocks := rfl
  badFlush := rfl
  cause := rfl
  taken := rfl
  flushes := rfl
  accepted := accepted_record _ _
  sound cause fault := by
    cases fault with
    | stop hb hl hr =>
      rename_i stop
      have member : stop ∈ s.stops := (List.mem_filter.1 hb).1
      have := free stop member
      have := @cut_le s data stop member (by omega)
      omega
    | starved hw hn => exact hp (cut_of_starved data hw)
    | flush hf hl hr => omega

theorem halt_wrote {s : Sender} {data : Bytes} {stop : Stop} (hd : data ≠ [])
    (found : s.stops.find? (·.position = s.taken) = some stop) :
    s.Wrote data (.error (s.halt stop).1, (s.halt stop).2) := by
  obtain ⟨e, silent, halted⟩ := halt_eq s stop
  have member := List.mem_of_find?_eq_some found
  have here : stop.position = s.taken := by simpa using List.find?_some found
  have pos := List.length_pos_iff.2 hd
  rw [halted]
  cases passable : stop.passable with
  | true =>
    obtain ⟨once, interrupts⟩ : stop.once = true ∧ stop.cause = some .interrupted := by
      simpa [Stop.passable] using passable
    have shorter := List.length_eraseP_of_mem member (p := (·.position = s.taken)) (by simp [here])
    have pos := List.length_pos_of_mem member
    rw [interrupts, once]
    refine .passed ?_ ⟨rfl, blocks_erase found passable, rfl, rfl, rfl, rfl, ?_, s.not_fault_zero⟩
    · simp only [record, if_true]
      omega
    · rw [accepted_record, silent]
      rfl
  | false =>
    refine .failed ?_ ?_ (.stop ?_ (by omega) (by omega))
    · rintro ⟨interrupts, shorter⟩
      -- only a stop that is there once leaves the list
      cases once : stop.once with
      | false => simp [record, once] at shorter
      | true =>
        have : stop.cause = some .interrupted := by
          cases hc : stop.cause with
          | none => simp [hc, IoError.interrupted] at interrupts
          | some cause => simpa [hc] using interrupts
        simp [Stop.passable, once, this] at passable
    · rw [accepted_record, silent, List.append_nil]
      rfl
    · exact List.mem_filter.2 ⟨member, by simp [passable]⟩

theorem write_wrote (s : Sender) {data : Bytes} (nonempty : ¬ data.isEmpty = true) :
    s.Wrote data (s.write data) := by
  have hd : data ≠ [] := by simpa using nonempty
  unfold write
  cases found : s.stops.find? (·.position = s.taken) with
  | some stop => exact halt_wrote hd found
  | none =>
    dsimp only
    split
    · rename_i nothing
      have starved := perWrite_of_cut_nil hd nothing
      refine .failed (by simp [IoError.interrupted]) ?_
        (.starved starved (List.length_pos_iff.2 hd))
      rw [accepted_record]
      exact List.append_nil _
    · rename_i something
      have free : ∀ stop ∈ s.stops, stop.position ≠ s.taken := by
        simpa using found
      exact .took (s.cut_append data).symm (take_past free something)

/-! All of the data, a frame, several frames. -/

theorem writeAll_cases (s : Sender) (data : Bytes) :
    (∃ s', s.writeAll data = (.ok (), s') ∧ s.Past data 0 s') ∨
      ∃ cause s' part, s.writeAll data = (.error cause, s') ∧ part <+: data ∧
        s'.accepted = s.accepted ++ part ∧ s.Fault data.length 0 cause := by
  fun_induction writeAll s data with
  | case1 s data empty =>
    obtain rfl : data = [] := by simpa using empty
    exact .inl ⟨s, rfl, s.past_refl⟩
  | case2 s data nonempty rest s' written ih =>
    have wrote := s.write_wrote nonempty
    rw [written] at wrote
    cases wrote with
    | took hd past =>
      rename_i piece
      subst hd
      rcases ih with ⟨s'', all, later⟩ | ⟨cause, s'', part, failed, front, taken, fault⟩
      · exact .inl ⟨s'', all, past.trans later⟩
      · refine .inr ⟨cause, s'', piece ++ part, failed,
          (List.prefix_append_right_inj _).2 front, ?_, ?_⟩
        · rw [taken, past.accepted, List.append_assoc]
        · rw [List.length_append]
          exact (past.fault_iff _ _).1 fault
  | case3 s data nonempty cause s' written again ih =>
    have wrote := s.write_wrote nonempty
    rw [written] at wrote
    cases wrote with
    | passed _ past =>
      rcases ih with ⟨s'', all, later⟩ | ⟨cause, s'', part, failed, front, taken, fault⟩
      · exact .inl ⟨s'', all, past.trans later⟩
      · refine .inr ⟨cause, s'', part, failed, front, ?_, ?_⟩
        · rw [taken, past.accepted, List.append_nil]
        · simpa using (past.fault_iff _ _).1 fault
    | failed final => exact absurd again final
  | case4 s data nonempty cause s' written ended =>
    have wrote := s.write_wrote nonempty
    rw [written] at wrote
    cases wrote with
    | passed shorter => exact absurd ⟨rfl, shorter⟩ ended
    | failed _ kept fault =>
      exact .inr ⟨cause, s', [], rfl, List.nil_prefix, by rw [kept, List.append_nil], fault⟩

/-- A frame is taken whole and flushed, or a fault ends its send. -/
theorem send_cases (s : Sender) (f : Bytes) :
    (∃ s', s.send f = (.ok (), s') ∧ s.Past f 1 s') ∨
      ∃ (cause : IoError) (s' : Sender) (part : Bytes),
        s.send f = (.error (.io cause), s') ∧ part <+: f ∧
        s'.accepted = s.accepted ++ part ∧ s.Fault f.length 1 cause := by
  rcases s.writeAll_cases f with ⟨s', all, past⟩ | ⟨cause, s', part, failed, front, taken, fault⟩
  · by_cases bad : s'.badFlush = some (s'.flushes + 1)
    · have flushed : s'.Fault 0 1 s'.cause := .flush bad (by omega) (by omega)
      refine .inr ⟨s'.cause, { s' with flushes := s'.flushes + 1 }.record .flushFailed, f, ?_,
        List.prefix_rfl, ?_, (past.fault_iff 0 1).1 flushed⟩
      · simp only [send, all, flush, bad, if_true]
      · rw [accepted_record, ← past.accepted]
        exact List.append_nil _
    · have once : s'.Past [] 1 ({ s' with flushes := s'.flushes + 1 }.record .flushed) := by
        refine ⟨rfl, rfl, rfl, rfl, rfl, rfl, accepted_record _ _, ?_⟩
        intro cause fault
        cases fault with
        | stop _ hl hr => simp at hr; omega
        | starved _ hn => simp at hn
        | flush hf hl hr =>
          rename_i k
          obtain rfl : k = s'.flushes + 1 := by omega
          exact bad hf
      refine .inl ⟨_, ?_, by simpa using past.trans once⟩
      simp only [send, all, flush, if_neg bad]
  · refine .inr ⟨cause, s', part, ?_, front, taken, ?_⟩
    · simp only [send, failed]
    · cases fault with
      | stop hb hl hr => exact .stop hb hl hr
      | starved hw hn => exact .starved hw hn
      | flush _ _ _ => omega

/-- Frames of which some are taken whole, the next one in part or without its flush, and none behind
it: a fault within that one ended the sends. -/
structure BreaksOff (s : Sender) (frames : List Bytes) (cause : IoError) (s' : Sender) : Prop where
  split : ∃ before f after part, frames = before ++ f :: after ∧ part <+: f ∧
    s'.accepted = s.accepted ++ before.flatten ++ part ∧
    (∀ c, ¬ s.Fault before.flatten.length before.length c) ∧
    s.Fault (before.flatten ++ f).length (before.length + 1) cause

theorem BreaksOff.prefix {s s' : Sender} {frames : List Bytes} {cause : IoError}
    (h : s.BreaksOff frames cause s') : s'.accepted <+: s.accepted ++ frames.flatten := by
  obtain ⟨before, f, after, part, rfl, ⟨rest, rfl⟩, taken, -, -⟩ := h.split
  refine ⟨rest ++ after.flatten, ?_⟩
  simp [taken]

/-- Nothing that is not a write matters to where the bytes break off. -/
theorem BreaksOff.of_accepted {s s' s'' : Sender} {frames : List Bytes} {cause : IoError}
    (h : s.BreaksOff frames cause s') (same : s''.accepted = s'.accepted) :
    s.BreaksOff frames cause s'' := by
  obtain ⟨before, f, after, part, split, front, taken, rest⟩ := h.split
  exact ⟨before, f, after, part, split, front, same.trans taken, rest⟩

theorem BreaksOff.append {s s' : Sender} {frames : List Bytes} {cause : IoError}
    (h : s.BreaksOff frames cause s') (more : List Bytes) :
    s.BreaksOff (frames ++ more) cause s' := by
  obtain ⟨before, f, after, part, rfl, rest⟩ := h.split
  exact ⟨before, f, after ++ more, part, by simp, rest⟩

/-- What breaks off behind frames that were taken. -/
theorem Past.breaksOff {s s' s'' : Sender} {sent frames : List Bytes} {cause : IoError}
    (past : s.Past sent.flatten sent.length s') (h : s'.BreaksOff frames cause s'') :
    s.BreaksOff (sent ++ frames) cause s'' := by
  obtain ⟨before, f, after, part, rfl, front, taken, unhurt, fault⟩ := h.split
  refine ⟨sent ++ before, f, after, part, by simp, front, ?_, ?_, ?_⟩
  · rw [taken, past.accepted, List.flatten_append]
    simp only [List.append_assoc]
  · intro c hc
    rw [List.flatten_append, List.length_append, List.length_append] at hc
    exact unhurt c ((past.fault_iff _ _).2 hc)
  · have := (past.fault_iff _ _).1 fault
    rwa [← List.length_append, ← List.append_assoc, ← List.flatten_append, ← Nat.add_assoc,
      ← List.length_append] at this

/-- Frames are sent whole, one after the other, up to the first fault. -/
theorem sendAll_cases (s : Sender) (frames : List Bytes) :
    (∃ s', s.sendAll frames = (.ok (), s') ∧ s.Past frames.flatten frames.length s') ∨
      ∃ (cause : IoError) (s' : Sender), s.sendAll frames = (.error (.io cause), s') ∧
        s.BreaksOff frames cause s' := by
  induction frames generalizing s with
  | nil => exact .inl ⟨s, rfl, s.past_refl⟩
  | cons f rest ih =>
    rcases s.send_cases f with ⟨s', sent, past⟩ | ⟨cause, s', part, unsent, front, taken, fault⟩
    · have one : s.Past [f].flatten [f].length s' := by simpa using past
      rcases ih s' with ⟨s'', all, later⟩ | ⟨cause, s'', failed, broken⟩
      · refine .inl ⟨s'', (sendAll_of_sent sent rest).trans all, ?_⟩
        simpa [Nat.add_comm] using one.trans later
      · exact .inr ⟨cause, s'', (sendAll_of_sent sent rest).trans failed, one.breaksOff broken⟩
    · refine .inr ⟨cause, s', sendAll_of_unsent unsent rest,
        [], f, rest, part, rfl, front, ?_, ?_, ?_⟩
      · simpa using taken
      · exact s.not_fault_zero
      · simpa using fault

theorem flush_accepted (s : Sender) : (s.flush).2.accepted = s.accepted := by
  unfold flush
  dsimp only
  split <;> exact (accepted_record _ _).trans (List.append_nil _)

theorem shutdown_accepted (s : Sender) : (s.shutdown).2.accepted = s.accepted := by
  unfold shutdown
  split <;> exact (accepted_record _ _).trans (List.append_nil _)

/-- Closing takes no bytes. -/
theorem close_accepted (s : Sender) : (s.close).2.accepted = s.accepted := by
  have flushed := s.flush_accepted
  unfold close
  split <;> rename_i h <;> rw [h] at flushed
  · exact flushed
  · exact (shutdown_accepted _).trans flushed

end Sender

/-- Ending a run sends nothing. -/
theorem Run.ended_accepted (r : Run) (result : Except RunError Ending)
    (journal : Array Diagnostic) :
    (r.ended result journal).sender.accepted = r.sender.accepted := by
  unfold ended
  split
  · rfl
  · exact r.sender.close_accepted

end SerialSuite
