import SerialSuite.Proofs.Course

/-!
Saving and restoring: what the host writes in a run on a list of packets, byte for byte, and what
the target reads back from it (`handshake`).
-/

namespace SerialSuite

namespace Heard

theorem state?_fits {payload state : Bytes} (fits : payload.length ≤ Packet.maxPayload)
    (h : (ofPayload payload).state? = some state) : state.length ≤ SavedState.maxLength := by
  have means := decode_means fits
  generalize Message.decode payload = decoded at means
  generalize Heard.ofPayload payload = x at means h
  cases means with
  | start name nightlyOnly saved => exact Option.some.inj h ▸ saved.length_le
  | result outcome isFinal saved => exact Option.some.inj h ▸ saved.length_le
  | _ => cases h

end Heard

namespace History

/-- A history is made of what stood before, and of packets of the course. -/
theorem mem_of_course {m : Mode} {before : History} {ps : List Packet} {c : History × Heard}
    (hc : c ∈ course m before ps) {y : Heard} (hy : y ∈ c.2 :: c.1) :
    y ∈ before ∨ ∃ p ∈ ps, y = .ofPayload p.payload := by
  -- what a packet adds to the history before the next one is heard in that packet
  induction ps generalizing before with
  | nil => cases hc
  | cons p rest ih =>
    rcases List.mem_cons.1 hc with rfl | later
    · rcases List.mem_cons.1 hy with rfl | old
      · exact .inr ⟨p, List.mem_cons_self, rfl⟩
      · exact .inl old
    · split at later
      · rcases ih later with old | ⟨q, hq, rfl⟩
        · rcases List.mem_cons.1 old with rfl | older
          · exact .inr ⟨p, List.mem_cons_self, rfl⟩
          · exact .inl older
        · exact .inr ⟨q, List.mem_cons_of_mem p hq, rfl⟩
      · cases later

/-- Whatever is held on a course could be saved. -/
theorem held_fits {m : Mode} {ps : List Packet} {c : History × Heard} {state : Bytes}
    (fits : ∀ p ∈ ps, p.payload.length ≤ Packet.maxPayload) (hc : c ∈ course m [] ps)
    (h : held (c.2 :: c.1) = some state) : state.length ≤ SavedState.maxLength := by
  obtain ⟨y, hy, from_y⟩ := List.exists_of_findSome?_eq_some h
  rcases mem_of_course hc hy with old | ⟨p, hp, rfl⟩
  · cases old
  · exact Heard.state?_fits (fits p hp) from_y

theorem response_eq_packet {state : Option Bytes}
    (h : ∀ b ∈ state, b.length ≤ SavedState.maxLength) :
    ∃ saved : Option SavedState, saved.map SavedState.bytes = state ∧
      response state = (Message.stateResponse saved).packet := by
  cases state with
  | none => exact ⟨none, rfl, rfl⟩
  | some b => exact ⟨some ⟨b, h b rfl⟩, rfl, rfl⟩

/-- The target gets back what is held. -/
theorem response_read {state : Option Bytes} {receiver : Receiver} {rest : Bytes} (settle : Nat)
    (h : ∀ b ∈ state, b.length ≤ SavedState.maxLength) (steady : receiver.Steady)
    (hp : receiver.pending = (response state).frame ++ rest) :
    ∃ payload saved receiver', receiver.readPacket settle = (.ok ⟨0, payload⟩, receiver') ∧
      receiver'.pending = rest ∧ Message.decode payload = .ok (.stateResponse saved) ∧
      saved.map SavedState.bytes = state := by
  obtain ⟨saved, bytes_eq, response_eq⟩ := response_eq_packet h
  have fits : (response state).payload.length ≤ Packet.maxPayload := by
    rw [response_eq]
    exact Suite.stateReply_fits { progress := { saved } }
  obtain ⟨receiver', read, -, left⟩ :=
    Receiver.readPacket_framed settle steady (.packet fits) hp
  refine ⟨(response state).payload, saved, receiver', read, left, ?_, bytes_eq⟩
  rw [response_eq]
  exact Message.decode_encode _

theorem frames_replies (c : List (History × Heard)) : (replies c).flatMap Packet.frame =
    c.flatMap fun (before, x) =>
      (List.replicate x.pulses (response (held (x :: before))).frame).flatten := by
  induction c with
  | nil => rfl
  | cons _ _ ih =>
    rw [replies, List.flatMap_cons, List.flatMap_append, ← replies, ih, List.flatMap_cons]
    simp [answers, List.flatMap_def]

end History

open History

theorem init_frame (nightly : Bool) : (Message.init nightly).packet.frame =
    [0xAA, 0, 0, 0, 1, 0xBB, if nightly then 0x67 else 0x66, 0xCC] := by
  cases nightly <;> rfl

/-- The host writes its init frame; then, for each packet up to the one that ends the run, one
response to a request, two to a start or a result, and nothing to anything else. It reads no packet
behind that one. Each response has kind 0 and is read back as the state of the latest start or
result, byte for byte. -/
theorem handshake {r : Run} {ps : List Packet} (h : r.Ready)
    (fits : ∀ p ∈ ps, p.payload.length ≤ Packet.maxPayload)
    (hp : r.receiver.pending = ps.flatMap Packet.frame) :
    (r.finish).2.sender.accepted =
      [0xAA, 0, 0, 0, 1, 0xBB, if r.suite.mode.nightly then 0x67 else 0x66, 0xCC] ++
      (course r.suite.mode [] ps).flatMap (fun (before, x) =>
        (List.replicate x.pulses (response (held (x :: before))).frame).flatten) ∧
    (r.finish).2.receiver.pending =
      (ps.drop (course r.suite.mode [] ps).length).flatMap Packet.frame ∧
    ∀ before x, (before, x) ∈ course r.suite.mode [] ps →
      ∀ (receiver : Receiver) (settle : Nat) (rest : Bytes), receiver.Steady →
        receiver.pending = (response (held (x :: before))).frame ++ rest →
        ∃ payload saved receiver', receiver.readPacket settle = (.ok ⟨0, payload⟩, receiver') ∧
          receiver'.pending = rest ∧ Message.decode payload = .ok (.stateResponse saved) ∧
          saved.map SavedState.bytes = held (x :: before) := by
  have came := Run.finish_course h fits hp
  refine ⟨?_, ?_, ?_⟩
  · rw [came.accepted, init_frame, frames_replies]
  · rw [came.left, verdict_left]
  · intro before x hx receiver settle rest steady read
    apply response_read settle _ steady read
    intro b hb
    exact held_fits fits hx hb

/-- A request, a start with two bytes of state, a final result with one, a request that ends the
run, and one more. -/
def rebooting : List Packet :=
  [⟨2, [0x11]⟩, ⟨2, [0x33, 0, 0, 0, 0, 0, 0, 0, 16, 32] ++ List.replicate 96 0⟩,
    ⟨2, [0x44, 0, 0, 0, 0, 0, 0, 0, 48]⟩, ⟨2, [0x11]⟩, ⟨7, [0x11]⟩]

theorem handshake_rebooting :
    let bytes := rebooting.flatMap Packet.frame
    let r : Run := { receiver := { arrivals := [.data (bytes.take 3), .wait 7,
      .data ((bytes.drop 3).take 40), .empty, .data (bytes.drop 43)] } }
    r.Ready ∧ (∀ p ∈ rebooting, p.payload.length ≤ Packet.maxPayload) ∧
      r.receiver.pending = bytes ∧
      (r.finish).2.sender.accepted = [0xAA, 0, 0, 0, 1, 0xBB, 0x66, 0xCC] ++
        (response none).frame ++ (response (some [16, 32])).frame ++
        (response (some [16, 32])).frame ++ (response (some [48])).frame ++
        (response (some [48])).frame ++ (response (some [48])).frame ∧
      (r.finish).2.receiver.pending = Packet.frame ⟨7, [0x11]⟩ := by
  intro bytes r
  have ready : r.Ready :=
    ⟨⟨rfl, by simp [r]⟩, ⟨by simp [r], rfl, rfl, rfl⟩, rfl, rfl⟩
  have fits : ∀ p ∈ rebooting, p.payload.length ≤ Packet.maxPayload := by decide +kernel
  have pending : r.receiver.pending = bytes := by decide +kernel
  obtain ⟨written, left, -⟩ := handshake ready fits pending
  exact ⟨ready, fits, pending, written.trans (by decide +kernel), left.trans (by decide +kernel)⟩

end SerialSuite
