import SerialSuite.Packet

/-!
What it takes to read a packet, as a tree of requests: bytes to fill, pauses to make. One tree
serves every kind of link; who answers the requests decides where the bytes come from. `Consumes`
says which bytes lead a reader to which result, and `eq_frame_of_consumes` that a packet comes of
its own frame only.
-/

namespace SerialSuite

/-- A reader: each `fill` asks for exactly so many bytes and goes on with them. -/
inductive Reading (α : Type) where
  | done (result : Except LinkError α)
  | fill (count : Nat) (next : Bytes → Reading α)
  /-- Lets so many milliseconds pass. -/
  | pause (ms : Nat) (next : Reading α)

/-- Goes on only behind the right marker byte. -/
def Reading.expect (marker : Marker) (found : UInt8) (next : Reading α) : Reading α :=
  if found = marker.byte then next else .done (.error (.misframed marker marker.byte found))

/-- The five bytes behind a sync byte. -/
structure Header where
  kind : UInt8
  size : Nat
  marker : UInt8
  deriving DecidableEq, Repr

def Header.ofBytes (b : Bytes) : Header where
  kind := b.getD 0 0
  size := Packet.sizeOf (b.getD 1 0) (b.getD 2 0) (b.getD 3 0)
  marker := b.getD 4 0

/-- Reads one packet. The target writes a frame in one burst; the pause behind the sync byte gives
the burst time to land. The header is read whole before its marker is looked at. -/
def Packet.reading (settle : Nat) : Reading Packet :=
  .fill 1 fun lead =>
    .expect .sync (lead.headD 0) <|
      .pause settle <| .fill (headerLength - 1) fun bytes =>
        let header := Header.ofBytes bytes
        .expect .startOfData header.marker <|
          .fill header.size fun payload => .fill 1 fun last =>
            .expect .endOfData (last.headD 0) <| .done (.ok ⟨header.kind, payload⟩)

/-- The reader comes to `result` when its fills are answered with `bytes`, all of them. -/
inductive Consumes : Reading α → Bytes → Except LinkError α → Prop
  | done (result) : Consumes (.done result) [] result
  | fill {count next b c result} : b.length = count → Consumes (next b) c result →
      Consumes (.fill count next) (b ++ c) result
  | pause {ms next b result} : Consumes next b result → Consumes (.pause ms next) b result

theorem consumes_done_iff {result x : Except LinkError α} {b : Bytes} :
    Consumes (.done result) b x ↔ b = [] ∧ x = result :=
  ⟨fun h => by cases h; exact ⟨rfl, rfl⟩, fun ⟨hb, hx⟩ => hb ▸ hx ▸ .done _⟩

theorem consumes_fill_iff {count : Nat} {next : Bytes → Reading α} {b : Bytes}
    {x : Except LinkError α} : Consumes (.fill count next) b x ↔
      ∃ c d, b = c ++ d ∧ c.length = count ∧ Consumes (next c) d x :=
  ⟨fun h => by cases h with | fill hl h => exact ⟨_, _, rfl, hl, h⟩,
   fun ⟨_, _, hb, hl, h⟩ => hb ▸ .fill hl h⟩

theorem consumes_pause_iff {ms : Nat} {next : Reading α} {b : Bytes} {x : Except LinkError α} :
    Consumes (.pause ms next) b x ↔ Consumes next b x :=
  ⟨fun h => by cases h; assumption, .pause⟩

theorem consumes_expect_ok_iff {marker : Marker} {found : UInt8} {next : Reading α} {b : Bytes}
    {a : α} : Consumes (.expect marker found next) b (.ok a) ↔
      found = marker.byte ∧ Consumes next b (.ok a) := by
  unfold Reading.expect
  split <;> simp_all [consumes_done_iff]

theorem eq_of_length_five {b : Bytes} (h : b.length = 5) :
    ∃ v w x y z, b = [v, w, x, y, z] := by
  match b, h with
  | [v, w, x, y, z], _ => exact ⟨v, w, x, y, z, rfl⟩

/-- A packet is read from its own frame and from no other bytes. -/
theorem eq_frame_of_consumes {settle : Nat} {b : Bytes} {p : Packet}
    (h : Consumes (Packet.reading settle) b (.ok p)) : b = p.frame := by
  simp only [Packet.reading, consumes_fill_iff, consumes_pause_iff, consumes_expect_ok_iff,
    consumes_done_iff] at h
  obtain ⟨lead, _, rfl, hlead, hsync, head, _, rfl, hhead, hstart, payload, _, rfl, hpayload,
    last, _, rfl, hlast, hend, rfl, hp⟩ := h
  obtain ⟨s, rfl⟩ := List.length_eq_one_iff.1 hlead
  obtain ⟨e, rfl⟩ := List.length_eq_one_iff.1 hlast
  obtain ⟨kind, high, mid, low, start, rfl⟩ := eq_of_length_five hhead
  cases hp
  simp_all [Header.ofBytes, Packet.frame, Packet.sizeField_sizeOf]

end SerialSuite
