import SerialSuite.Reading

/-!
The grammar of frames: what the first bytes of a stream are to a reader of packets. `Framed` tells
a frame from a frame that is broken off at its first wrong marker byte, and `consumes_reading_iff`
that the reader of packets takes exactly these bytes.
-/

namespace SerialSuite

/-- The bytes that a reader of packets takes, with what it makes of them. -/
inductive Framed : Bytes → Except LinkError Packet → Prop
  | packet {p : Packet} : p.payload.length ≤ Packet.maxPayload → Framed p.frame (.ok p)
  | sync {found : UInt8} : found ≠ Marker.sync.byte →
      Framed [found] (.error (.misframed .sync Marker.sync.byte found))
  | startOfData {kind high mid low found : UInt8} : found ≠ Marker.startOfData.byte →
      Framed [Marker.sync.byte, kind, high, mid, low, found]
        (.error (.misframed .startOfData Marker.startOfData.byte found))
  | endOfData {kind high mid low found : UInt8} {payload : Bytes} :
      payload.length = Packet.sizeOf high mid low → found ≠ Marker.endOfData.byte →
      Framed (Marker.sync.byte :: kind :: high :: mid :: low :: Marker.startOfData.byte ::
          (payload ++ [found]))
        (.error (.misframed .endOfData Marker.endOfData.byte found))

theorem consumes_expect_iff {marker : Marker} {found : UInt8} {next : Reading α} {b : Bytes}
    {x : Except LinkError α} : Consumes (.expect marker found next) b x ↔
      (found = marker.byte ∧ Consumes next b x) ∨
      (found ≠ marker.byte ∧ b = [] ∧ x = .error (.misframed marker marker.byte found)) := by
  unfold Reading.expect
  split <;> simp_all [consumes_done_iff]

theorem frame_eq {kind high mid low : UInt8} {payload : Bytes}
    (h : payload.length = Packet.sizeOf high mid low) :
    Packet.frame ⟨kind, payload⟩ = Marker.sync.byte :: kind :: high :: mid :: low ::
      Marker.startOfData.byte :: (payload ++ [Marker.endOfData.byte]) := by
  simp [Packet.frame, h, Packet.sizeField_sizeOf]

theorem framed_of_consumes {settle : Nat} {b : Bytes} {x : Except LinkError Packet}
    (h : Consumes (Packet.reading settle) b x) : Framed b x := by
  obtain ⟨lead, b₁, rfl, hlead, h₁⟩ := consumes_fill_iff.1 h
  obtain ⟨s, rfl⟩ := List.length_eq_one_iff.1 hlead
  rcases consumes_expect_iff.1 h₁ with ⟨hs, h₂⟩ | ⟨hs, rfl, rfl⟩
  · obtain ⟨head, b₂, rfl, hhead, h₃⟩ := consumes_fill_iff.1 (consumes_pause_iff.1 h₂)
    obtain ⟨kind, high, mid, low, start, rfl⟩ := eq_of_length_five hhead
    obtain rfl : s = Marker.sync.byte := hs
    rcases consumes_expect_iff.1 h₃ with ⟨hm, h₄⟩ | ⟨hm, rfl, rfl⟩
    · obtain ⟨payload, b₃, rfl, hsize, h₅⟩ := consumes_fill_iff.1 h₄
      obtain ⟨last, b₄, rfl, hlast, h₆⟩ := consumes_fill_iff.1 h₅
      obtain ⟨e, rfl⟩ := List.length_eq_one_iff.1 hlast
      obtain rfl : start = Marker.startOfData.byte := hm
      have size_eq : payload.length = Packet.sizeOf high mid low := hsize
      rcases consumes_expect_iff.1 h₆ with ⟨he, h₇⟩ | ⟨he, rfl, rfl⟩
      · obtain ⟨rfl, rfl⟩ := consumes_done_iff.1 h₇
        obtain rfl : e = Marker.endOfData.byte := he
        have fits : payload.length ≤ Packet.maxPayload := size_eq ▸ Packet.sizeOf_le high mid low
        have := Framed.packet (p := ⟨kind, payload⟩) fits
        rwa [frame_eq size_eq] at this
      · rw [List.append_nil]
        exact Framed.endOfData size_eq he
    · exact Framed.startOfData hm
  · exact Framed.sync hs

theorem consumes_of_framed (settle : Nat) {b : Bytes} {x : Except LinkError Packet}
    (h : Framed b x) : Consumes (Packet.reading settle) b x := by
  -- each case answers the reader's fills one by one, up to the marker that decides
  cases h with
  | packet fits =>
    rename_i p
    refine .fill (b := [Marker.sync.byte]) rfl (consumes_expect_iff.2 (.inl ⟨rfl, .pause ?_⟩))
    refine .fill (b := [p.kind] ++ Packet.sizeField p.payload.length ++
      [Marker.startOfData.byte]) rfl (consumes_expect_iff.2 (.inl ⟨rfl, ?_⟩))
    refine .fill (b := p.payload) (Packet.sizeOf_sizeField fits).symm ?_
    exact .fill (b := [Marker.endOfData.byte]) rfl
      (consumes_expect_iff.2 (.inl ⟨rfl, .done _⟩))
  | sync hs => exact .fill (b := [_]) rfl (consumes_expect_iff.2 (.inr ⟨hs, rfl, rfl⟩))
  | startOfData hm =>
    refine .fill (b := [Marker.sync.byte]) rfl (consumes_expect_iff.2 (.inl ⟨rfl, .pause ?_⟩))
    exact .fill (b := [_, _, _, _, _]) rfl (consumes_expect_iff.2 (.inr ⟨hm, rfl, rfl⟩))
  | endOfData hsize he =>
    rename_i kind high mid low found payload
    refine .fill (b := [Marker.sync.byte]) rfl (consumes_expect_iff.2 (.inl ⟨rfl, .pause ?_⟩))
    refine .fill (b := [kind, high, mid, low, Marker.startOfData.byte]) rfl
      (consumes_expect_iff.2 (.inl ⟨rfl, ?_⟩))
    refine .fill (b := payload) hsize ?_
    exact .fill (b := [found]) rfl (consumes_expect_iff.2 (.inr ⟨he, rfl, rfl⟩))

/-- However long it pauses, the reader of packets takes what the grammar has, and nothing else. -/
theorem consumes_reading_iff {settle : Nat} {b : Bytes} {x : Except LinkError Packet} :
    Consumes (Packet.reading settle) b x ↔ Framed b x :=
  ⟨framed_of_consumes, consumes_of_framed settle⟩

/-- The payload size in the header at the front of a stream. -/
def sizeAt (b : Bytes) : Nat := Packet.sizeOf (b.getD 2 0) (b.getD 3 0) (b.getD 4 0)

/-- The stream ends before its first frame does, with no wrong marker byte up to there. -/
def EndsEarly (b : Bytes) : Prop :=
  b.length < 1 ∨ b[0]? = some Marker.sync.byte ∧ (b.length < 6 ∨
    b[5]? = some Marker.startOfData.byte ∧ b.length < 7 + sizeAt b)

theorem eq_header_append {b : Bytes} {s d : UInt8} (hs : b[0]? = some s) (hd : b[5]? = some d) :
    ∃ kind high mid low rest, b = s :: kind :: high :: mid :: low :: d :: rest := by
  match b, hs, hd with
  | _ :: kind :: high :: mid :: low :: _ :: rest, rfl, rfl =>
    exact ⟨kind, high, mid, low, rest, rfl⟩

theorem framed_take_one {b : Bytes} {found : UInt8} (h0 : b[0]? = some found)
    (hf : found ≠ Marker.sync.byte) :
    Framed (b.take 1) (.error (.misframed .sync Marker.sync.byte found)) := by
  match b, h0 with
  | _ :: _, rfl => exact Framed.sync hf

theorem framed_take_six {b : Bytes} {found : UInt8} (h0 : b[0]? = some Marker.sync.byte)
    (h5 : b[5]? = some found) (hf : found ≠ Marker.startOfData.byte) :
    Framed (b.take 6) (.error (.misframed .startOfData Marker.startOfData.byte found)) := by
  obtain ⟨kind, high, mid, low, rest, rfl⟩ := eq_header_append h0 h5
  exact Framed.startOfData hf

theorem getElem?_header {s kind high mid low d : UInt8} {rest : Bytes} (n : Nat) :
    (s :: kind :: high :: mid :: low :: d :: rest)[6 + n]? = rest[n]? := by
  rw [Nat.add_comm]
  rfl

theorem take_header {s kind high mid low d found : UInt8} {rest : Bytes} {n : Nat}
    (h : rest[n]? = some found) :
    (s :: kind :: high :: mid :: low :: d :: rest).take (7 + n) =
      s :: kind :: high :: mid :: low :: d :: (rest.take n ++ [found]) := by
  rw [show 7 + n = (n + 1) + 6 by omega]
  simp only [List.take_succ_cons]
  rw [List.take_add_one, h]
  rfl

theorem framed_take_frame {b : Bytes} {found : UInt8} (h0 : b[0]? = some Marker.sync.byte)
    (h5 : b[5]? = some Marker.startOfData.byte) (h6 : b[6 + sizeAt b]? = some found) :
    (found = Marker.endOfData.byte → ∃ p, Framed (b.take (7 + sizeAt b)) (.ok p)) ∧
    (found ≠ Marker.endOfData.byte → Framed (b.take (7 + sizeAt b))
      (.error (.misframed .endOfData Marker.endOfData.byte found))) := by
  obtain ⟨kind, high, mid, low, rest, rfl⟩ := eq_header_append h0 h5
  have taken : sizeAt (Marker.sync.byte :: kind :: high :: mid :: low ::
      Marker.startOfData.byte :: rest) = Packet.sizeOf high mid low := rfl
  have last : rest[Packet.sizeOf high mid low]? = some found := by
    rw [← h6, taken, getElem?_header]
  have size_eq : (rest.take (Packet.sizeOf high mid low)).length = Packet.sizeOf high mid low := by
    have := (List.getElem?_eq_some_iff.1 last).1
    rw [List.length_take]
    omega
  rw [taken, take_header last]
  constructor
  · rintro rfl
    refine ⟨⟨kind, rest.take (Packet.sizeOf high mid low)⟩, ?_⟩
    rw [← frame_eq size_eq]
    exact Framed.packet (by rw [size_eq]; exact Packet.sizeOf_le high mid low)
  · exact Framed.endOfData size_eq

/-- A stream that does not end early begins with what the grammar has. -/
theorem exists_framed {b : Bytes} (h : ¬ EndsEarly b) :
    ∃ front x rest, Framed front x ∧ b = front ++ rest := by
  simp only [EndsEarly, not_or, not_and, Nat.not_lt] at h
  obtain ⟨nonempty, whole⟩ := h
  have h0 := List.getElem?_eq_getElem (show 0 < b.length by omega)
  by_cases hs : b[0] = Marker.sync.byte
  · rw [hs] at h0
    have six : 6 ≤ b.length := (whole h0).1
    have h5 := List.getElem?_eq_getElem (show 5 < b.length by omega)
    by_cases hm : b[5] = Marker.startOfData.byte
    · rw [hm] at h5
      have long := (whole h0).2 h5
      have h6 := List.getElem?_eq_getElem (show 6 + sizeAt b < b.length by omega)
      by_cases he : b[6 + sizeAt b] = Marker.endOfData.byte
      · obtain ⟨p, hp⟩ := (framed_take_frame h0 h5 h6).1 he
        exact ⟨_, _, _, hp, (List.take_append_drop ..).symm⟩
      · exact ⟨_, _, _, (framed_take_frame h0 h5 h6).2 he, (List.take_append_drop ..).symm⟩
    · exact ⟨_, _, _, framed_take_six h0 h5 hm, (List.take_append_drop ..).symm⟩
  · exact ⟨_, _, _, framed_take_one h0 hs, (List.take_append_drop ..).symm⟩

theorem not_framed_of_endsEarly {b front rest : Bytes} {x : Except LinkError Packet}
    (h : EndsEarly b) (hf : Framed front x) : b ≠ front ++ rest := by
  rintro rfl
  cases hf with
  | packet fits =>
    rename_i p
    have size_eq : sizeAt (p.frame ++ rest) = p.payload.length := Packet.sizeOf_sizeField fits
    have long := p.frame_length
    simp only [EndsEarly, size_eq, List.length_append] at h
    omega
  | sync hs => simp_all [EndsEarly]
  | startOfData hm => simp_all [EndsEarly]; omega
  | endOfData hsize he => simp_all [EndsEarly, sizeAt]; omega

end SerialSuite
