import SerialSuite.Proofs.Payload

/-!
Encoding the message of a payload gives the payload back, without what decoding passes over
(`canonical`): the reserved bytes are cleared, the flag is 0 or 1, the NULs of a name stand behind
it, and nothing stands behind a code that nothing belongs to.
-/

namespace SerialSuite

/-- A field with its NULs behind the rest. -/
def TestName.gathered (field : Bytes) : Bytes :=
  let kept := field.filter (· ≠ 0)
  kept ++ List.replicate (field.length - kept.length) 0

theorem TestName.gathered_length (field : Bytes) : (gathered field).length = field.length := by
  have := List.length_filter_le (fun b : UInt8 => decide (b ≠ 0)) field
  rw [gathered, List.length_append, List.length_replicate]
  omega

/-- A name that is read from a field is written with the NULs gathered. -/
theorem TestName.field_of_bytes {name : TestName} {field : Bytes} (h : field.length = maxLength)
    (hn : name.bytes = field.filter (· ≠ 0)) : name.field = gathered field := by
  rw [gathered, ← hn, h]
  rfl

namespace Message

/-- The payload as it is written. -/
def canonical (p : Bytes) : Bytes :=
  match p.head? with
  | none => []
  | some b =>
    if b = 0x33 then
      [b, if p[1]? = some 0 then 0 else 1] ++ List.replicate 6 0 ++
        (p.take (p.length - 96)).drop 8 ++ TestName.gathered (p.drop (p.length - 96))
    else if b = 0x22 ∨ b ∈ resultBytes then b :: List.replicate 7 0 ++ p.drop 8
    else [b]

variable {p : Bytes}

section shapes
variable {b : UInt8} (head : p.head? = some b)
include head

theorem canonical_started (started : b = 0x33) : canonical p =
    [b, if p[1]? = some 0 then 0 else 1] ++ List.replicate 6 0 ++
      (p.take (p.length - 96)).drop 8 ++ TestName.gathered (p.drop (p.length - 96)) := by
  simp only [canonical, head, if_pos started]

theorem canonical_behind (other : b ≠ 0x33) (carries : b = 0x22 ∨ b ∈ resultBytes) :
    canonical p = b :: List.replicate 7 0 ++ p.drop 8 := by
  simp only [canonical, head, if_neg other, if_pos carries]

theorem canonical_alone (other : b ≠ 0x33) (bare : ¬ (b = 0x22 ∨ b ∈ resultBytes)) :
    canonical p = [b] := by
  simp only [canonical, head, if_neg other, if_neg bare]

theorem canonical_head? : (canonical p).head? = some b := by
  by_cases started : b = 0x33
  · rw [canonical_started head started]
    rfl
  · by_cases carries : b = 0x22 ∨ b ∈ resultBytes
    · rw [canonical_behind head started carries]
      rfl
    · rw [canonical_alone head started carries]
      rfl

theorem canonical_length {least : Nat} (overhead : overhead? b = some least)
    (long : least ≤ p.length) : (canonical p).length = p.length := by
  rw [overhead?] at overhead
  split at overhead
  · rename_i started
    cases overhead
    have front := front_length long
    have field := field_length long
    rw [TestName.maxLength] at field
    rw [canonical_started head started]
    simp only [List.length_append, List.length_cons, List.length_nil, List.length_replicate,
      TestName.gathered_length, field]
    omega
  · rename_i other
    split at overhead
    · rename_i carries
      cases overhead
      have behind := behind_length long
      rw [canonical_behind head other carries]
      simp only [List.length_append, List.length_cons, List.length_replicate]
      omega
    · cases overhead

end shapes

theorem encode_of_spells {m : Message} (h : Spells p m) : m.encode = canonical p := by
  cases h with
  | request head => exact (canonical_alone head (by decide) (by decide)).symm
  | @init b nightly head known nightly_iff =>
    obtain rfl := byte_init_iff.2 ⟨known, nightly_iff⟩
    cases nightly
    · exact (canonical_alone head (by decide) (by decide)).symm
    · exact (canonical_alone head (by decide) (by decide)).symm
  | noState head => exact (canonical_alone head (by decide) (by decide)).symm
  | restore head long state_eq =>
    rw [canonical_behind head (by decide) (.inl rfl), ← state_eq]
    rfl
  | @started name flag nightlyOnly state head long flag_eq nightly_iff state_eq name_eq =>
    have written : (if nightlyOnly then (1 : UInt8) else 0) = if p[1]? = some 0 then 0 else 1 := by
      by_cases h : flag = 0
      · have not_nightly : nightlyOnly = false := by simpa [h] using nightly_iff
        simp [flag_eq, h, not_nightly]
      · simp [flag_eq, h, nightly_iff.2 h]
    rw [canonical_started head rfl, ← written, ← state_eq,
      ← TestName.field_of_bytes (field_length long) name_eq]
    rfl
  | @result b outcome isFinal state head known long pass_iff final_iff state_eq =>
    have byte_eq := byte_result_iff.2 ⟨known, pass_iff, final_iff⟩
    have other : b ≠ 0x33 := by
      rintro rfl
      exact absurd known (by decide)
    rw [canonical_behind head other (.inr known), ← state_eq, ← byte_eq]
    rfl

/-- Encoding what a payload decodes to gives its canonical form, with the same first byte and, if it
may hold state, of the same length. This decodes to the same message and is left as it is by
decoding and encoding. -/
theorem encode_decode {m : Message} (h : decode p = .ok m) :
    m.encode = canonical p ∧ m.encode.head? = p.head? ∧
    (∀ b least, p.head? = some b → overhead? b = some least → m.encode.length = p.length) ∧
    decode m.encode = .ok m ∧ (decode m.encode).map encode = .ok m.encode := by
  have encode_eq := encode_of_spells (decode_ok_iff.1 h)
  have decoded := decode_encode m
  refine ⟨encode_eq, ?_, ?_, decoded, ?_⟩
  · cases head : p.head? with
    | none =>
      obtain rfl := List.head?_eq_none_iff.1 head
      cases h
    | some b => rw [encode_eq, canonical_head? head]
  · intro b least head overhead
    rw [encode_eq, canonical_length head overhead]
    apply Nat.le_of_not_lt
    intro short
    rw [decode_of_faulty (.truncated head overhead short)] at h
    cases h
  · rw [decoded]
    rfl

/-- The start of a test with a flag of 7, bytes in reserved places and NULs inside the name. -/
def untidy : Bytes :=
  [0x33, 7, 1, 2, 3, 4, 5, 6] ++ [9, 0, 9] ++ [0, 0x61, 0, 0x62] ++ List.replicate 92 0

def tidied : Message :=
  .testStarted ⟨[0x61, 0x62], by decide, by decide⟩ true ⟨[9, 0, 9], by decide⟩

theorem encode_decode_untidy :
    decode untidy = .ok tidied ∧
      canonical untidy =
        [0x33, 1, 0, 0, 0, 0, 0, 0, 9, 0, 9, 0x61, 0x62] ++ List.replicate 94 0 ∧
      tidied.encode = canonical untidy ∧ tidied.encode.head? = some 0x33 ∧
      tidied.encode.length = 107 ∧ decode tidied.encode = .ok tidied ∧
      (decode tidied.encode).map encode = .ok tidied.encode := by
  have decoded : decode untidy = .ok tidied := by rfl
  obtain ⟨encode_eq, head, length, again, idem⟩ := encode_decode decoded
  exact ⟨decoded, by decide +kernel, encode_eq, head, length 0x33 104 rfl rfl, again, idem⟩

end Message

end SerialSuite
