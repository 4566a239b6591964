import SerialSuite.Proofs.Accesses

/-!
Which payloads decode, and to what, by the places of their bytes (`Spells`), and what is wrong with
the others (`Faulty`). Nothing is left open between the two: `decode_ok_iff`, `decode_error_iff`.
-/

namespace SerialSuite

namespace SavedState

theorem ofBytes_of_bytes {bytes : Bytes} {state : SavedState} (h : state.bytes = bytes) :
    ofBytes bytes = .ok state := h ▸ ofBytes_bytes state

theorem ofBytes_of_large {bytes : Bytes} (h : maxLength < bytes.length) :
    ofBytes bytes = .error (.stateTooLarge bytes.length maxLength) := dif_neg (Nat.not_le.2 h)

theorem exists_or_large (bytes : Bytes) :
    (∃ state : SavedState, state.bytes = bytes) ∨ maxLength < bytes.length := by
  by_cases h : bytes.length ≤ maxLength
  · exact .inl ⟨⟨bytes, h⟩, rfl⟩
  · exact .inr (Nat.lt_of_not_le h)

end SavedState

namespace TestName

theorem ofField_bytes {field : Bytes} (h : field.length = maxLength) :
    (ofField field).bytes = dropNuls field := by
  show dropNuls (field.take maxLength) = dropNuls field
  rw [List.take_of_length_le (Nat.le_of_eq h)]

theorem ofField_of_bytes {field : Bytes} {name : TestName} (h : field.length = maxLength)
    (hn : name.bytes = dropNuls field) : ofField field = name := by
  obtain ⟨bytes, _, _⟩ := name
  rw [← ofField_bytes h] at hn
  subst hn
  rfl

end TestName

namespace Message

/-- The first bytes that are known. -/
def codeBytes : List UInt8 := [0x11, 0x22, 0x33, 0x34, 0x35, 0x44, 0x45, 0x55, 0x66, 0x67]

/-- The first bytes of a test's results. -/
def resultBytes : List UInt8 := [0x34, 0x35, 0x44, 0x45]

/-- How many bytes there are besides the saved state, where there is any. -/
def overhead? (b : UInt8) : Option Nat :=
  if b = 0x33 then some 104
  else if b = 0x22 ∨ b ∈ resultBytes then some 8
  else none

/-- A payload and the message that stands in it. -/
inductive Spells (p : Bytes) : Message → Prop
  | request : p.head? = some 0x11 → Spells p .stateRequest
  | init {b nightly} : p.head? = some b → b = 0x66 ∨ b = 0x67 → (nightly = true ↔ b = 0x67) →
      Spells p (.init nightly)
  | noState : p.head? = some 0x55 → Spells p (.stateResponse none)
  | restore {state} : p.head? = some 0x22 → 8 ≤ p.length → state.bytes = p.drop 8 →
      Spells p (.stateResponse (some state))
  | started {name flag nightlyOnly state} : p.head? = some 0x33 → 104 ≤ p.length →
      p[1]? = some flag → (nightlyOnly = true ↔ flag ≠ 0) →
      state.bytes = (p.take (p.length - 96)).drop 8 →
      name.bytes = (p.drop (p.length - 96)).filter (· ≠ 0) →
      Spells p (.testStarted name nightlyOnly state)
  | result {b outcome isFinal state} : p.head? = some b → b ∈ resultBytes → 8 ≤ p.length →
      (outcome = .pass ↔ b = 0x34 ∨ b = 0x44) → (isFinal = true ↔ b = 0x44 ∨ b = 0x45) →
      state.bytes = p.drop 8 → Spells p (.testResult outcome isFinal state)

/-- A payload and what is wrong with it. -/
inductive Faulty (p : Bytes) : MessageError → Prop
  | empty : p = [] → Faulty p .empty
  | unknown {b} : p.head? = some b → b ∉ codeBytes → Faulty p (.unknownCode b)
  | truncated {b least} : p.head? = some b → overhead? b = some least → p.length < least →
      Faulty p (.truncated b p.length least)
  | tooLarge {b least length} : p.head? = some b → overhead? b = some least →
      p.length = least + length → SavedState.maxLength < length →
      Faulty p (.stateTooLarge length SavedState.maxLength)

section codes
variable {b : UInt8} {n : Nat}

theorem mem_codeBytes : b ∈ codeBytes ↔ ∃ c : Code, c.byte = b := by
  have all : codeBytes = Code.all.map Code.byte := rfl
  constructor
  · intro h
    obtain ⟨c, -, rfl⟩ := List.mem_map.1 (all ▸ h)
    exact ⟨c, rfl⟩
  · rintro ⟨c, rfl⟩
    cases c with
    | result outcome isFinal => cases outcome <;> cases isFinal <;> simp [codeBytes, Code.byte]
    | init nightly => cases nightly <;> simp [codeBytes, Code.byte]
    | _ => simp [codeBytes, Code.byte]

theorem notMem_codeBytes : b ∉ codeBytes ↔ Code.ofByte? b = none := by
  rw [mem_codeBytes, Option.eq_none_iff_forall_ne_some, not_exists]
  apply forall_congr'
  intro c
  apply not_congr
  exact ⟨fun h => h ▸ Code.ofByte?_byte c, Code.byte_of_ofByte?⟩

/-- What carries state has to be long enough for the rest of it. -/
theorem overhead?_byte (c : Code) :
    overhead? c.byte = if c.least = 1 then none else some c.least := by
  cases c with
  | result outcome isFinal => cases outcome <;> cases isFinal <;> rfl
  | init nightly => cases nightly <;> rfl
  | _ => rfl

theorem exists_code_of_overhead? (h : overhead? b = some n) :
    ∃ c : Code, c.byte = b ∧ c.least = n := by
  have known : b ∈ codeBytes := by
    apply Decidable.byContradiction
    intro other
    simp only [codeBytes, List.mem_cons, List.not_mem_nil, or_false, not_or] at other
    simp [overhead?, resultBytes, other] at h
  obtain ⟨c, rfl⟩ := mem_codeBytes.1 known
  rw [overhead?_byte] at h
  split at h
  · cases h
  · exact ⟨c, rfl, Option.some.inj h⟩

theorem byte_init_iff {nightly : Bool} : (Code.init nightly).byte = b ↔
    (b = 0x66 ∨ b = 0x67) ∧ (nightly = true ↔ b = 0x67) := by
  constructor
  · rintro rfl
    cases nightly <;> simp [Code.byte]
  · rintro ⟨rfl | rfl, nightly_iff⟩ <;> cases nightly <;> simp_all [Code.byte]

theorem byte_result_iff {outcome : Outcome} {isFinal : Bool} :
    (Code.result outcome isFinal).byte = b ↔ b ∈ resultBytes ∧
      (outcome = .pass ↔ b = 0x34 ∨ b = 0x44) ∧ (isFinal = true ↔ b = 0x44 ∨ b = 0x45) := by
  constructor
  · rintro rfl
    cases outcome <;> cases isFinal <;> simp [resultBytes, Code.byte]
  · simp only [resultBytes, List.mem_cons, List.not_mem_nil, or_false]
    rintro ⟨rfl | rfl | rfl | rfl, pass, final⟩ <;> cases outcome <;> cases isFinal <;>
      simp_all [Code.byte]

end codes

variable {p : Bytes}

theorem decode_of_code {c : Code} (head : p.head? = some c.byte) (long : c.least ≤ p.length) :
    decode p = ofPayload c p := by
  obtain ⟨rest, rfl⟩ := List.head?_eq_some_iff.1 head
  exact decode_eq_ofPayload long

theorem ofPayload_started : ofPayload .started p =
    (SavedState.ofBytes ((p.take (p.length - 96)).drop 8)).map
      (.testStarted (.ofField (p.drop (p.length - 96))) (p.getD 1 0 != 0)) := by
  rw [ofPayload, List.splitAt_eq]
  rfl

theorem field_length (long : 104 ≤ p.length) :
    (p.drop (p.length - 96)).length = TestName.maxLength := by
  rw [List.length_drop, TestName.maxLength]
  omega

theorem behind_length (long : 8 ≤ p.length) : p.length = 8 + (p.drop 8).length := by
  rw [List.length_drop]
  omega

theorem front_length (long : 104 ≤ p.length) :
    p.length = 104 + ((p.take (p.length - 96)).drop 8).length := by
  rw [List.length_drop, List.length_take]
  omega

theorem length_pos_of_head? {b : UInt8} (head : p.head? = some b) : 1 ≤ p.length := by
  obtain ⟨rest, rfl⟩ := List.head?_eq_some_iff.1 head
  exact Nat.succ_le_succ (Nat.zero_le _)

/-- All but the overhead is state, and the message is left to the state alone. -/
theorem ofPayload_of_overhead? {c : Code} {least : Nat} (h : overhead? c.byte = some least)
    (long : least ≤ p.length) : ∃ part f,
      p.length = least + part.length ∧ ofPayload c p = (SavedState.ofBytes part).map f := by
  rw [overhead?_byte] at h
  cases c with
  | stateRequest | noState | init => cases h
  | restore | result =>
    cases h
    exact ⟨p.drop 8, _, behind_length long, rfl⟩
  | started =>
    cases h
    exact ⟨_, _, front_length long, ofPayload_started⟩

theorem decode_of_spells {m : Message} (h : Spells p m) : decode p = .ok m := by
  cases h with
  | request head => exact decode_of_code (c := .stateRequest) head (length_pos_of_head? head)
  | @init b nightly head known nightly_iff =>
    obtain rfl := byte_init_iff.2 ⟨known, nightly_iff⟩
    exact decode_of_code head (length_pos_of_head? head)
  | noState head => exact decode_of_code (c := .noState) head (length_pos_of_head? head)
  | restore head long state_eq =>
    rw [decode_of_code (c := .restore) head long, ofPayload, Code.stateOffset,
      SavedState.ofBytes_of_bytes state_eq]
    rfl
  | @started name flag nightlyOnly state head long flag_eq nightly_iff state_eq name_eq =>
    have nightly_eq : (p.getD 1 0 != 0) = nightlyOnly := by
      rw [List.getD_eq_getElem?_getD, flag_eq, Option.getD_some, Bool.eq_iff_iff, nightly_iff,
        bne_iff_ne]
    rw [decode_of_code (c := .started) head long, ofPayload_started,
      SavedState.ofBytes_of_bytes state_eq, TestName.ofField_of_bytes (field_length long) name_eq,
      nightly_eq]
    rfl
  | result head known long pass_iff final_iff state_eq =>
    obtain rfl := byte_result_iff.2 ⟨known, pass_iff, final_iff⟩
    rw [decode_of_code head long, ofPayload, Code.stateOffset,
      SavedState.ofBytes_of_bytes state_eq]
    rfl

theorem decode_of_faulty {e : MessageError} (h : Faulty p e) : decode p = .error e := by
  cases h with
  | empty none =>
    subst none
    rfl
  | unknown head other =>
    obtain ⟨rest, rfl⟩ := List.head?_eq_some_iff.1 head
    exact decode_unknown (notMem_codeBytes.1 other)
  | truncated head overhead short =>
    obtain ⟨c, rfl, rfl⟩ := exists_code_of_overhead? overhead
    obtain ⟨rest, rfl⟩ := List.head?_eq_some_iff.1 head
    exact decode_short short
  | tooLarge head overhead length_eq large =>
    obtain ⟨c, rfl, rfl⟩ := exists_code_of_overhead? overhead
    have long : c.least ≤ p.length := by omega
    obtain ⟨part, f, part_length, payload_eq⟩ := ofPayload_of_overhead? overhead long
    obtain rfl := Nat.add_left_cancel (part_length.symm.trans length_eq)
    rw [decode_of_code head long, payload_eq, SavedState.ofBytes_of_large large]
    rfl

theorem spells_or_faulty_of_code {c : Code} (head : p.head? = some c.byte)
    (long : c.least ≤ p.length) : (∃ m, Spells p m) ∨ ∃ e, Faulty p e := by
  cases c with
  | stateRequest => exact .inl ⟨_, .request head⟩
  | noState => exact .inl ⟨_, .noState head⟩
  | init nightly =>
    obtain ⟨known, nightly_iff⟩ := (@byte_init_iff _ nightly).1 rfl
    exact .inl ⟨_, .init head known nightly_iff⟩
  | restore =>
    rcases SavedState.exists_or_large (p.drop 8) with ⟨state, state_eq⟩ | large
    · exact .inl ⟨_, .restore head long state_eq⟩
    · exact .inr ⟨_, .tooLarge head rfl (behind_length long) large⟩
  | result outcome isFinal =>
    obtain ⟨known, pass_iff, final_iff⟩ := (@byte_result_iff _ outcome isFinal).1 rfl
    rcases SavedState.exists_or_large (p.drop 8) with ⟨state, state_eq⟩ | large
    · exact .inl ⟨_, .result head known long pass_iff final_iff state_eq⟩
    · exact .inr ⟨_, .tooLarge head (overhead?_byte _) (behind_length long) large⟩
  | started =>
    have long : 104 ≤ p.length := long
    have flag_eq : p[1]? = some p[1] := List.getElem?_eq_getElem (by omega)
    have name_eq := TestName.ofField_bytes (field_length long)
    rcases SavedState.exists_or_large ((p.take (p.length - 96)).drop 8) with
      ⟨state, state_eq⟩ | large
    · exact .inl ⟨_, .started head long flag_eq bne_iff_ne state_eq name_eq⟩
    · exact .inr ⟨_, .tooLarge head rfl (front_length long) large⟩

/-- A payload says something, or something is wrong with it. -/
theorem spells_or_faulty (p : Bytes) : (∃ m, Spells p m) ∨ ∃ e, Faulty p e := by
  match head : p.head? with
  | none => exact .inr ⟨_, .empty (List.head?_eq_none_iff.1 head)⟩
  | some b =>
    by_cases known : b ∈ codeBytes
    · obtain ⟨c, rfl⟩ := mem_codeBytes.1 known
      by_cases long : c.least ≤ p.length
      · exact spells_or_faulty_of_code head long
      · -- there is a first byte, so only a code with more to it can be short
        have some_wanted : c.least ≠ 1 := by
          have := length_pos_of_head? head
          omega
        have overhead := (overhead?_byte c).trans (if_neg some_wanted)
        exact .inr ⟨_, .truncated head overhead (Nat.lt_of_not_le long)⟩
    · exact .inr ⟨_, .unknown head known⟩

theorem decode_ok_iff {m : Message} : decode p = .ok m ↔ Spells p m := by
  constructor
  · intro h
    rcases spells_or_faulty p with ⟨m', spells⟩ | ⟨e, faulty⟩
    · rw [decode_of_spells spells] at h
      cases h
      exact spells
    · rw [decode_of_faulty faulty] at h
      cases h
  · exact decode_of_spells

theorem decode_error_iff {e : MessageError} : decode p = .error e ↔ Faulty p e := by
  constructor
  · intro h
    rcases spells_or_faulty p with ⟨m, spells⟩ | ⟨e', faulty⟩
    · rw [decode_of_spells spells] at h
      cases h
    · rw [decode_of_faulty faulty] at h
      cases h
      exact faulty
  · exact decode_of_faulty

section faults
variable {b : UInt8} {length least max : Nat}

theorem faulty_empty_iff : Faulty p .empty ↔ p = [] := by
  constructor
  · intro h
    cases h with
    | empty nothing => exact nothing
  · exact .empty

theorem faulty_unknown_iff : Faulty p (.unknownCode b) ↔ p.head? = some b ∧ b ∉ codeBytes := by
  constructor
  · intro h
    cases h with
    | unknown head other => exact ⟨head, other⟩
  · rintro ⟨head, other⟩
    exact .unknown head other

theorem faulty_truncated_iff : Faulty p (.truncated b length least) ↔
    p.head? = some b ∧ overhead? b = some least ∧ p.length < least ∧ length = p.length := by
  constructor
  · intro h
    cases h with
    | truncated head overhead short => exact ⟨head, overhead, short, rfl⟩
  · rintro ⟨head, overhead, short, rfl⟩
    exact .truncated head overhead short

theorem faulty_tooLarge_iff : Faulty p (.stateTooLarge length max) ↔
    (∃ b least, p.head? = some b ∧ overhead? b = some least ∧ p.length = least + length) ∧
      max < length ∧ max = SavedState.maxLength := by
  constructor
  · intro h
    cases h with
    | tooLarge head overhead length_eq large =>
      exact ⟨⟨_, _, head, overhead, length_eq⟩, large, rfl⟩
  · rintro ⟨⟨b, least, head, overhead, length_eq⟩, large, rfl⟩
    exact .tooLarge head overhead length_eq large

theorem eight_le_overhead (h : overhead? b = some least) : 8 ≤ least := by
  rw [overhead?] at h
  split at h
  · cases h
    omega
  · split at h <;> cases h
    omega

/-- A payload that fits a frame has room for any state it may hold. -/
theorem not_tooLarge (fits : p.length ≤ Packet.maxPayload) :
    ¬ Faulty p (.stateTooLarge length max) := by
  rw [faulty_tooLarge_iff]
  rintro ⟨⟨b, least, -, overhead, length_eq⟩, large, rfl⟩
  have := eight_le_overhead overhead
  simp only [Packet.maxPayload, SavedState.maxLength, Code.stateOffset] at fits large
  omega

/-- A known first byte with enough behind it, and not too much, is a message. -/
theorem exists_spells (head : p.head? = some b) (known : b ∈ codeBytes)
    (enough : ∀ least, overhead? b = some least →
      least ≤ p.length ∧ p.length ≤ least + SavedState.maxLength) : ∃ m, Spells p m := by
  rcases spells_or_faulty p with spells | ⟨e, faulty⟩
  · exact spells
  · exfalso
    cases faulty with
    | empty nothing => simp [nothing] at head
    | unknown head' other =>
      cases head.symm.trans head'
      exact other known
    | truncated head' overhead short =>
      cases head.symm.trans head'
      exact Nat.not_le.2 short (enough _ overhead).1
    | tooLarge head' overhead length_eq large =>
      cases head.symm.trans head'
      have := (enough _ overhead).2
      omega

end faults

/-- Decoding accepts what spells a message, and says of everything else what is wrong with it; a
payload that fits a frame never has too much state, and a name is never too long. All accesses on
the way are in range. -/
theorem decode_exact (p : Bytes) :
    decode? p = some (decode p) ∧
    (decode p = .error .empty ↔ p = []) ∧
    (∀ b, decode p = .error (.unknownCode b) ↔ p.head? = some b ∧ b ∉ codeBytes) ∧
    (∀ b length least, decode p = .error (.truncated b length least) ↔
      p.head? = some b ∧ overhead? b = some least ∧ p.length < least ∧ length = p.length) ∧
    (∀ length max, decode p = .error (.stateTooLarge length max) ↔
      (∃ b least, p.head? = some b ∧ overhead? b = some least ∧ p.length = least + length) ∧
        max < length ∧ max = SavedState.maxLength) ∧
    (p.length ≤ Packet.maxPayload → ∀ length max, decode p ≠ .error (.stateTooLarge length max)) ∧
    (∀ length max, decode p ≠ .error (.nameTooLong length max)) ∧
    (∀ m, decode p = .ok m ↔ Spells p m) ∧
    ∀ b ∈ codeBytes, p.head? = some b →
      (∀ least, overhead? b = some least →
        least ≤ p.length ∧ p.length ≤ least + SavedState.maxLength) →
      ∃ m, decode p = .ok m := by
  refine ⟨decode?_eq p, decode_error_iff.trans faulty_empty_iff,
    fun _ => decode_error_iff.trans faulty_unknown_iff,
    fun _ _ _ => decode_error_iff.trans faulty_truncated_iff,
    fun _ _ => decode_error_iff.trans faulty_tooLarge_iff, ?_, ?_, fun _ => decode_ok_iff, ?_⟩
  · intro fits length max h
    exact not_tooLarge fits (decode_error_iff.1 h)
  · intro length max h
    cases decode_error_iff.1 h
  · intro b known head enough
    obtain ⟨m, spells⟩ := exists_spells head known enough
    exact ⟨m, decode_of_spells spells⟩

end Message

end SerialSuite
