import SerialSuite.Proofs.History

/-!
Decoding a payload place by place. `decode?` reads the bytes one access at a time, from offsets and
nibbles, and has no result if one of them is out of range; a name is copied byte by byte into a
buffer of its width. It always has one, and that is what `Message.decode` gives (`decode?_eq`).
-/

namespace SerialSuite

namespace Bytes

/-- The bytes from `i` up to `j`, if these are places of the string in this order. -/
def slice? (b : Bytes) (i j : Nat) : Option Bytes :=
  if i ≤ j ∧ j ≤ b.length then some ((b.take j).drop i) else none

/-- The string with another byte at `i`, if it has a place `i`. -/
def set? (b : Bytes) (i : Nat) (x : UInt8) : Option Bytes :=
  if i < b.length then some (b.set i x) else none

theorem slice?_of_le {b : Bytes} {i j : Nat} (hi : i ≤ j) (hj : j ≤ b.length) :
    b.slice? i j = some ((b.take j).drop i) := if_pos ⟨hi, hj⟩

theorem slice?_length {b : Bytes} {i : Nat} (h : i ≤ b.length) :
    b.slice? i b.length = some (b.drop i) := by
  rw [slice?_of_le h (Nat.le_refl _), List.take_length]

/-- A byte put behind what was written goes with it. -/
theorem set?_append_cons (written free : Bytes) (x b : UInt8) :
    (written ++ x :: free).set? written.length b = some (written ++ [b] ++ free) := by
  have room : written.length < (written ++ x :: free).length := by simp
  have put : (written ++ x :: free).set written.length b = written ++ [b] ++ free := by simp
  rw [set?, if_pos room, put]

end Bytes

namespace TestName

/-- Copies the bytes of a field that are not NUL into a buffer, from place `len` on. -/
def copy? (buffer : Bytes) (len : Nat) : Bytes → Option (Bytes × Nat)
  | [] => some (buffer, len)
  | b :: rest =>
    if b = 0 then copy? buffer len rest
    else do
      let buffer ← buffer.set? len b
      copy? buffer (len + 1) rest

/-- The name in a field, by way of a buffer of its width. -/
def ofField? (field : Bytes) : Option TestName := do
  let (buffer, len) ← copy? (List.replicate maxLength 0) 0 field
  let bytes ← buffer.slice? 0 len
  if h : bytes.length ≤ maxLength ∧ 0 ∉ bytes then some ⟨bytes, h.1, h.2⟩ else none

theorem dropNuls_cons_zero (raw : Bytes) : dropNuls (0 :: raw) = dropNuls raw := rfl

theorem dropNuls_cons_of_ne {x : UInt8} (h : x ≠ 0) (raw : Bytes) :
    dropNuls (x :: raw) = x :: dropNuls raw := List.filter_cons_of_pos (by simpa using h)

theorem copy?_append {written free field : Bytes} (h : (dropNuls field).length ≤ free.length) :
    copy? (written ++ free) written.length field =
      some (written ++ dropNuls field ++ free.drop (dropNuls field).length,
        (written ++ dropNuls field).length) := by
  -- the buffer is what was written so far and what is still free
  induction field generalizing written free with
  | nil => simp [copy?, dropNuls]
  | cons b rest ih =>
    by_cases hb : b = 0
    · rw [hb, dropNuls_cons_zero] at h ⊢
      rw [copy?, if_pos rfl, ih h]
    · rw [dropNuls_cons_of_ne hb] at h ⊢
      obtain ⟨x, free, rfl⟩ := List.exists_cons_of_length_pos (Nat.zero_lt_of_lt h)
      have next : written.length + 1 = (written ++ [b]).length := by simp
      have later := @ih (written ++ [b]) free (Nat.le_of_succ_le_succ h)
      rw [copy?, if_neg hb, Bytes.set?_append_cons, Option.bind_eq_bind, Option.bind_some, next,
        later]
      simp

/-- A field of a name's width always fits the buffer. -/
theorem ofField?_eq {field : Bytes} (h : field.length = maxLength) :
    ofField? field = some (ofField field) := by
  have fits : (dropNuls field).length ≤ (List.replicate maxLength (0 : UInt8)).length := by
    rw [List.length_replicate, ← h]
    exact List.length_filter_le ..
  have copied := @copy?_append [] _ field fits
  have name (free : Bytes) :
      Bytes.slice? (dropNuls field ++ free) 0 (dropNuls field).length = some (dropNuls field) := by
    rw [Bytes.slice?_of_le (Nat.zero_le _) (by simp), List.take_left, List.drop_zero]
  have valid : (dropNuls field).length ≤ maxLength ∧ 0 ∉ dropNuls field :=
    ⟨by simpa using fits, zero_notMem_dropNuls field⟩
  have whole : field.take maxLength = field := List.take_of_length_le (Nat.le_of_eq h)
  rw [List.nil_append, List.nil_append, List.length_nil] at copied
  simp only [ofField?, copied, Option.bind_eq_bind, Option.bind_some, name, dif_pos valid, ofField,
    whole]

end TestName

namespace Message

/-- Decodes a payload; none if an access is out of range on the way. -/
def decode? (payload : Bytes) : Option (Except MessageError Message) :=
  match payload.head? with
  | none => some (.error .empty)
  | some b =>
    if b = 0x11 then some (.ok .stateRequest)
    else if b = 0x66 ∨ b = 0x67 then some (.ok (.init (b = 0x67)))
    else if b = 0x55 then some (.ok (.stateResponse none))
    else if b = 0x22 then
      if payload.length < 8 then some (.error (.truncated b payload.length 8))
      else do
        let state ← payload.slice? 8 payload.length
        return (SavedState.ofBytes state).map fun state => .stateResponse (some state)
    else if b = 0x33 then
      if payload.length < 104 then some (.error (.truncated b payload.length 104))
      else do
        let nameAt ← if 96 ≤ payload.length then some (payload.length - 96) else none
        let field ← payload.slice? nameAt payload.length
        let name ← if field.length = 96 then TestName.ofField? field else none
        let flag ← payload[1]?
        let state ← payload.slice? 8 nameAt
        return (SavedState.ofBytes state).map fun state => .testStarted name (flag != 0) state
    else if b = 0x34 ∨ b = 0x35 ∨ b = 0x44 ∨ b = 0x45 then
      if payload.length < 8 then some (.error (.truncated b payload.length 8))
      else do
        let outcome := if b &&& 0x0F = 0x04 then Outcome.pass else Outcome.fail
        let state ← payload.slice? 8 payload.length
        return (SavedState.ofBytes state).map (.testResult outcome (b >>> 4 = 0x4))
    else some (.error (.unknownCode b))

variable {rest : Bytes}

theorem decode?_unknown {b : UInt8} (h : Code.ofByte? b = none) :
    decode? (b :: rest) = some (.error (.unknownCode b)) := by
  -- a byte without a code is none of those that are tried
  have other : ∀ code ∈ Code.all, code.byte ≠ b := by
    simpa [Code.ofByte?] using h
  simp only [Code.all, List.forall_mem_cons, Code.byte] at other
  obtain ⟨h11, h22, h33, h34, h35, h44, h45, h55, h66, h67, -⟩ := other
  simp [decode?, h11.symm, h22.symm, h33.symm, h34.symm, h35.symm, h44.symm, h45.symm, h55.symm,
    h66.symm, h67.symm]

theorem decode?_short {code : Code} (short : rest.length + 1 < code.least) :
    decode? (code.byte :: rest) =
      some (.error (.truncated code.byte (rest.length + 1) code.least)) := by
  cases code with
  | stateRequest | noState | init => simp [Code.least] at short
  | restore | started =>
    simp [Code.least, Code.stateOffset, TestName.maxLength] at short
    simp [decode?, Code.byte, short, Code.least, Code.stateOffset, TestName.maxLength]
  | result outcome isFinal =>
    simp [Code.least, Code.stateOffset] at short
    cases outcome <;> cases isFinal <;>
      simp [decode?, Code.byte, short, Code.least, Code.stateOffset]

section

variable {payload : Bytes}

theorem decode?_restore (head : payload.head? = some 0x22) (long : 8 ≤ payload.length) :
    decode? payload = some (ofPayload .restore payload) := by
  have state := Bytes.slice?_length long
  simp [decode?, head, Nat.not_lt.2 long, state, ofPayload, Code.stateOffset]

/-- The flag, the name and the state of a test's start are all in reach. -/
theorem decode?_started (head : payload.head? = some 0x33) (long : 104 ≤ payload.length) :
    decode? payload = some (ofPayload .started payload) := by
  have enough : ¬payload.length < 104 := Nat.not_lt.2 long
  have fits : 96 ≤ payload.length := by omega
  have field : payload.slice? (payload.length - 96) payload.length =
      some (payload.drop (payload.length - 96)) := Bytes.slice?_length (Nat.sub_le ..)
  have width : (payload.drop (payload.length - 96)).length = 96 := by
    rw [List.length_drop]
    omega
  have name := TestName.ofField?_eq width
  have flag : payload[1]? = some (payload.getD 1 0) := by
    rw [List.getD_eq_getElem?_getD, List.getElem?_eq_getElem (by omega)]
    rfl
  have state : payload.slice? 8 (payload.length - 96) =
      some ((payload.take (payload.length - 96)).drop 8) :=
    Bytes.slice?_of_le (by omega) (Nat.sub_le ..)
  have other : ∀ c ∈ [0x11, 0x66, 0x67, 0x55, 0x22], (0x33 : UInt8) ≠ c := by simp
  simp only [List.forall_mem_cons] at other
  obtain ⟨h11, h66, h67, h55, h22, -⟩ := other
  simp only [decode?, head, h11, h66, h67, h55, h22, or_self, if_false, if_true, if_neg enough,
    if_pos fits, field, if_pos width, name, flag, state, Option.bind_eq_bind, Option.bind_some,
    Option.pure_def, ofPayload, List.splitAt_eq, TestName.maxLength, Code.stateOffset]

/-- The nibbles of a result's code are the result. -/
theorem decode?_result {outcome : Outcome} {isFinal : Bool}
    (head : payload.head? = some (Code.result outcome isFinal).byte)
    (long : 8 ≤ payload.length) :
    decode? payload = some (ofPayload (.result outcome isFinal) payload) := by
  have state := Bytes.slice?_length long
  cases outcome <;> cases isFinal <;> rw [Code.byte] at head <;>
    simp only [decode?, head, Nat.not_lt.2 long, state, ofPayload, Code.stateOffset] <;> rfl

end

theorem decode?_long {code : Code} (long : code.least ≤ rest.length + 1) :
    decode? (code.byte :: rest) = some (ofPayload code (code.byte :: rest)) := by
  cases code with
  | stateRequest | noState => rfl
  | init nightly => cases nightly <;> rfl
  | restore => exact decode?_restore rfl long
  | started => exact decode?_started rfl long
  | result => exact decode?_result rfl long

theorem decode?_eq (payload : Bytes) : decode? payload = some (decode payload) := by
  match payload with
  | [] => rfl
  | b :: rest =>
    cases known : Code.ofByte? b with
    | none => rw [decode?_unknown known, decode_unknown known]
    | some code =>
      obtain rfl := Code.byte_of_ofByte? known
      rcases Nat.lt_or_ge (rest.length + 1) code.least with short | long
      · rw [decode?_short short, decode_short short]
      · rw [decode?_long long, decode_eq_ofPayload long]

end Message

end SerialSuite
