import SerialSuite.Proofs.Accesses

/-!
Names in buffers. A name is kept in a buffer as wide as its field, with NULs behind it. It is copied
there byte by byte: out of a field, which always fits, or out of any byte string, where the byte
that finds no room ends the copy (`gather?`). Either way the buffer is one that `Tidy` describes,
and these are just the buffers of names (`tidy_iff`), so that both copies agree (`names_agree`).
-/

namespace SerialSuite

namespace TestName

/-- Bytes of which the first ones are in use. -/
structure Buffer where
  bytes : Bytes
  used : Nat
  deriving DecidableEq, Repr

/-- A buffer before anything is copied. -/
def Buffer.blank : Buffer := ⟨List.replicate maxLength 0, 0⟩

/-- The buffer is as wide as a name's field; no byte in use is a NUL, and all others are. -/
structure Buffer.Tidy (b : Buffer) : Prop where
  length : b.bytes.length = maxLength
  used_le : b.used ≤ maxLength
  used_ne : ∀ i < b.used, b.bytes[i]? ≠ some 0
  free_eq : ∀ i, b.used ≤ i → i < maxLength → b.bytes[i]? = some 0

/-- The buffer that holds a name. -/
def buffer (name : TestName) : Buffer := ⟨name.field, name.bytes.length⟩

/-- Copies the bytes of a string that are no NULs. If one of them finds no room, all of them are
counted, in the whole string. -/
def gather? (whole : Bytes) (b : Buffer) : Bytes → Option (Except MessageError Buffer)
  | [] => some (.ok b)
  | x :: rest =>
    if x = 0 then gather? whole b rest
    else if b.used = maxLength then
      some (.error (.nameTooLong (whole.countP (· ≠ 0)) maxLength))
    else do
      let bytes ← b.bytes.set? b.used x
      gather? whole ⟨bytes, b.used + 1⟩ rest

theorem field_eq_of_lt (name : TestName) {i : Nat} (h : i < name.bytes.length) :
    name.field[i]? = some name.bytes[i] := by
  rw [field, List.getElem?_append_left h, List.getElem?_eq_getElem h]

theorem field_eq_of_le (name : TestName) {i : Nat} (h : name.bytes.length ≤ i)
    (inside : i < maxLength) : name.field[i]? = some 0 := by
  rw [field, List.getElem?_append_right h, List.getElem?_replicate, if_pos (by omega)]

theorem buffer_tidy (name : TestName) : name.buffer.Tidy where
  length := name.field_length
  used_le := name.length_le
  used_ne i h := by
    have here := name.field_eq_of_lt h
    intro zero
    have nul : name.bytes[i] = 0 := Option.some.inj (here.symm.trans zero)
    exact name.no_nul (nul ▸ List.getElem_mem h)
  free_eq i := name.field_eq_of_le

/-- The bytes of a tidy buffer that are in use are a name, and the rest is its padding. -/
theorem Buffer.Tidy.exists_name {b : Buffer} (h : b.Tidy) : ∃ name : TestName, b = name.buffer := by
  obtain ⟨bytes, used⟩ := b
  obtain ⟨length, used_le, used_ne, free_eq⟩ := h
  dsimp only at length used_le used_ne free_eq
  have taken : (bytes.take used).length = used := by
    rw [List.length_take, length]
    exact Nat.min_eq_left used_le
  have padding : bytes.drop used = List.replicate (maxLength - used) 0 := by
    apply List.eq_replicate_iff.2
    constructor
    · rw [List.length_drop, length]
    · intro x inside
      obtain ⟨i, bound, here⟩ := List.mem_iff_getElem.1 inside
      rw [List.length_drop, length] at bound
      have nul := free_eq (used + i) (Nat.le_add_right _ _) (by omega)
      rw [← here, List.getElem_drop]
      exact (List.getElem?_eq_some_iff.1 nul).2
  have no_nul : 0 ∉ bytes.take used := by
    intro inside
    obtain ⟨i, bound, here⟩ := List.mem_iff_getElem.1 inside
    rw [taken] at bound
    apply used_ne i bound
    rw [List.getElem_take] at here
    rw [← here]
    exact List.getElem?_eq_getElem _
  refine ⟨⟨bytes.take used, taken.symm ▸ used_le, no_nul⟩, ?_⟩
  simp only [buffer, field, taken, ← padding, List.take_append_drop]

theorem tidy_iff {b : Buffer} : b.Tidy ↔ ∃ name : TestName, b = name.buffer := by
  constructor
  · exact Buffer.Tidy.exists_name
  · rintro ⟨name, rfl⟩
    exact name.buffer_tidy

theorem slice?_buffer (name : TestName) :
    name.buffer.bytes.slice? 0 name.buffer.used = some name.bytes := by
  have inside : name.bytes.length ≤ name.field.length := by
    rw [name.field_length]
    exact name.length_le
  show name.field.slice? 0 name.bytes.length = _
  rw [Bytes.slice?_of_le (Nat.zero_le _) inside, field, List.take_left, List.drop_zero]

theorem eq_iff_bytes_eq {m n : TestName} : m = n ↔ m.bytes = n.bytes := by
  cases m
  cases n
  simp

/-- Comparing all of two buffers, padding included, compares the names. -/
theorem buffer_eq_iff {m n : TestName} : m.buffer = n.buffer ↔ m.bytes = n.bytes := by
  constructor
  · intro same
    have used := m.slice?_buffer
    rw [same, n.slice?_buffer] at used
    exact (Option.some.inj used).symm
  · intro same
    rw [eq_iff_bytes_eq.2 same]

section
variable {whole written free raw : Bytes}

/-- The copy fills what is still free, or stops at its end. No byte is ever written behind it. -/
theorem gather?_append (width : written.length + free.length = maxLength) :
    gather? whole ⟨written ++ free, written.length⟩ raw =
      some (if (dropNuls raw).length ≤ free.length then
        .ok ⟨written ++ dropNuls raw ++ free.drop (dropNuls raw).length,
          (written ++ dropNuls raw).length⟩
      else .error (.nameTooLong (whole.countP (· ≠ 0)) maxLength)) := by
  -- the buffer is what was written so far and what is still free
  induction raw generalizing written free with
  | nil => simp [gather?, dropNuls]
  | cons x rest ih =>
    by_cases nul : x = 0
    · rw [gather?, if_pos nul, nul, dropNuls_cons_zero]
      exact ih width
    rw [gather?, if_neg nul, dropNuls_cons_of_ne nul]
    cases free with
    | nil =>
      have full : written.length = maxLength := width
      rw [if_pos full, if_neg (by simp)]
    | cons y free =>
      rw [List.length_cons] at width
      have room : ¬ written.length = maxLength := by omega
      have next : written.length + 1 = (written ++ [x]).length := by simp
      have later := @ih (written ++ [x]) free (by
        rw [← next]
        omega)
      rw [if_neg room, Bytes.set?_append_cons, Option.bind_eq_bind, Option.bind_some, next, later]
      simp

end

/-- The copy of a byte string into a blank buffer makes the name of the string, or its error. -/
theorem gather?_blank (raw : Bytes) :
    gather? raw .blank raw = some ((ofBytes raw).map buffer) := by
  have copied := @gather?_append raw [] (List.replicate maxLength 0) raw (by simp)
  rw [List.length_replicate, List.nil_append, List.nil_append] at copied
  rw [Buffer.blank, ← List.length_nil, copied, List.countP_eq_length_filter]
  unfold ofBytes
  by_cases fits : (dropNuls raw).length ≤ maxLength
  · rw [if_pos fits, dif_pos fits, List.drop_replicate]
    rfl
  · rw [if_neg fits, dif_neg fits]
    rfl

theorem ofBytes_of_field {field : Bytes} (h : field.length = maxLength) :
    ofBytes field = .ok (ofField field) := by
  have fits : (dropNuls field).length ≤ maxLength := h ▸ List.length_filter_le ..
  have whole : field.take maxLength = field := List.take_of_length_le (Nat.le_of_eq h)
  simp only [ofBytes, dif_pos fits, ofField, whole]

/-- The copy out of a field writes no byte behind the buffer and makes the name of the field. -/
theorem copy?_blank {field : Bytes} (h : field.length = maxLength) :
    copy? Buffer.blank.bytes Buffer.blank.used field =
      some ((ofField field).buffer.bytes, (ofField field).buffer.used) := by
  have fits : (dropNuls field).length ≤ (List.replicate maxLength (0 : UInt8)).length := by
    rw [List.length_replicate, ← h]
    exact List.length_filter_le ..
  have copied := @copy?_append [] (List.replicate maxLength 0) field fits
  have whole : field.take maxLength = field := List.take_of_length_le (Nat.le_of_eq h)
  rw [List.nil_append, List.nil_append, List.drop_replicate] at copied
  simp only [Buffer.blank, buffer, TestName.field, ofField, whole]
  exact copied

end TestName

open TestName in
/-- Names keep to their form, and both ways to make one agree. A byte string is a name if it has at
most 96 bytes besides its NULs, and the name is these bytes in order; otherwise the error counts all
of them, however early the copy gave up. A field is always a name, the same both ways. A name's
buffer has the name in front and NULs behind it, gives the name back, and is another one for every
other name. -/
theorem names_agree (raw : Bytes) :
    let kept := raw.filter (· ≠ 0)
    (kept.length ≤ 96 → ∃ name, ofBytes raw = .ok name ∧ name.bytes = kept) ∧
      (96 < kept.length → ofBytes raw = .error (.nameTooLong kept.length 96)) ∧
      gather? raw .blank raw = some ((ofBytes raw).map buffer) ∧
      (raw.length = 96 → ofBytes raw = .ok (ofField raw) ∧
        copy? Buffer.blank.bytes Buffer.blank.used raw =
          some ((ofField raw).buffer.bytes, (ofField raw).buffer.used)) ∧
      (∀ name : TestName, name.buffer.Tidy ∧
        name.buffer.bytes.slice? 0 name.buffer.used = some name.bytes ∧
        ofField name.buffer.bytes = name) ∧
      ∀ m n : TestName, (m = n ↔ m.bytes = n.bytes) ∧
        (m.buffer = n.buffer ↔ m.bytes = n.bytes) := by
  intro kept
  refine ⟨fun fits => ⟨_, dif_pos fits, rfl⟩, fun long => dif_neg (Nat.not_le.2 long),
    gather?_blank raw, fun width => ⟨ofBytes_of_field width, copy?_blank width⟩, fun name => ?_,
    fun m n => ⟨eq_iff_bytes_eq, buffer_eq_iff⟩⟩
  exact ⟨name.buffer_tidy, name.slice?_buffer, name.ofField_field⟩

open TestName in
/-- The copy gives up at the 97th letter, behind a NUL; the error counts all 98. -/
theorem names_agree_overlong :
    let raw : Bytes := List.replicate 96 0x6E ++ [0, 0x6E, 0, 0x6F]
    ofBytes raw = .error (.nameTooLong 98 96) ∧
      gather? raw .blank raw = some (.error (.nameTooLong 98 96)) ∧
      ∃ name, ofBytes (raw.take 97) = .ok name ∧ name.bytes = List.replicate 96 0x6E ∧
        ofField name.buffer.bytes = name := by
  intro raw
  obtain ⟨-, long, copied, -⟩ := names_agree raw
  obtain ⟨short, -, -, -, held, -⟩ := names_agree (raw.take 97)
  have error : ofBytes raw = .error (.nameTooLong 98 96) := long (by decide)
  obtain ⟨name, made, bytes⟩ := short (by decide)
  rw [error] at copied
  exact ⟨error, copied, name, made, bytes, (held name).2.2⟩

end SerialSuite
