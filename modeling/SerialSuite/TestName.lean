import SerialSuite.MessageError
import SerialSuite.Text.Lossy
import SerialSuite.Text.Quoted

/-!
Names of tests: at most 96 bytes, none of them NUL, so that padding a name with NULs loses nothing
(`ofField_field`).
-/

namespace SerialSuite

/-- Width of the field that holds a name on the link. -/
def TestName.maxLength : Nat := 96

structure TestName where
  bytes : Bytes
  length_le : bytes.length ≤ TestName.maxLength
  no_nul : 0 ∉ bytes
  deriving DecidableEq, Repr

namespace TestName

def empty : TestName := ⟨[], by decide, by decide⟩

instance : Inhabited TestName := ⟨empty⟩

def dropNuls (raw : Bytes) : Bytes := raw.filter (· ≠ 0)

theorem zero_notMem_dropNuls (raw : Bytes) : 0 ∉ dropNuls raw := by simp [dropNuls]

theorem dropNuls_eq_self {raw : Bytes} (h : 0 ∉ raw) : dropNuls raw = raw := by
  simp only [dropNuls, List.filter_eq_self, decide_eq_true_eq]
  exact fun b hb hz => h (hz ▸ hb)

theorem dropNuls_append (a b : Bytes) : dropNuls (a ++ b) = dropNuls a ++ dropNuls b :=
  List.filter_append ..

theorem dropNuls_replicate (n : Nat) : dropNuls (List.replicate n 0) = [] := by
  simp [dropNuls]

/-- The name that is left of `raw` without its NULs. -/
def ofBytes (raw : Bytes) : Except MessageError TestName :=
  let kept := dropNuls raw
  if h : kept.length ≤ maxLength then .ok ⟨kept, h, zero_notMem_dropNuls raw⟩
  else .error (.nameTooLong kept.length maxLength)

/-- The name in a padded field; of a longer field only the width of a name counts. -/
def ofField (field : Bytes) : TestName where
  bytes := dropNuls (field.take maxLength)
  length_le := Nat.le_trans (List.length_filter_le ..) (List.length_take_le ..)
  no_nul := zero_notMem_dropNuls _

/-- The name, padded with NULs. -/
def field (name : TestName) : Bytes :=
  name.bytes ++ List.replicate (maxLength - name.bytes.length) 0

theorem field_length (name : TestName) : name.field.length = maxLength := by
  have := name.length_le
  simp [field]; omega

theorem ofField_field (name : TestName) : ofField name.field = name := by
  obtain ⟨bytes, hl, hn⟩ := name
  simp only [ofField, mk.injEq]
  rw [List.take_of_length_le (Nat.le_of_eq (field_length _))]
  simp only [field, dropNuls_append, dropNuls_replicate, List.append_nil]
  exact dropNuls_eq_self hn

/-- The name as text. -/
def chars (name : TestName) : List Char := Text.lossy name.bytes

def text (name : TestName) : String := String.ofList name.chars

/-- The name as a value, for diagnostics. -/
def inspect (name : TestName) : String := "TestName(" ++ Text.quoted name.chars ++ ")"

end TestName

end SerialSuite
