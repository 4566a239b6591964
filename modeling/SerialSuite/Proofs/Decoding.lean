import SerialSuite.TestName

/-!
Decoding leaves ASCII in place. Whatever broken or unusual bytes stand between them, the ASCII
letters of a byte string are those of the text that is made of it, and stand next to each other in
the one where they do in the other (`keepsAscii_lossy`). So a name shows no letters in a row but
those it has (`TestName.infix_bytes`).
-/

namespace SerialSuite

/-- The byte is no ASCII letter; a NUL is none either. -/
def Foreign (x : UInt8) : Prop := x = 0 ∨ 0x80 ≤ x

/-- The second string is the first one with others for some of its foreign parts. -/
inductive KeepsAscii : Bytes → Bytes → Prop
  | nil : KeepsAscii [] []
  | same (x : UInt8) {a b : Bytes} : KeepsAscii a b → KeepsAscii (x :: a) (x :: b)
  | foreign {u v a b : Bytes} : u ≠ [] → v ≠ [] → (∀ x ∈ u, Foreign x) → (∀ x ∈ v, Foreign x) →
      KeepsAscii a b → KeepsAscii (u ++ a) (v ++ b)

namespace KeepsAscii
variable {s a b : Bytes}

theorem prefix_left (keeps : KeepsAscii a b) (ascii : ∀ x ∈ s, ¬ Foreign x) (h : s <+: b) :
    s <+: a := by
  induction keeps generalizing s with
  | nil => exact h
  | same x _ ih =>
    rcases List.prefix_cons_iff.1 h with rfl | ⟨later, rfl, rest⟩
    · exact List.nil_prefix
    · exact List.cons_prefix_cons.2 ⟨rfl, ih (fun y inside => ascii y (.tail x inside)) rest⟩
  | @foreign u v _ _ _ some _ strange _ _ =>
    obtain ⟨y, v, rfl⟩ := List.exists_cons_of_ne_nil some
    rcases List.prefix_cons_iff.1 h with rfl | ⟨later, rfl, -⟩
    · exact List.nil_prefix
    · exact absurd (strange y List.mem_cons_self) (ascii y List.mem_cons_self)

theorem infix_of_foreign_append {v : Bytes} (strange : ∀ x ∈ v, Foreign x)
    (ascii : ∀ x ∈ s, ¬ Foreign x) (h : s <:+: v ++ b) : s <:+: b := by
  induction v with
  | nil => exact h
  | cons y v ih =>
    rcases List.infix_cons_iff.1 h with front | later
    · rcases List.prefix_cons_iff.1 front with rfl | ⟨rest, rfl, -⟩
      · exact List.nil_infix
      · exact absurd (strange y List.mem_cons_self) (ascii y List.mem_cons_self)
    · exact ih (fun x inside => strange x (.tail y inside)) later

theorem infix_left (keeps : KeepsAscii a b) (ascii : ∀ x ∈ s, ¬ Foreign x) (h : s <:+: b) :
    s <:+: a := by
  induction keeps with
  | nil => exact h
  | same x later ih =>
    rcases List.infix_cons_iff.1 h with front | inside
    · exact ((later.same x).prefix_left ascii front).isInfix
    · exact (ih inside).trans (List.suffix_cons x _).isInfix
  | foreign _ _ _ strange _ ih =>
    have inside := ih (infix_of_foreign_append strange ascii h)
    exact inside.trans (List.suffix_append _ _).isInfix

end KeepsAscii

namespace Text

/-- The bytes of a list of characters. -/
def encoded (text : List Char) : Bytes := text.flatMap String.utf8EncodeChar

theorem encoded_append (a b : List Char) : encoded (a ++ b) = encoded a ++ encoded b :=
  List.flatMap_append

theorem encoded_cons (c : Char) (text : List Char) :
    encoded (c :: text) = String.utf8EncodeChar c ++ encoded text := rfl

theorem toNat_ofNat (n : Nat) : (Char.ofNat n).toNat = n ∨ (Char.ofNat n).toNat = 0 := by
  unfold Char.ofNat
  by_cases valid : n.isValidChar
  · rw [dif_pos valid]
    exact .inl rfl
  · rw [dif_neg valid]
    exact .inr rfl

theorem utf8EncodeChar_ascii {x : UInt8} (small : x < 0x80) :
    String.utf8EncodeChar (Char.ofNat x.toNat) = [x] := by
  have bound : x.toNat < 0x80 := UInt8.lt_iff_toNat_lt.1 small
  have valid : x.toNat.isValidChar := .inl (by omega)
  have code : (Char.ofNat x.toNat).val.toNat = x.toNat := by
    rw [Char.ofNat, dif_pos valid]
    rfl
  rw [String.utf8EncodeChar, code, if_pos (Nat.le_of_lt_succ bound), UInt8.ofNat_toNat]

theorem foreign_of_toNat_ge {x : UInt8} (h : 0x80 ≤ x.toNat) : Foreign x :=
  .inr (UInt8.le_iff_toNat_le.2 h)

theorem foreign_utf8EncodeChar {c : Char} (h : c.toNat = 0 ∨ 0x80 ≤ c.toNat) :
    ∀ x ∈ String.utf8EncodeChar c, Foreign x := by
  have led (n k size : Nat) (least : 0x80 ≤ k) (room : size + k ≤ 0x100) (some : 0 < size) :
      Foreign (UInt8.ofNat (n % size + k)) := by
    apply foreign_of_toNat_ge
    have below := Nat.mod_lt n some
    rw [UInt8.toNat_ofNat_of_lt' (by show _ < 256; omega)]
    omega
  unfold String.utf8EncodeChar
  intro x inside
  dsimp only at inside
  split at inside
  next small =>
    have zero : c.val.toNat = 0 := by
      have : c.val.toNat = c.toNat := rfl
      omega
    rw [zero] at inside
    exact .inl (List.mem_singleton.1 inside)
  split at inside
  · simp only [List.mem_cons, List.not_mem_nil, or_false] at inside
    rcases inside with rfl | rfl <;> exact led _ _ _ (by decide) (by decide) (by decide)
  split at inside
  · simp only [List.mem_cons, List.not_mem_nil, or_false] at inside
    rcases inside with rfl | rfl | rfl <;> exact led _ _ _ (by decide) (by decide) (by decide)
  · simp only [List.mem_cons, List.not_mem_nil, or_false] at inside
    rcases inside with rfl | rfl | rfl | rfl <;>
      exact led _ _ _ (by decide) (by decide) (by decide)

/-- What the begun sequence ends in is no ASCII letter. -/
structure Begun.Wide (s : Begun) : Prop where
  need_pos : 1 ≤ s.need
  low_ge : 0x80 ≤ s.low
  bits_ge : 2 ≤ s.bits ∨ 2 ≤ s.need ∧ 2 ≤ s.bits * 64 + (s.low.toNat - 0x80)

/-- What is begun has used these bytes. -/
def Held : Option Begun → Bytes → Prop
  | none, used => used = []
  | some s, used => s.Wide ∧ used ≠ [] ∧ ∀ x ∈ used, Foreign x

theorem foreign_replacement : ∀ x ∈ String.utf8EncodeChar replacement, Foreign x :=
  foreign_utf8EncodeChar (.inr (by decide))

theorem foreign_of_not_lt {x : UInt8} (h : ¬ x < 0x80) : Foreign x := .inr (UInt8.not_lt.1 h)

/-- A byte that continues nothing, if what comes behind it is decoded well. -/
theorem lead_keepsAscii (x : UInt8) {rest : Bytes} (later : ∀ s used, Held s used →
    KeepsAscii (used ++ rest) (encoded (decodeFrom s rest))) :
    KeepsAscii (x :: rest) (encoded ((lead x).1 ++ decodeFrom (lead x).2 rest)) := by
  have replaced (strange : ¬ x < 0x80) :
      KeepsAscii (x :: rest) (encoded ([replacement] ++ decodeFrom none rest)) :=
    .foreign (List.cons_ne_nil x []) (String.utf8EncodeChar_ne_nil)
      (List.forall_mem_singleton.2 (foreign_of_not_lt strange)) foreign_replacement
      (later none [] rfl)
  have begins {s : Begun} (strange : ¬ x < 0x80) (wide : s.Wide) :
      KeepsAscii (x :: rest) (encoded ([] ++ decodeFrom (some s) rest)) :=
    later (some s) [x] ⟨wide, List.cons_ne_nil x [],
      List.forall_mem_singleton.2 (foreign_of_not_lt strange)⟩
  have above {k : UInt8} (low : ¬ x < k) (other : ¬ x = k) : k.toNat < x.toNat := by
    have least := UInt8.le_iff_toNat_le.1 (UInt8.not_lt.1 low)
    have apart : x.toNat ≠ k.toNat := fun same => other (UInt8.toNat_inj.1 same)
    omega
  fun_cases lead x with
  | case1 ascii =>
    rw [encoded_append, encoded_cons, utf8EncodeChar_ascii ascii]
    exact .same x (later none [] rfl)
  | case2 strange => exact replaced strange
  | case3 strange low two =>
    have least : 0xC2 ≤ x.toNat := UInt8.le_iff_toNat_le.1 (UInt8.not_lt.1 low)
    refine begins strange ⟨Nat.le_refl 1, UInt8.le_refl _, .inl ?_⟩
    show 2 ≤ x.toNat - 0xC0
    omega
  | case4 strange => exact begins strange ⟨by decide, by decide, .inr (by decide)⟩
  | case5 strange => exact begins strange ⟨by decide, by decide, .inl (by decide)⟩
  | case6 strange _ low first =>
    have least : 0xE0 < x.toNat := above low first
    refine begins strange ⟨Nat.le_add_left 1 1, UInt8.le_refl _, .inr ⟨Nat.le_refl 2, ?_⟩⟩
    show 2 ≤ (x.toNat - 0xE0) * 64 + (0x80 - 0x80)
    omega
  | case7 strange => exact begins strange ⟨by decide, by decide, .inr (by decide)⟩
  | case8 strange _ _ _ _ low first =>
    have least : 0xF0 < x.toNat := above low first
    refine begins strange ⟨Nat.le_add_left 1 2, UInt8.le_refl _, .inr ⟨Nat.le_add_left 2 1, ?_⟩⟩
    show 2 ≤ (x.toNat - 0xF0) * 64 + (0x80 - 0x80)
    omega
  | case9 strange => exact begins strange ⟨by decide, by decide, .inl (by decide)⟩
  | case10 strange => exact replaced strange

/-- Decoding on from a begun sequence keeps ASCII as well; its bytes are not shown yet. -/
theorem decodeFrom_keepsAscii {s : Option Begun} {used : Bytes} (held : Held s used) (b : Bytes) :
    KeepsAscii (used ++ b) (encoded (decodeFrom s b)) := by
  induction b generalizing s used with
  | nil =>
    cases s with
    | none =>
      rw [held]
      exact .nil
    | some s =>
      obtain ⟨-, some_used, strange⟩ := held
      exact .foreign some_used String.utf8EncodeChar_ne_nil strange foreign_replacement .nil
  | cons x rest ih =>
    cases s with
    | none =>
      rw [held]
      exact lead_keepsAscii x fun s used held => ih held
    | some s =>
      obtain ⟨wide, some_used, strange⟩ := held
      by_cases inside : s.low ≤ x ∧ x ≤ s.high
      · have least : 0x80 ≤ x.toNat :=
          UInt8.le_iff_toNat_le.1 (UInt8.le_trans wide.low_ge inside.1)
        have longer : ∀ y ∈ used ++ [x], Foreign y := by
          rw [List.forall_mem_append, List.forall_mem_singleton]
          exact ⟨strange, foreign_of_toNat_ge least⟩
        have above := UInt8.le_iff_toNat_le.1 inside.1
        have bits := wide.bits_ge
        rw [List.append_cons]
        simp only [decodeFrom, decodeByte, if_pos inside]
        split
        next last =>
          refine .foreign (by simp) String.utf8EncodeChar_ne_nil longer ?_
            (@ih none [] rfl)
          apply foreign_utf8EncodeChar
          rcases toNat_ofNat (s.bits * 64 + (x.toNat - 0x80)) with code | zero
          · right
            rw [code]
            omega
          · exact .inl zero
        next more =>
          refine ih ⟨⟨?_, UInt8.le_refl _, .inl ?_⟩, by simp, longer⟩
          · show 1 ≤ s.need - 1
            omega
          · show 2 ≤ s.bits * 64 + (x.toNat - 0x80)
            omega
      · simp only [decodeFrom, decodeByte, if_neg inside, List.cons_append]
        exact .foreign some_used String.utf8EncodeChar_ne_nil strange foreign_replacement
          (lead_keepsAscii x fun s used held => ih held)

theorem keepsAscii_lossy (b : Bytes) : KeepsAscii b (encoded (lossy b)) :=
  @decodeFrom_keepsAscii none [] rfl b

end Text

theorem TestName.utf8_text (name : TestName) : utf8 name.text = Text.encoded name.chars := by
  rw [utf8, text, String.toList_ofList]
  rfl

/-- A name shows no ASCII letters in a row but those it has. -/
theorem TestName.infix_bytes {name : TestName} {s : Bytes} (ascii : ∀ x ∈ s, ¬ Foreign x)
    (h : s <:+: utf8 name.text) : s <:+: name.bytes :=
  (Text.keepsAscii_lossy name.bytes).infix_left ascii (name.utf8_text ▸ h)

end SerialSuite
