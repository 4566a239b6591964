import Mathlib.Algebra.GroupWithZero.Nat
import Mathlib.Tactic.SplitIfs
import SerialSuite.Proofs.Growth
import SerialSuite.Proofs.Printing

/-!
The column of the verdicts. A text takes no more columns than its characters weigh
(`columns_le_weights`), and a decoded text weighs no more than the bytes it comes from
(`lossy_weight`), so that a name is never wider than its field and every banner ends at the same
column (`banner_aligned`).
-/

namespace SerialSuite

namespace Text

/-- What a character may count: one column a byte. A replacement counts one, for it may stand for a
single byte. -/
def weight (c : Char) : Nat := if c = replacement then 1 else c.utf8Size

/-- The weight of a text. -/
def weights (text : List Char) : Nat := (text.map weight).sum

theorem weights_cons (c : Char) (text : List Char) :
    weights (c :: text) = weight c + weights text := rfl

theorem weights_append (a b : List Char) : weights (a ++ b) = weights a + weights b := by
  simp [weights]

section
variable {c : Char}

theorem utf8Size_eq (c : Char) : c.utf8Size =
    if c.toNat < 0x80 then 1 else if c.toNat < 0x800 then 2 else if c.toNat < 0x10000 then 3
    else 4 := by
  simp only [Char.utf8Size, UInt32.le_iff_toNat_le, UInt32.toNat_ofNatLT, ← Nat.lt_succ_iff]
  rfl

theorem weight_of_ne (h : c ≠ replacement) : weight c = c.utf8Size := if_neg h

theorem weight_pos (c : Char) : 1 ≤ weight c := by
  unfold weight
  split
  · exact Nat.le_refl 1
  · exact c.utf8Size_pos

theorem weight_le (c : Char) : weight c ≤ c.utf8Size := by
  unfold weight
  split
  · exact c.utf8Size_pos
  · exact Nat.le_refl _

/-- A character on its own takes no more columns than it weighs. -/
theorem charColumns_le (c : Char) : charColumns c ≤ weight c := by
  by_cases replaced : c = replacement
  · rw [replaced]
    decide +kernel
  have weighs : weight c = c.utf8Size := weight_of_ne replaced
  have positive := weight_pos c
  unfold charColumns
  split
  · exact Nat.zero_le _
  split
  · exact positive
  next notBreak wide =>
    have double : 2 ≤ weight c := by
      rw [weighs, utf8Size_eq]
      split_ifs <;> omega
    split
    · exact positive
    · exact double
    · exact double
    · rw [weighs]
      decide
    · split_ifs <;> omega

theorem indicator_weight (h : indicators.has c) : weight c = 4 := by
  have least : 0x1F1E6 ≤ c.toNat := by
    simp only [CharClass.has, indicators, List.any_cons, List.any_nil, Bool.or_false,
      Bool.and_eq_true, decide_eq_true_eq] at h
    exact h.1
  have whole : c ≠ replacement := by
    intro same
    rw [same] at least
    exact absurd least (by decide)
  rw [weight_of_ne whole, utf8Size_eq]
  split_ifs <;> omega

/-- No letter adds more than one column to a ligature. -/
theorem Ligature.grow?_part {part next : Ligature} {n : Nat}
    (h : part.grow? c = some (.part n next)) : n ≤ 1 := by
  revert h
  fun_cases grow? part c
  all_goals
    intro h
    cases h <;> decide

end

namespace Tail

/-- The columns that a selector's bytes leave to the character in front of it. -/
def reserve (t : Tail) : Nat := if t.selector.isSome then 3 else 0

/-- With `c` in front of `t`, no column comes in that `c` has no byte for. -/
structure Extends (t : Tail) (c : Char) (t' : Tail) : Prop where
  columns_le : t'.columns ≤ t.columns + weight c
  selector : t'.selector = none

section
variable {t t' : Tail} {c : Char} {n : Nat}

theorem add_extends (h : n ≤ weight c) (f : Follower) : t.Extends c (t.add n f) :=
  ⟨Nat.add_le_add_left h _, rfl⟩

theorem tighten_extends (f : Follower) : t.Extends c (t.tighten f) :=
  ⟨Nat.le_trans (Nat.sub_le _ _) (Nat.le_add_right _ _), rfl⟩

theorem set_extends (t : Tail) (c : Char) : t.Extends c (t.set c) :=
  add_extends (charColumns_le c) _

theorem join?_extends (h : t.join? c = some t') : t.Extends c t' := by
  have positive := weight_pos c
  revert h
  fun_cases join? t c
  all_goals intro h
  case case1 part followed =>
    obtain ⟨growth, grown, rfl⟩ := Option.map_eq_some_iff.1 h
    cases growth with
    | part n next => exact add_extends (Nat.le_trans (Ligature.grow?_part grown) positive) _
    | whole => exact add_extends (Nat.zero_le _) _
    | tight => exact tighten_extends _
  case case17 =>
    cases h
    exact tighten_extends _
  -- the first letter of a flag behind flags takes its own column and two that were given back
  case case18 count joined followed notJoiner letter behind even =>
    have four : weight c = 4 := indicator_weight (by simpa using letter)
    cases h
    exact add_extends (by omega) _
  all_goals cases h
  all_goals exact add_extends (by omega) _

theorem Extends.reserved (h : t.Extends c t') :
    t'.columns + t'.reserve ≤ t.columns + t.reserve + weight c := by
  have bound := h.columns_le
  have none_left : t'.reserve = 0 := by rw [reserve, h.selector]; rfl
  omega

theorem selector_weight {s : Selector} (h : Selector.ofChar? c = some s) : weight c = 3 := by
  unfold Selector.ofChar? at h
  split at h
  · decide
  · decide
  · cases h

theorem joined_or_set_extends (t : Tail) (c : Char) (follower : Follower) :
    t.Extends c ((join? { t with follower } c).getD (set { t with follower } c)) := by
  cases joined : join? { t with follower } c with
  | some t' =>
    have extended := join?_extends joined
    exact ⟨extended.columns_le, extended.selector⟩
  | none =>
    have extended := set_extends { t with follower } c
    exact ⟨extended.columns_le, extended.selector⟩

/-- One more character in front. An emoji selector lets a character of one byte take two columns;
the selector's own three bytes are held back for it. -/
theorem cons_columns (c : Char) (t : Tail) :
    (t.cons c).columns + (t.cons c).reserve ≤ t.columns + t.reserve + weight c := by
  have positive := weight_pos c
  unfold cons
  split
  next chosen =>
    have held : t.reserve = 3 := by
      simp only [Bool.and_eq_true, decide_eq_true_eq] at chosen
      rw [reserve, chosen.1]
      rfl
    have wide (n : Nat) (two : n ≤ 2) : (t.add n .emoji).columns + (t.add n .emoji).reserve ≤
        t.columns + t.reserve + weight c := by
      show t.columns + n + 0 ≤ _
      omega
    exact wide _ (by split_ifs <;> decide)
  split
  · exact (add_extends (Nat.zero_le _) _).reserved
  split
  · exact (add_extends (Nat.zero_le _) _).reserved
  split
  · exact (add_extends positive _).reserved
  dsimp only
  split
  next s selects =>
    have three := selector_weight selects
    exact Nat.add_le_add (Nat.le_add_right _ _) (Nat.le_of_eq three.symm)
  split
  · exact (add_extends positive _).reserved
  -- which follower is left makes no difference to the columns
  · exact (joined_or_set_extends t c _).reserved

end

end Tail

/-- A text takes no more columns than its characters weigh. -/
theorem columns_le_weights (text : List Char) : columns text ≤ weights text := by
  have bound : (text.foldr Tail.cons .empty).columns + (text.foldr Tail.cons .empty).reserve ≤
      weights text := by
    induction text with
    | nil => exact Nat.le_refl 0
    | cons c rest ih =>
      have step := Tail.cons_columns c (rest.foldr Tail.cons .empty)
      rw [List.foldr_cons, weights_cons]
      omega
  exact Nat.le_trans (Nat.le_add_right _ _) bound

/-- A measure of texts under which no text is wider than its characters one by one, plain characters
and replacements count one column at most, and no character counts more than two. -/
structure Measures (width : List Char → Nat) (each : Char → Nat) : Prop where
  text_le : ∀ text, width text ≤ (text.map each).sum
  plain_le : ∀ c : Char, c.utf8Size = 1 → each c ≤ 1
  replacement_le : each replacement ≤ 1
  each_le : ∀ c, each c ≤ 2

/-- Any such measure stays below the weight as well. -/
theorem Measures.le_weights {width : List Char → Nat} {each : Char → Nat}
    (h : Measures width each) (text : List Char) : width text ≤ weights text := by
  have each_le (c : Char) : each c ≤ weight c := by
    by_cases replaced : c = replacement
    · rw [replaced]
      exact h.replacement_le
    · have positive := c.utf8Size_pos
      have two := h.each_le c
      rw [weight_of_ne replaced]
      by_cases plain : c.utf8Size = 1
      · rw [plain]
        exact h.plain_le c plain
      · omega
  apply Nat.le_trans (h.text_le text)
  induction text with
  | nil => exact Nat.le_refl 0
  | cons c rest ih =>
    rw [List.map_cons, List.sum_cons, weights_cons]
    exact Nat.add_le_add (each_le c) ih

theorem toNat_ofNat_le (n : Nat) : (Char.ofNat n).toNat ≤ n := by
  unfold Char.ofNat
  by_cases valid : n.isValidChar
  · rw [dif_pos valid]
    exact Nat.le_refl n
  · rw [dif_neg valid]
    exact Nat.zero_le n

theorem weight_ofNat_le {n size : Nat} (least : 2 ≤ size) (h : n < 2 ^ (5 * size + 1)) :
    weight (Char.ofNat n) ≤ size := by
  have code := toNat_ofNat_le n
  apply Nat.le_trans (weight_le _)
  rw [utf8Size_eq]
  by_cases two : size = 2
  · have small : n < 0x800 := by rwa [two] at h
    split_ifs <;> omega
  by_cases three : size = 3
  · have small : n < 0x10000 := by rwa [three] at h
    split_ifs <;> omega
  · split_ifs <;> omega

/-- Of a sequence so many bytes were used. Its bits leave no room for a character of more bytes than
the whole sequence has. -/
structure Begun.Fits (s : Begun) (used : Nat) : Prop where
  used_pos : 1 ≤ used
  need_pos : 1 ≤ s.need
  high_le : s.high ≤ 0xBF
  bits_lt : (s.bits + 1) * 64 ^ s.need ≤ 2 ^ (5 * (used + s.need) + 1)

/-- What is begun has used so many bytes; nothing has used none. -/
def Pending : Option Begun → Nat → Prop
  | none, used => used = 0
  | some s, used => s.Fits used

theorem lead_weight (b : UInt8) : ∃ used,
    weights (lead b).1 + used ≤ 1 ∧ Pending (lead b).2 used := by
  have begins {s : Begun} (need : 1 ≤ s.need) (high : s.high ≤ 0xBF)
      (bits : (s.bits + 1) * 64 ^ s.need ≤ 2 ^ (5 * (1 + s.need) + 1)) : ∃ used,
      weights [] + used ≤ 1 ∧ Pending (some s) used :=
    ⟨1, Nat.le_refl 1, Nat.le_refl 1, need, high, bits⟩
  fun_cases lead b with
  | case1 ascii =>
    have one : weight (Char.ofNat b.toNat) ≤ 1 := by
      have code := toNat_ofNat_le b.toNat
      have small : b.toNat < 0x80 := UInt8.lt_iff_toNat_lt.1 ascii
      apply Nat.le_trans (weight_le _)
      exact Nat.le_of_eq ((utf8Size_eq _).trans (if_pos (Nat.lt_of_le_of_lt code small)))
    exact ⟨0, by simpa [weights] using one, rfl⟩
  | case2 | case10 => exact ⟨0, Nat.le_refl 1, rfl⟩
  | case3 _ _ two =>
    apply begins (Nat.le_refl 1) (Nat.le_refl _)
    show (b.toNat - 0xC0 + 1) * 64 ≤ 2048
    have small : b.toNat < 0xE0 := UInt8.lt_iff_toNat_lt.1 two
    omega
  | case6 _ _ _ _ _ three =>
    apply begins (Nat.le_add_left 1 1) (Nat.le_refl _)
    show (b.toNat - 0xE0 + 1) * 4096 ≤ 65536
    have small : b.toNat < 0xF0 := UInt8.lt_iff_toNat_lt.1 three
    omega
  | case8 _ _ _ _ _ _ _ four =>
    apply begins (Nat.le_add_left 1 2) (Nat.le_refl _)
    show (b.toNat - 0xF0 + 1) * 262144 ≤ 2097152
    have small : b.toNat < 0xF4 := UInt8.lt_iff_toNat_lt.1 four
    omega
  | case4 | case5 | case7 | case9 => exact begins (by decide) (by decide) (by decide)

/-- The bits still fit with those of the next byte. -/
theorem Begun.Fits.next {s : Begun} {used : Nat} (h : s.Fits used) {b : UInt8}
    (inside : b ≤ s.high) :
    (s.bits * 64 + (b.toNat - 0x80) + 1) * 64 ^ (s.need - 1) ≤ 2 ^ (5 * (used + s.need) + 1) := by
  have low : b.toNat - 0x80 < 64 := by
    have top : b.toNat ≤ 0xBF := UInt8.le_iff_toNat_le.1 (UInt8.le_trans inside h.high_le)
    omega
  calc (s.bits * 64 + (b.toNat - 0x80) + 1) * 64 ^ (s.need - 1)
      ≤ (s.bits + 1) * 64 * 64 ^ (s.need - 1) := Nat.mul_le_mul_right _ (by omega)
    _ = (s.bits + 1) * 64 ^ s.need := by
      rw [Nat.mul_assoc, ← Nat.pow_succ', Nat.succ_eq_add_one, Nat.sub_add_cancel h.need_pos]
    _ ≤ 2 ^ (5 * (used + s.need) + 1) := h.bits_lt

/-- One more byte adds at most one to the weight of what is decoded and the bytes pending. -/
theorem decodeByte_weight {s : Option Begun} {used : Nat} (pending : Pending s used) (b : UInt8) :
    ∃ used', weights (decodeByte s b).1 + used' ≤ used + 1 ∧ Pending (decodeByte s b).2 used' := by
  obtain ⟨fresh, lead_le, begun⟩ := lead_weight b
  cases s with
  | none => exact ⟨fresh, Nat.le_trans lead_le (Nat.le_add_left 1 used), begun⟩
  | some s =>
    have used_pos : 1 ≤ used := pending.used_pos
    have need_pos : 1 ≤ s.need := pending.need_pos
    by_cases inside : s.low ≤ b ∧ b ≤ s.high
    · have room := pending.next inside.2
      simp only [decodeByte, if_pos inside]
      split
      next last =>
        have one : s.need = 1 := Nat.le_antisymm last need_pos
        rw [one, Nat.sub_self, Nat.pow_zero, Nat.mul_one] at room
        have fits := weight_ofNat_le (Nat.succ_le_succ used_pos) (Nat.lt_of_succ_le room)
        exact ⟨0, by simpa [weights] using fits, rfl⟩
      next more =>
        have same : used + 1 + (s.need - 1) = used + s.need := by omega
        refine ⟨used + 1, by simp [weights], Nat.le_add_left 1 used, ?_, Nat.le_refl _, ?_⟩
        · show 1 ≤ s.need - 1
          omega
        · show _ ≤ 2 ^ (5 * (used + 1 + (s.need - 1)) + 1)
          rw [same]
          exact room
    -- the sequence is cut short, and its replacement counts one of the bytes it has used
    · simp only [decodeByte, if_neg inside]
      have one : weight replacement = 1 := rfl
      refine ⟨fresh, ?_, begun⟩
      rw [weights_cons, one]
      omega

theorem decodeFrom_weight {s : Option Begun} {used : Nat} (pending : Pending s used) (b : Bytes) :
    weights (decodeFrom s b) ≤ used + b.length := by
  induction b generalizing s used with
  | nil =>
    cases s with
    | none => exact Nat.zero_le _
    | some s => exact pending.used_pos
  | cons x rest ih =>
    obtain ⟨used', step, later⟩ := decodeByte_weight pending x
    have bound := ih later
    rw [decodeFrom, weights_append, List.length_cons]
    omega

/-- A decoded text weighs no more than the bytes it comes from, well-formed or not. -/
theorem lossy_weight (b : Bytes) : weights (lossy b) ≤ b.length := by
  have bound := @decodeFrom_weight none 0 rfl b
  rwa [Nat.zero_add] at bound

end Text

theorem utf8_blanks (n : Nat) :
    utf8 (String.ofList (List.replicate n ' ')) = List.replicate n 0x20 := by
  rw [utf8, String.toList_ofList]
  induction n with
  | zero => rfl
  | succ n ih =>
    rw [List.replicate_succ, List.flatMap_cons, ih]
    rfl

namespace Notice

/-- A name's characters, as they are shown, weigh no more than the name's field is wide. -/
theorem weights_chars (name : TestName) : Text.weights name.chars ≤ TestName.maxLength :=
  Nat.le_trans (Text.lossy_weight name.bytes) name.length_le

/-- An ellipsis and blanks, behind a name that is `w` columns wide. -/
def padded (w : Nat) : Bytes := utf8 ellipsis ++ List.replicate (TestName.maxLength - w) 0x20

/-- The bytes of a banner, whatever measures the name. -/
theorem utf8_banner (width : List Char → Nat) (name : TestName) : utf8 (banner width name) =
    utf8 "Starting test '" ++ utf8 name.text ++ utf8 "'" ++ padded (width name.chars) ++
      [0x20] := by
  have blanks (w : Nat) : nameColumn - w - ellipsis.length = TestName.maxLength - w := by
    show 99 - w - 3 = 96 - w
    omega
  have blank : utf8 " " = [0x20] := rfl
  unfold banner padded
  rw [blanks]
  simp only [utf8_append, utf8_blanks]
  rw [blank, List.append_assoc _ (utf8 ellipsis)]

theorem banner_ne_empty (width : List Char → Nat) (name : TestName) : banner width name ≠ "" := by
  intro empty
  unfold banner at empty
  have last := (String.append_eq_empty_iff.1 empty).2
  exact absurd last (by decide)

theorem padded_length {w : Nat} (h : w ≤ TestName.maxLength) :
    w + (padded w).length = nameColumn := by
  have dots : (utf8 ellipsis).length = 3 := rfl
  rw [padded, List.length_append, List.length_replicate, dots]
  show w + (3 + (96 - w)) = 99
  have small : w ≤ 96 := h
  omega

end Notice

/-- What stands on a console behind a name's banner, for a name that is `w` columns wide: the name
fits its column, the ellipsis is whole, and one flush comes last. -/
structure Console.Aligned (c : Console) (name : TestName) (w : Nat)
    (shown : Console × List Diagnostic) : Prop where
  name_le : w ≤ TestName.maxLength
  column : w + (Notice.padded w).length = Notice.nameColumn
  printed : ∃ c' : Console, shown = (c'.flush, []) ∧ c'.flushes = c.flushes ∧
    c'.output = c.output ++
      (utf8 "Starting test '" ++ utf8 name.text ++ utf8 "'" ++ Notice.padded w ++ [0x20])

theorem Console.Works.aligned {c : Console} (works : c.Works) {name : TestName}
    {width : List Char → Nat} (h : width name.chars ≤ TestName.maxLength) :
    c.Aligned name (width name.chars)
      (c.printAll [{ text := Notice.banner width name, ends := false }]) := by
  refine ⟨h, Notice.padded_length h, c.take (utf8 (Notice.banner width name)), ?_, rfl, ?_⟩
  · have piece : Line.pieces { text := Notice.banner width name, ends := false } c.colour =
        [utf8 (Notice.banner width name)] := by
      simp [Line.pieces, Notice.banner_ne_empty]
    have written : c.write (utf8 (Notice.banner width name)) =
        (true, c.take (utf8 (Notice.banner width name))) := by
      simp only [Console.write, works c.writes c.taken]
    simp only [Console.printAll, Console.print, piece, Console.writeAll, written]
  · rw [Console.take_output, Notice.utf8_banner]

/-- The verdicts of all tests stand in one column. A name, whatever its bytes, is shown in 96
columns at most, and on a console that works its banner is the name, an ellipsis and blanks up to
the column; then comes one flush. The ellipsis is never cut short. Nothing hangs on how columns are
counted: the banner is laid out alike under any other measure that gains nothing from characters
that stand together. -/
theorem banner_aligned {c : Console} (works : c.Works) (name : TestName) :
    c.Aligned name (Text.columns name.chars) (c.report (.started name)) ∧
      ∀ width each, Text.Measures width each → c.Aligned name (width name.chars)
        (c.printAll [{ text := Notice.banner width name, ends := false }]) := by
  have weighs := Notice.weights_chars name
  constructor
  · exact works.aligned (Nat.le_trans (Text.columns_le_weights _) weighs)
  · intro width each measures
    exact works.aligned (Nat.le_trans (measures.le_weights _) weighs)

/-- A name of ten bytes in six columns: an accented letter, a byte that is no text, an ideograph,
and a sign that a selector makes twice as wide. Its characters are five. -/
theorem banner_aligned_mixed :
    let c : Console := { colour := true }
    let name : TestName :=
      ⟨[0xC3, 0xA9, 0xFF, 0xE4, 0xB8, 0xAD, 0x23, 0xEF, 0xB8, 0x8F], by decide, by decide⟩
    c.Works ∧ Text.columns name.chars = 6 ∧
      (∃ c' : Console, c.report (.started name) = (c'.flush, []) ∧ c'.flushes = 0 ∧
        c'.output = utf8 "Starting test 'é\uFFFD中#\uFE0F'..." ++ List.replicate 91 0x20) ∧
      Text.Measures List.length (fun _ => 1) ∧
      ∃ c' : Console, c.printAll [{ text := Notice.banner List.length name, ends := false }] =
          (c'.flush, []) ∧ c'.flushes = 0 ∧
        c'.output = utf8 "Starting test 'é\uFFFD中#\uFE0F'..." ++ List.replicate 92 0x20 := by
  intro c name
  have works : c.Works := fun _ _ => rfl
  have six : Text.columns name.chars = 6 := by decide +kernel
  have five : name.chars.length = 5 := by decide +kernel
  have shown : name.text = "é\uFFFD中#\uFE0F" := by decide +kernel
  have counts : Text.Measures List.length (fun _ => 1) :=
    ⟨fun text => Nat.le_of_eq (by rw [List.map_const', List.sum_replicate_nat, Nat.mul_one]),
      fun _ _ => Nat.le_refl 1, Nat.le_refl 1, fun _ => Nat.le_succ 1⟩
  obtain ⟨⟨-, -, c', report, flushes, output⟩, measured⟩ := banner_aligned works name
  obtain ⟨-, -, c₁, printed, flushes₁, output₁⟩ := measured _ _ counts
  refine ⟨works, six, ⟨c', report, flushes, ?_⟩, counts, c₁, printed, flushes₁, ?_⟩
  · rw [output, six, shown]
    decide +kernel
  · rw [output₁, five, shown]
    decide +kernel

end SerialSuite
