import SerialSuite.Notice

/-!
Escape sequences in bytes. There is one for each tone; each begins with an escape byte, has no other
one, and is no front of another sequence. So deleting some of them from a text finds just these
(`without_sequence`, `without_kept`), and what stands in front of a byte that no sequence has is
gone through by itself (`without_append_cons`, `Tone.after_append_cons`).

`Decorated` relates texts of which one has sequences among its bytes, but none within what was given
from outside. Deleting all sequences, in one pass or in many, makes the texts the same
(`Decorated.foldl_without_eq`).
-/

namespace SerialSuite

/-- The byte that begins a sequence. -/
def escape : UInt8 := 0x1B

namespace Tone

/-- The bytes that switch a terminal to a tone. -/
def sequence : Tone → Bytes
  | neutral => utf8 reset
  | t => utf8 t.code

def all : List Tone := [neutral, red, green, yellow]

theorem mem_all (t : Tone) : t ∈ all := by cases t <;> decide

theorem sequence_eq (t : Tone) : t.sequence = match t with
    | neutral => [0x1B, 0x5B, 0x30, 0x6D]
    | red => [0x1B, 0x5B, 0x33, 0x31, 0x6D]
    | green => [0x1B, 0x5B, 0x33, 0x32, 0x6D]
    | yellow => [0x1B, 0x5B, 0x33, 0x33, 0x6D] := by
  cases t <;> decide +kernel

theorem exists_sequence_eq (t : Tone) : ∃ rest, t.sequence = escape :: rest ∧ escape ∉ rest := by
  rw [sequence_eq]
  cases t <;> exact ⟨_, rfl, by decide⟩

theorem isPrefixOf_sequence (s t : Tone) (rest : Bytes) :
    s.sequence.isPrefixOf (t.sequence ++ rest) = decide (s = t) := by
  rw [sequence_eq, sequence_eq]
  cases s <;> cases t <;> rfl

end Tone

/-- The byte is in no sequence. -/
def Separates (q : UInt8) : Prop := ∀ t : Tone, q ∉ t.sequence

theorem separates_of_mem {q : UInt8} (h : q ∈ [0x0A, 0x20, 0x27]) : Separates q := by
  intro t
  rw [t.sequence_eq]
  simp only [List.mem_cons, List.not_mem_nil, or_false] at h
  rcases h with rfl | rfl | rfl <;> cases t <;> decide

theorem Separates.ne_escape {q : UInt8} (h : Separates q) : q ≠ escape := by
  rintro rfl
  exact h .neutral (by decide +kernel)

/-- A prefix without some byte ends in front of the first one. -/
theorem isPrefixOf_append_cons {s : Bytes} {q : UInt8} (h : q ∉ s) (a b : Bytes) :
    s.isPrefixOf (a ++ q :: b) = s.isPrefixOf a := by
  induction s generalizing a with
  | nil => simp
  | cons x rest ih =>
    rw [List.mem_cons, not_or] at h
    cases a with
    | nil => simp [List.isPrefixOf, Ne.symm h.1]
    | cons y a => simp only [List.cons_append, List.isPrefixOf, ih h.2]

/-! The sequence at the front of a text. -/

/-- The tone of the sequence that the text begins with, if it is one of these. -/
def front? (tones : List Tone) (text : Bytes) : Option Tone :=
  tones.find? fun t => t.sequence.isPrefixOf text

section Front
variable {tones : List Tone} {t : Tone}

theorem front?_of_ne {x : UInt8} (h : x ≠ escape) (rest : Bytes) :
    front? tones (x :: rest) = none := by
  rw [front?, List.find?_eq_none]
  intro t _
  obtain ⟨later, begins, -⟩ := t.exists_sequence_eq
  simp [begins, Ne.symm h]

theorem front?_sequence (h : t ∈ tones) (rest : Bytes) :
    front? tones (t.sequence ++ rest) = some t := by
  simp only [front?, Tone.isPrefixOf_sequence]
  cases found : tones.find? fun s => decide (s = t) with
  | none => exact absurd (decide_eq_true rfl) (List.find?_eq_none.1 found t h)
  | some s =>
    have := List.find?_some found
    rw [of_decide_eq_true this]

theorem front?_sequence_of_not_mem (h : t ∉ tones) (rest : Bytes) :
    front? tones (t.sequence ++ rest) = none := by
  simp only [front?, Tone.isPrefixOf_sequence, List.find?_eq_none, decide_eq_true_eq]
  rintro s among rfl
  exact h among

theorem front?_append_cons {q : UInt8} (separates : Separates q) (a b : Bytes) :
    front? tones (a ++ q :: b) = front? tones a := by
  have same (t : Tone) : t.sequence.isPrefixOf (a ++ q :: b) = t.sequence.isPrefixOf a :=
    isPrefixOf_append_cons (separates t) a b
  simp only [front?, same]

theorem prefix_of_front? {text : Bytes} (h : front? tones text = some t) : t.sequence <+: text := by
  have begins := List.find?_some (p := fun t : Tone => t.sequence.isPrefixOf text) h
  exact List.isPrefixOf_iff_prefix.1 begins

end Front

/-! Deleting sequences. -/

/-- The bytes without the sequences of some tones; the first ones belong to a sequence already. -/
def withoutFrom (pass : List Tone) : (skipped : Nat) → Bytes → Bytes
  | _, [] => []
  | skipped + 1, _ :: rest => withoutFrom pass skipped rest
  | 0, x :: rest =>
    match front? pass (x :: rest) with
    | some t => withoutFrom pass (t.sequence.length - 1) rest
    | none => x :: withoutFrom pass 0 rest

/-- The bytes without the sequences of some tones, found from the front on. -/
def without (pass : List Tone) (text : Bytes) : Bytes := withoutFrom pass 0 text

section Without
variable {pass : List Tone} {t : Tone} {a b : Bytes}

theorem withoutFrom_append (pass : List Tone) (a b : Bytes) :
    withoutFrom pass a.length (a ++ b) = without pass b := by
  induction a with
  | nil => rfl
  | cons x rest ih => exact ih

theorem without_cons {x : UInt8} (h : x ≠ escape) (text : Bytes) :
    without pass (x :: text) = x :: without pass text := by
  rw [without, withoutFrom, front?_of_ne h]
  rfl

theorem without_append (h : escape ∉ a) (b : Bytes) :
    without pass (a ++ b) = a ++ without pass b := by
  induction a with
  | nil => rfl
  | cons x rest ih =>
    rw [List.mem_cons, not_or] at h
    rw [List.cons_append, without_cons (Ne.symm h.1), ih h.2, List.cons_append]

theorem without_sequence (h : t ∈ pass) (b : Bytes) :
    without pass (t.sequence ++ b) = without pass b := by
  obtain ⟨rest, begins, -⟩ := t.exists_sequence_eq
  have found := front?_sequence h b
  rw [begins, List.cons_append] at found ⊢
  rw [without, withoutFrom, found]
  simp only [begins, List.length_cons, Nat.add_sub_cancel]
  exact withoutFrom_append pass rest b

-- What comes together where a sequence was is left to the next pass.
example : without Tone.all (utf8 "\x1b[\x1b[0m31mred") = utf8 "\x1b[31mred" := by decide +kernel

theorem without_kept (h : t ∉ pass) (b : Bytes) :
    without pass (t.sequence ++ b) = t.sequence ++ without pass b := by
  obtain ⟨rest, begins, plain⟩ := t.exists_sequence_eq
  have found := front?_sequence_of_not_mem h b
  rw [begins, List.cons_append] at found ⊢
  rw [without, withoutFrom, found]
  exact congrArg _ (without_append plain b)

theorem withoutFrom_append_cons {q : UInt8} (separates : Separates q) {skipped : Nat}
    (inside : skipped ≤ a.length) (b : Bytes) :
    withoutFrom pass skipped (a ++ q :: b) = withoutFrom pass skipped a ++ q :: without pass b := by
  induction a generalizing skipped with
  | nil =>
    obtain rfl := Nat.le_zero.1 inside
    exact without_cons separates.ne_escape b
  | cons x rest ih =>
    cases skipped with
    | succ skipped => exact ih (Nat.le_of_succ_le_succ inside)
    | zero =>
      have same : front? pass (x :: (rest ++ q :: b)) = front? pass (x :: rest) :=
        front?_append_cons separates (x :: rest) b
      rw [List.cons_append, withoutFrom, withoutFrom, same]
      cases found : front? pass (x :: rest) with
      | none => exact congrArg _ (ih (Nat.zero_le _))
      | some t => exact ih (Nat.sub_le_of_le_add (prefix_of_front? found).length_le)

/-- What stands in front of a separator is gone through by itself. -/
theorem without_append_cons {q : UInt8} (separates : Separates q) (a b : Bytes) :
    without pass (a ++ q :: b) = without pass a ++ q :: without pass b :=
  withoutFrom_append_cons separates (Nat.zero_le _) b

end Without

/-- The first text is the second one with the sequences of some tones put in. Any byte that is no
escape goes with itself, and whatever ends in a separator does, escapes and all. -/
inductive Decorated (tones : Tone → Prop) : Bytes → Bytes → Prop
  | nil : Decorated tones [] []
  | sequence {t : Tone} {a b : Bytes} :
      tones t → Decorated tones a b → Decorated tones (t.sequence ++ a) b
  | plain {x : UInt8} {a b : Bytes} :
      x ≠ escape → Decorated tones a b → Decorated tones (x :: a) (x :: b)
  | closed (text : Bytes) {q : UInt8} {a b : Bytes} :
      Separates q → Decorated tones a b → Decorated tones (text ++ q :: a) (text ++ q :: b)

namespace Decorated
variable {tones : Tone → Prop} {a b : Bytes}

theorem append_plain {text : Bytes} (h : escape ∉ text) (decorated : Decorated tones a b) :
    Decorated tones (text ++ a) (text ++ b) := by
  induction text with
  | nil => exact decorated
  | cons x rest ih =>
    rw [List.mem_cons, not_or] at h
    exact .plain (Ne.symm h.1) (ih h.2)

theorem without (decorated : Decorated tones a b) (pass : List Tone) :
    Decorated (fun t => tones t ∧ t ∉ pass) (without pass a) (without pass b) := by
  induction decorated with
  | nil => exact .nil
  | @sequence t a b among _ ih =>
    by_cases deleted : t ∈ pass
    · rwa [without_sequence deleted]
    · rw [without_kept deleted]
      exact .sequence ⟨among, deleted⟩ ih
  | plain other _ ih =>
    rw [without_cons other, without_cons other]
    exact .plain other ih
  | closed text separates _ ih =>
    rw [without_append_cons separates, without_append_cons separates]
    exact .closed _ separates ih

theorem eq_of_forall_not (decorated : Decorated tones a b) (h : ∀ t, ¬ tones t) : a = b := by
  induction decorated with
  | nil => rfl
  | sequence among => exact absurd among (h _)
  | plain _ _ ih | closed _ _ _ ih => rw [ih]

/-- Once each tone has had its pass, the texts are the same. -/
theorem foldl_without_eq (decorated : Decorated tones a b) {passes : List (List Tone)}
    (h : ∀ t, tones t → ∃ pass ∈ passes, t ∈ pass) :
    passes.foldl (fun text pass => SerialSuite.without pass text) a =
      passes.foldl (fun text pass => SerialSuite.without pass text) b := by
  induction passes generalizing tones a b with
  | nil =>
    apply decorated.eq_of_forall_not
    intro t among
    obtain ⟨_, absurd, _⟩ := h t among
    cases absurd
  | cons pass rest ih =>
    apply ih (decorated.without pass)
    rintro t ⟨among, left⟩
    obtain ⟨later, inside, deleted⟩ := h t among
    rcases List.mem_cons.1 inside with rfl | inside
    · exact absurd deleted left
    · exact ⟨later, inside, deleted⟩

end Decorated

namespace Tone

/-! The tone of a terminal. -/

/-- The tone of a terminal that has shown some bytes. -/
def after : Tone → Bytes → Tone
  | t, [] => t
  | t, x :: rest => after ((front? all (x :: rest)).getD t) rest

/-- No tone but the neutral one is switched to in these bytes. -/
def Uncoloured (text : Bytes) : Prop := ∀ t : Tone, t ≠ neutral → ¬ t.sequence <:+: text

theorem after_cons {x : UInt8} (h : x ≠ escape) (t : Tone) (rest : Bytes) :
    t.after (x :: rest) = t.after rest := by
  rw [after, front?_of_ne h, Option.getD_none]

theorem after_append {a : Bytes} (h : escape ∉ a) (t : Tone) (b : Bytes) :
    t.after (a ++ b) = t.after b := by
  induction a with
  | nil => rfl
  | cons x rest ih =>
    rw [List.mem_cons, not_or] at h
    rw [List.cons_append, after_cons (Ne.symm h.1), ih h.2]

theorem after_sequence (s t : Tone) (rest : Bytes) :
    t.after (s.sequence ++ rest) = s.after rest := by
  obtain ⟨later, begins, plain⟩ := s.exists_sequence_eq
  have found := front?_sequence s.mem_all rest
  rw [begins, List.cons_append] at found ⊢
  rw [after, found, Option.getD_some, after_append plain]

/-- What stands in front of a separator is shown by itself. -/
theorem after_append_cons {q : UInt8} (separates : Separates q) (t : Tone) (a b : Bytes) :
    t.after (a ++ q :: b) = (t.after a).after b := by
  induction a generalizing t with
  | nil => exact after_cons separates.ne_escape t b
  | cons x rest ih =>
    have same : front? all (x :: (rest ++ q :: b)) = front? all (x :: rest) :=
      front?_append_cons separates (x :: rest) b
    rw [List.cons_append, after, after, same, ih]

theorem uncoloured_of_unescaped {text : Bytes} (h : escape ∉ text) : Uncoloured text := by
  intro t _ inside
  obtain ⟨rest, begins, -⟩ := t.exists_sequence_eq
  exact h (inside.subset (begins ▸ List.mem_cons_self))

theorem Uncoloured.of_infix {a b : Bytes} (h : Uncoloured b) (inside : a <:+: b) : Uncoloured a :=
  fun t coloured within => h t coloured (within.trans inside)

/-- No sequence stands across a separator. -/
theorem Uncoloured.append_cons {q : UInt8} (separates : Separates q) {a b : Bytes}
    (ha : Uncoloured a) (hb : Uncoloured b) : Uncoloured (a ++ q :: b) := by
  intro t coloured inside
  have within {a : Bytes} (front : t.sequence <+: a ++ q :: b) : t.sequence <:+: a := by
    rw [← List.isPrefixOf_iff_prefix, isPrefixOf_append_cons (separates t)] at front
    exact (List.isPrefixOf_iff_prefix.1 front).isInfix
  induction a with
  | nil =>
    rcases List.infix_cons_iff.1 inside with front | later
    · exact ha t coloured (within front)
    · exact hb t coloured later
  | cons x a ih =>
    rcases List.infix_cons_iff.1 inside with front | later
    · exact ha t coloured (within front)
    · exact ih (ha.of_infix (List.suffix_cons x a).isInfix) later

theorem after_of_uncoloured {text : Bytes} (h : Uncoloured text) :
    neutral.after text = neutral := by
  induction text with
  | nil => rfl
  | cons x rest ih =>
    have later : Uncoloured rest := fun t coloured inside =>
      h t coloured (inside.trans (List.suffix_cons x rest).isInfix)
    have stays : (front? all (x :: rest)).getD neutral = neutral := by
      cases found : front? all (x :: rest) with
      | none => rfl
      | some s =>
        have inside := (prefix_of_front? found).isInfix
        exact Classical.byContradiction fun coloured => h s coloured inside
    rw [after, stays, ih later]

end Tone

end SerialSuite
