import SerialSuite.Proofs.Alignment
import SerialSuite.Proofs.Decoding
import SerialSuite.Proofs.Rendering
import SerialSuite.Proofs.Sequences
import SerialSuite.Proofs.Trace

/-!
Colour only decorates. What a run or a dispatcher shows in colour is what it shows without, but for
a sequence in front of each coloured text and one behind it (`printed_decorated`). The names between
them are given from outside and may hold sequences and parts of them; each is shown between two
quotes, which no sequence crosses. A line of any tone leaves a terminal neutral that was neutral
before, unless a name has switched it (`after_printed`).
-/

namespace SerialSuite

/-! Texts without escapes. -/

/-- The text has no escape among its characters. -/
def Unescaped (text : String) : Prop := '\x1b' ∉ text.toList

instance (text : String) : Decidable (Unescaped text) :=
  inferInstanceAs (Decidable ('\x1b' ∉ text.toList))

theorem escape_not_mem_utf8 {text : String} (h : Unescaped text) : escape ∉ utf8 text := by
  intro inside
  obtain ⟨c, among, byte⟩ := List.mem_flatMap.1 inside
  by_cases strange : c.toNat = 0 ∨ 0x80 ≤ c.toNat
  · exact absurd (Text.foreign_utf8EncodeChar strange _ byte) (by simp [Foreign, escape])
  · have small : c.val.toNat ≤ 127 := by
      have : c.val.toNat = c.toNat := rfl
      omega
    rw [String.utf8EncodeChar, if_pos small, List.mem_singleton] at byte
    have code : c.toNat = 0x1B := by
      have := congrArg UInt8.toNat byte
      rw [UInt8.toNat_ofNat_of_lt' (by show _ < 256; omega)] at this
      exact this.symm
    have same : c = '\x1b' := Char.toNat_inj.1 code
    exact h (same ▸ among)

theorem unescaped_append {a b : String} (ha : Unescaped a) (hb : Unescaped b) :
    Unescaped (a ++ b) := by
  unfold Unescaped
  rw [String.toList_append, List.mem_append, not_or]
  exact ⟨ha, hb⟩

theorem unescaped_nat (n : Nat) : Unescaped (toString n) := by
  intro inside
  rw [Nat.toString_eq_repr, Nat.toList_repr] at inside
  have digit : Char.isDigit '\x1b' = true :=
    Nat.isDigit_of_mem_toDigits (b := 10) (by decide) (by decide) inside
  exact absurd digit (by decide)

theorem unescaped_brief (d : Duration) : Unescaped d.brief := by
  unfold Duration.brief
  split
  · exact unescaped_append (unescaped_nat _) (by decide)
  · exact unescaped_append (unescaped_append (unescaped_append (unescaped_nat _) (by decide))
      (unescaped_nat _)) (by decide)

theorem unescaped_verdict (v : Verdict) : Unescaped (Notice.verdictLine v).text := by
  cases v with
  | passed elapsed | failed elapsed =>
    exact unescaped_append (unescaped_append (by decide) (unescaped_brief elapsed)) (by decide)
  | skipped => decide

theorem unescaped_summary (t : Tally) : Unescaped t.summary :=
  unescaped_append (unescaped_append (unescaped_append (unescaped_append (unescaped_append
    (unescaped_append (unescaped_append (unescaped_nat _) (by decide)) (unescaped_nat _))
    (by decide)) (unescaped_nat _)) (by decide)) (unescaped_nat _)) (by decide)

/-! The bytes of lines. -/

theorem flatten_map_utf8_filter (texts : List String) :
    ((texts.filter (· ≠ "")).map utf8).flatten = (texts.map utf8).flatten := by
  induction texts with
  | nil => rfl
  | cons text rest ih =>
    by_cases empty : text = ""
    · rw [List.filter_cons_of_neg (by simpa using empty), ih, empty]
      rfl
    · rw [List.filter_cons_of_pos (by simpa using empty)]
      simp only [List.map_cons, List.flatten_cons, ih]

namespace Line

/-- What ends a line. -/
def ending (l : Line) : Bytes := if l.ends then [0x0A] else []

theorem bytes_plain (l : Line) (colour : Bool) (h : (colour && l.tone != .neutral) = false) :
    l.bytes colour = utf8 l.text ++ l.ending := by
  have newline : utf8 "\n" = [0x0A] := by decide +kernel
  unfold bytes pieces ending
  rw [flatten_map_utf8_filter, h]
  cases l.ends <;> simp [newline]

theorem bytes_coloured {l : Line} (h : l.tone ≠ .neutral) :
    l.bytes true =
      l.tone.sequence ++ (utf8 l.text ++ (Tone.neutral.sequence ++ l.ending)) := by
  have code : utf8 l.tone.code = l.tone.sequence := by
    cases tone : l.tone with
    | neutral => exact absurd tone h
    | _ => rfl
  have reset : utf8 Tone.reset = Tone.neutral.sequence := rfl
  have newline : utf8 "\n" = [0x0A] := by decide +kernel
  unfold bytes pieces ending
  rw [flatten_map_utf8_filter, Bool.true_and, if_pos (bne_iff_ne.2 h)]
  cases l.ends <;> simp [code, reset, newline]

end Line

namespace Notice

/-- A line is a banner, or it has an end and no escape in it. -/
theorem lines_cases {n : Notice} {l : Line} (h : l ∈ n.lines) :
    (∃ name, n = .started name ∧ l = { text := banner Text.columns name, ends := false }) ∨
      Unescaped l.text ∧ l.ends = true := by
  cases n with
  | started name => exact .inl ⟨name, rfl, List.mem_singleton.1 h⟩
  | verdict v =>
    obtain rfl := List.mem_singleton.1 h
    exact .inr ⟨unescaped_verdict v, by cases v <;> rfl⟩
  | completed t | aborted t =>
    simp only [lines, List.mem_cons, List.not_mem_nil, or_false] at h
    rcases h with rfl | rfl | rfl
    · exact .inr ⟨by decide, rfl⟩
    · exact .inr ⟨by decide, rfl⟩
    · exact .inr ⟨unescaped_summary t, rfl⟩

/-- A banner's bytes: the name stands between two quotes, and a blank is last. -/
theorem exists_utf8_banner (width : List Char → Nat) (name : TestName) : ∃ dots, escape ∉ dots ∧
    utf8 (banner width name) =
      utf8 "Starting test " ++ 0x27 :: (utf8 name.text ++ 0x27 :: (dots ++ [0x20])) := by
  refine ⟨padded (width name.chars), ?_, ?_⟩
  · rw [padded, List.mem_append, not_or]
    exact ⟨by decide +kernel, fun inside => by cases List.eq_of_mem_replicate inside⟩
  · have opens : utf8 "Starting test '" = utf8 "Starting test " ++ [0x27] := by decide +kernel
    have closes : utf8 "'" = [0x27] := by decide +kernel
    rw [utf8_banner, opens, closes]
    simp

end Notice

/-! Colour off and on. -/

section Lines
variable {l : Line} {ls : List Line} {ns : List Notice}

theorem line_cases (h : l ∈ linesOf ns) :
    (∃ name, .started name ∈ ns ∧
      l = { text := Notice.banner Text.columns name, ends := false }) ∨
      escape ∉ utf8 l.text ∧ l.ends = true := by
  obtain ⟨n, among, inside⟩ := List.mem_flatMap.1 h
  rcases Notice.lines_cases inside with ⟨name, rfl, same⟩ | ⟨unescaped, ends⟩
  · exact .inl ⟨name, among, same⟩
  · exact .inr ⟨escape_not_mem_utf8 unescaped, ends⟩

theorem Line.escape_not_mem_ending (l : Line) : escape ∉ l.ending := by
  unfold ending
  split <;> decide

theorem Line.decorated (h : l ∈ linesOf ns) {tones : Tone → Prop} (any : ∀ t, tones t)
    {a b : Bytes} (later : Decorated tones a b) :
    Decorated tones (l.bytes true ++ a) (l.bytes false ++ b) := by
  have ended : Decorated tones (l.ending ++ a) (l.ending ++ b) :=
    later.append_plain l.escape_not_mem_ending
  rw [l.bytes_plain false rfl, List.append_assoc]
  rcases line_cases h with ⟨name, -, rfl⟩ | ⟨unescaped, -⟩
  · obtain ⟨dots, plain, banner⟩ := Notice.exists_utf8_banner Text.columns name
    have quote : Separates 0x27 := separates_of_mem (by decide)
    have blank : escape ∉ ([0x20] : Bytes) := by decide
    rw [bytes_plain _ true rfl, List.append_assoc, banner]
    simp only [List.append_assoc, List.cons_append]
    exact .closed _ quote <| .closed _ quote <| .append_plain plain <| ended.append_plain blank
  · by_cases neutral : l.tone = .neutral
    · rw [l.bytes_plain true (by simp [neutral]), List.append_assoc]
      exact ended.append_plain unescaped
    · rw [bytes_coloured neutral]
      simp only [List.append_assoc]
      exact .sequence (any _) <| .append_plain unescaped <| .sequence (any _) ended

theorem printed_decorated (h : ∀ l ∈ ls, l ∈ linesOf ns) {tones : Tone → Prop}
    (any : ∀ t, tones t) : Decorated tones (printed true ls) (printed false ls) := by
  induction ls with
  | nil => exact .nil
  | cons l rest ih =>
    rw [List.forall_mem_cons] at h
    exact Line.decorated h.1 any (ih h.2)

/-! The tone that a terminal is left in. -/

theorem Tone.uncoloured_text {name : TestName} (h : Uncoloured name.bytes) :
    Uncoloured (utf8 name.text) := by
  intro t coloured inside
  have ascii : ∀ x ∈ t.sequence, ¬ Foreign x := by
    rw [t.sequence_eq]
    cases t <;> simp [Foreign]
  exact h t coloured (TestName.infix_bytes ascii inside)

/-- A neutral line has no tone in it but those of a name. -/
theorem Line.uncoloured_bytes (h : l ∈ linesOf ns) (neutral : l.tone = .neutral)
    (names : ∀ name, .started name ∈ ns → Tone.Uncoloured name.bytes) :
    Tone.Uncoloured (l.bytes true) := by
  rw [l.bytes_plain true (by simp [neutral])]
  rcases line_cases h with ⟨name, among, rfl⟩ | ⟨unescaped, -⟩
  · obtain ⟨dots, plain, banner⟩ := Notice.exists_utf8_banner Text.columns name
    have quote : Separates 0x27 := separates_of_mem (by decide)
    show Tone.Uncoloured (utf8 (Notice.banner Text.columns name) ++ [])
    rw [List.append_nil, banner]
    have front : Tone.Uncoloured (utf8 "Starting test ") :=
      Tone.uncoloured_of_unescaped (by decide +kernel)
    have back : Tone.Uncoloured (dots ++ [0x20]) := by
      apply Tone.uncoloured_of_unescaped
      rw [List.mem_append, not_or]
      exact ⟨plain, by decide⟩
    exact front.append_cons quote ((Tone.uncoloured_text (names name among)).append_cons quote back)
  · apply Tone.uncoloured_of_unescaped
    rw [List.mem_append, not_or]
    exact ⟨unescaped, l.escape_not_mem_ending⟩

/-- The last byte of a line is a blank or a line feed. -/
theorem Line.exists_bytes_eq_concat (h : l ∈ linesOf ns) :
    ∃ front q, Separates q ∧ l.bytes true = front ++ [q] := by
  have feed : Separates 0x0A := separates_of_mem (by decide)
  have blank : Separates 0x20 := separates_of_mem (by decide)
  rcases line_cases h with ⟨name, -, rfl⟩ | ⟨-, ends⟩
  · obtain ⟨dots, -, banner⟩ := Notice.exists_utf8_banner Text.columns name
    refine ⟨utf8 "Starting test " ++ 0x27 :: (utf8 name.text ++ 0x27 :: dots), 0x20, blank, ?_⟩
    rw [bytes_plain _ true rfl, banner]
    simp [ending]
  · have last : l.ending = [0x0A] := if_pos ends
    by_cases neutral : l.tone = .neutral
    · exact ⟨_, _, feed, by rw [l.bytes_plain true (by simp [neutral]), last]⟩
    · refine ⟨l.tone.sequence ++ (utf8 l.text ++ Tone.neutral.sequence), _, feed, ?_⟩
      rw [bytes_coloured neutral, last]
      simp only [List.append_assoc]

/-- What comes behind a line is shown by itself. -/
theorem Line.after_append (h : l ∈ linesOf ns) (t : Tone) (rest : Bytes) :
    t.after (l.bytes true ++ rest) = (t.after (l.bytes true)).after rest := by
  obtain ⟨front, q, separates, bytes⟩ := exists_bytes_eq_concat h
  have alone := Tone.after_append_cons separates t front []
  rw [Tone.after] at alone
  rw [bytes, alone, List.append_assoc]
  exact Tone.after_append_cons separates t front rest

theorem after_printed_append (h : ∀ l ∈ ls, l ∈ linesOf ns) (t : Tone) (rest : Bytes) :
    t.after (printed true ls ++ rest) = (t.after (printed true ls)).after rest := by
  induction ls generalizing t with
  | nil => rfl
  | cons l later ih =>
    rw [List.forall_mem_cons] at h
    have cons : printed true (l :: later) = l.bytes true ++ printed true later := rfl
    rw [cons, List.append_assoc, Line.after_append h.1, Line.after_append h.1, ih h.2]

theorem Tone.after_unescaped {text : Bytes} (h : escape ∉ text) (t : Tone) : t.after text = t := by
  have alone := Tone.after_append h t []
  rwa [List.append_nil] at alone

/-- A coloured line ends the tone it begins. -/
theorem Line.after_coloured (h : l ∈ linesOf ns) (coloured : l.tone ≠ .neutral) (t : Tone) :
    t.after (l.bytes true) = .neutral := by
  rcases line_cases h with ⟨name, -, rfl⟩ | ⟨unescaped, -⟩
  · exact absurd rfl coloured
  · rw [bytes_coloured coloured, Tone.after_sequence, Tone.after_append unescaped,
      Tone.after_sequence, Tone.after_unescaped l.escape_not_mem_ending]

/-- Lines leave a terminal neutral, as long as no name switches it. -/
theorem after_printed (h : ∀ l ∈ ls, l ∈ linesOf ns)
    (names : ∀ name, .started name ∈ ns → Tone.Uncoloured name.bytes) :
    Tone.neutral.after (printed true ls) = .neutral := by
  induction ls with
  | nil => rfl
  | cons l later ih =>
    rw [List.forall_mem_cons] at h
    have left : Tone.neutral.after (l.bytes true) = .neutral := by
      by_cases neutral : l.tone = .neutral
      · exact Tone.after_of_uncoloured (Line.uncoloured_bytes h.1 neutral names)
      · exact Line.after_coloured h.1 neutral _
    show Tone.neutral.after (l.bytes true ++ printed true later) = _
    rw [Line.after_append h.1, left, ih h.2]

end Lines

/-- What is shown of notices with colour and without it. -/
structure Decorates (ns : List Notice) (coloured plain : Bytes) : Prop where
  /-- Both are the same lines. -/
  lines : coloured = printed true (linesOf ns) ∧ plain = printed false (linesOf ns)
  /-- Deleting the four sequences makes both the same: all of them at once, or one by one in any
  order and over and over. -/
  deleted : ∀ passes : List (List Tone), (∀ t, ∃ pass ∈ passes, t ∈ pass) →
    passes.foldl (fun text pass => without pass text) coloured =
      passes.foldl (fun text pass => without pass text) plain
  /-- A coloured line is a sequence of its tone, its text, a reset and a line feed. Its text is
  shown in its tone, and no tone is left on. -/
  closed : ∀ (before : List Line) (l : Line) (later : List Line),
    linesOf ns = before ++ l :: later → l.tone ≠ .neutral →
    l.bytes true = l.tone.sequence ++ utf8 l.text ++ utf8 Tone.reset ++ [0x0A] ∧
    (∀ shown : Bytes, shown <+: utf8 l.text →
      Tone.neutral.after (printed true before ++ l.tone.sequence ++ shown) = l.tone) ∧
    Tone.neutral.after (printed true before ++ l.bytes true) = .neutral
  /-- No other line is shown in a tone, unless a name switches to it. -/
  neutral : (∀ name, .started name ∈ ns → Tone.Uncoloured name.bytes) →
    ∀ (before : List Line) (l : Line) (later : List Line),
      linesOf ns = before ++ l :: later → l.tone = .neutral →
      ∀ shown : Bytes, shown <+: l.bytes true →
        Tone.neutral.after (printed true before ++ shown) = .neutral

theorem printed_decorates (ns : List Notice) :
    Decorates ns (printed true (linesOf ns)) (printed false (linesOf ns)) where
  lines := ⟨rfl, rfl⟩
  deleted passes all := by
    have decorated : Decorated (fun _ => True) (printed true (linesOf ns))
        (printed false (linesOf ns)) :=
      printed_decorated (fun _ inside => inside) fun _ => trivial
    exact decorated.foldl_without_eq fun t _ => all t
  closed before l later split coloured := by
    have inside : l ∈ linesOf ns := by simp [split]
    have earlier : ∀ l' ∈ before, l' ∈ linesOf ns := fun l' among => by simp [split, among]
    rcases line_cases inside with ⟨name, -, rfl⟩ | ⟨unescaped, ends⟩
    · exact absurd rfl coloured
    refine ⟨?_, fun shown front => ?_, ?_⟩
    · rw [Line.bytes_coloured coloured, Line.ending, if_pos ends]
      simp only [List.append_assoc]
      rfl
    · rw [List.append_assoc, after_printed_append earlier, Tone.after_sequence]
      exact Tone.after_unescaped (fun among => unescaped (front.subset among)) _
    · rw [after_printed_append earlier, Line.after_coloured inside coloured]
  neutral names before l later split neutral shown front := by
    have inside : l ∈ linesOf ns := by simp [split]
    have earlier : ∀ l' ∈ before, l' ∈ linesOf ns := fun l' among => by simp [split, among]
    have uncoloured := Line.uncoloured_bytes inside neutral names
    rw [after_printed_append earlier, after_printed earlier names]
    exact Tone.after_of_uncoloured (uncoloured.of_infix front.isInfix)

/-! Dispatchers and runs. -/

namespace Run

/-- The run once packets have been dispatched, each at its own time. -/
def dispatched (r : Run) (ps : List (Timed Packet)) : Run :=
  ps.foldl (fun r x => (r.dispatch x.1 x.2).2) r

theorem dispatched_console (r : Run) (ps : List (Timed Packet)) :
    (r.dispatched ps).console = r.console.reportAll (r.suite.shown Suite.receive ps) := by
  induction ps generalizing r with
  | nil => rfl
  | cons x rest ih =>
    obtain ⟨journal, first⟩ := r.dispatch_eq x.1 x.2
    have later := ih (r.dispatch x.1 x.2).2
    rw [Suite.shown_cons, Console.reportAll_append]
    refine later.trans ?_
    rw [first]
    rfl

theorem roundNotices_unseen {r g : Run} (h : Unseen r g) : r.roundNotices = g.roundNotices := by
  obtain ⟨console, journal, rfl⟩ := h
  rfl

/-- Round by round, both runs go on or neither does. -/
theorem driveNotices_unseen {r g : Run} (h : Unseen r g) : r.driveNotices = g.driveNotices := by
  have last {r g : Run} (h : Unseen r g) (ended : (r.round).1 ≠ .ok none) :
      r.driveNotices = g.driveNotices := by
    rw [driveNotices_of_last fun r' next => ended (congrArg Prod.fst next),
      driveNotices_of_last fun g' next => ended ((round_unseen h).1.trans (congrArg Prod.fst next)),
      roundNotices_unseen h]
  fun_induction Run.drive r generalizing g with
  | case1 r r' next ih =>
    obtain ⟨result, later⟩ := round_unseen h
    rw [next] at result later
    have next' : g.round = (.ok none, (g.round).2) := Prod.ext result.symm rfl
    rw [driveNotices_of_next next, driveNotices_of_next next', roundNotices_unseen h, ih later]
  | case2 r ending r' ended => exact last h (by simp [ended])
  | case3 r e r' ended => exact last h (by simp [ended])

theorem notices_unseen {r g : Run} (h : Unseen r g) : r.notices = g.notices := by
  obtain ⟨console, journal, rfl⟩ := h
  cases first : r.sender.send r.suite.opening.frame with
  | mk result sender =>
    cases result with
    | error e =>
      have unopened := @packets_of_unopened { r with console, journal } e sender first
      rw [unopened.2, (packets_of_unopened first).2]
    | ok =>
      obtain ⟨journal₁, -, -, opened, -⟩ := packets_of_opened first
      obtain ⟨journal₂, -, -, opened', -⟩ := @packets_of_opened { r with console, journal } _ first
      rw [opened, opened']
      exact driveNotices_unseen ⟨console, journal₂, rfl⟩

end Run

/-- Colour only decorates. A dispatcher, in any state and given any packets, shows on a console that
works what it shows without colour, decorated; so does a run, whatever arrives. -/
theorem colour_decorates (r : Run) :
    let on : Run := { r with console := { colour := true } }
    let off : Run := { r with console := { colour := false } }
    (∀ ps, Decorates (r.suite.shown Suite.receive ps) (on.dispatched ps).console.output
      (off.dispatched ps).console.output) ∧
    Decorates r.notices (on.finish).2.console.output (off.finish).2.console.output := by
  intro on off
  have works (colour : Bool) : Console.Works { colour } := fun _ _ => rfl
  constructor
  · intro ps
    rw [on.dispatched_console, off.dispatched_console,
      (Console.reportAll_printed (works true) _).output,
      (Console.reportAll_printed (works false) _).output]
    exact printed_decorates _
  · have shown : r.notices = on.notices := Run.notices_unseen ⟨_, r.journal, rfl⟩
    have shown' : r.notices = off.notices := Run.notices_unseen ⟨_, r.journal, rfl⟩
    rw [Run.finish_printed (works true), Run.finish_printed (works false), ← shown, ← shown']
    exact printed_decorates _

/-- A name that is the front of a sequence, and a passing test. -/
theorem colour_decorates_fragment :
    let name : TestName := ⟨[0x1B, 0x5B, 0x33], by decide, by decide⟩
    let state : SavedState := ⟨[], by decide⟩
    let ps : List (Timed Packet) :=
      [((Message.testStarted name false state).packet, .zero),
        ((Message.testResult .pass false state).packet, .zero)]
    let banner := utf8 "Starting test '\x1b[3'..." ++ List.replicate 94 0x20
    let shown (colour : Bool) : Bytes :=
      (Run.dispatched { receiver := { arrivals := [] }, console := { colour } } ps).console.output
    Tone.Uncoloured name.bytes ∧
      shown true = banner ++ utf8 "\x1b[32mpassed (0 ms)\x1b[0m\n" ∧
      shown false = banner ++ utf8 "passed (0 ms)\n" ∧
      without Tone.all (shown true) = without Tone.all (shown false) ∧
      Tone.neutral.after banner = .neutral := by
  intro name state ps banner shown
  have uncoloured : Tone.Uncoloured name.bytes := by
    intro t coloured inside
    have short := inside.length_le
    rw [t.sequence_eq] at short
    cases t with
    | neutral => exact coloured rfl
    | _ => exact absurd short (by decide)
  have notices : Suite.shown Suite.receive {} ps = [.started name, .verdict (.passed .zero)] := by
    decide +kernel
  have text : utf8 (Notice.banner Text.columns name) = banner := by
    have three : Text.columns name.chars = 3 := by decide +kernel
    have shown : name.text = "\x1b[3" := by decide +kernel
    rw [Notice.utf8_banner, three, shown]
    decide +kernel
  let first : Line := { text := Notice.banner Text.columns name, ends := false }
  have started (colour : Bool) : first.bytes colour = banner := by
    rw [first.bytes_plain colour (Bool.and_false colour), text]
    exact List.append_nil banner
  obtain ⟨dispatched, -⟩ := colour_decorates { receiver := { arrivals := [] } }
  obtain ⟨⟨coloured, plain⟩, deleted, -, neutral⟩ := dispatched ps
  rw [notices] at coloured plain neutral
  have split : linesOf [.started name, .verdict (.passed .zero)] =
      [] ++ first :: [Notice.verdictLine (.passed .zero)] := rfl
  have front : banner <+: first.bytes true := (started true).symm ▸ List.prefix_rfl
  have left := neutral (by simpa using uncoloured) [] _ _ split rfl banner front
  have same := deleted [Tone.all] fun t => ⟨_, List.mem_cons_self, t.mem_all⟩
  rw [coloured, plain, List.foldl_cons, List.foldl_cons, List.foldl_nil, List.foldl_nil] at same
  have both (colour : Bool) : printed colour (linesOf [.started name, .verdict (.passed .zero)]) =
      banner ++ (Notice.verdictLine (.passed .zero)).bytes colour := by
    rw [split, List.nil_append, printed, List.flatMap_cons, List.flatMap_singleton, started]
  have on : shown true = _ := coloured
  have off : shown false = _ := plain
  rw [on, off]
  refine ⟨uncoloured, (both true).trans ?_, (both false).trans ?_, same, left⟩
  · exact congrArg _ (by decide +kernel)
  · exact congrArg _ (by decide +kernel)

end SerialSuite
