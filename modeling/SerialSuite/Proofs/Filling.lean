import Mathlib.Data.List.Induction
import SerialSuite.Proofs.Alignment

/-!
Consoles that run full. What such a console has taken is always the front of what was offered to it
(`Filled`): a write keeps that, and so do the writes of a line and the lines of a run, although
every line is tried anew. The whole output is the front of what a console without a limit shows,
with one flush for each line that was taken to its end (`reportAll_limited`).
-/

namespace SerialSuite

/-- How many of these lines end within so many bytes. -/
def fitting (room : Nat) (lines : List Bytes) : Nat :=
  (List.range lines.length).countP fun i => (lines.take (i + 1)).flatten.length ≤ room

theorem fitting_concat (room : Nat) (lines : List Bytes) (l : Bytes) :
    fitting room (lines ++ [l]) =
      fitting room lines + if (lines ++ [l]).flatten.length ≤ room then 1 else 0 := by
  have last : (lines ++ [l]).take (lines.length + 1) = lines ++ [l] :=
    List.take_of_length_le (by simp)
  have earlier : (List.range lines.length).countP
      (fun i => ((lines ++ [l]).take (i + 1)).flatten.length ≤ room) = fitting room lines := by
    apply List.countP_congr
    intro i inside
    rw [List.take_append_of_le_length (List.mem_range.1 inside)]
  rw [fitting, List.length_append, List.length_singleton, List.range_succ, List.countP_append,
    earlier, List.countP_singleton, last]
  simp only [decide_eq_true_eq]

theorem utf8_ne_nil {s : String} (h : s ≠ "") : utf8 s ≠ [] := by
  intro empty
  have none_left := List.flatMap_eq_nil_iff.1 empty
  apply h
  apply String.toList_eq_nil_iff.1
  cases chars : s.toList with
  | nil => rfl
  | cons c rest =>
    have nothing := none_left c (by simp [chars])
    have size := String.length_utf8EncodeChar c
    rw [nothing] at size
    exact absurd size (Nat.ne_of_lt c.utf8Size_pos)

namespace Console

/-- The console takes so many bytes in all, and has taken the front of what was offered. -/
structure Filled (c : Console) (room : Nat) (offered : Bytes) : Prop where
  accepts : c.accepts = limited room
  output : c.output = offered.take room
  taken : c.taken = min room offered.length

section
variable {c : Console} {room : Nat} {offered : Bytes}

/-- A full console shows the same however much more is offered. -/
theorem Filled.more (h : c.Filled room offered) (full : room ≤ offered.length) (b : Bytes) :
    c.Filled room (offered ++ b) where
  accepts := h.accepts
  output := by rw [h.output, List.take_append_of_le_length full]
  taken := by
    rw [h.taken, List.length_append]
    omega

theorem write_limited (h : c.Filled room offered) (b : Bytes) :
    c.write b = (decide (b.length ≤ room - offered.length),
      c.take (b.take (room - offered.length))) := by
  have left : c.accepts c.writes c.taken = some (room - offered.length) := by
    have same : room - c.taken = room - offered.length := by
      rw [h.taken]
      omega
    rw [h.accepts, limited, same]
  simp only [write, left]
  split
  next fits => rw [List.take_of_length_le fits, decide_eq_true fits]
  next crossing => rw [decide_eq_false crossing]

theorem take_filled (h : c.Filled room offered) (b : Bytes) :
    (c.take (b.take (room - offered.length))).Filled room (offered ++ b) where
  accepts := h.accepts
  output := by rw [take_output, h.output, ← List.take_append]
  taken := by
    show c.taken + _ = _
    rw [h.taken, List.length_take, List.length_append]
    omega

/-- The writes of a line fill the console as one write of all their bytes would. A flush follows if
the console had room for all of them. -/
theorem writeAll_filled (h : c.Filled room offered) (pieces : List Bytes) :
    (c.writeAll pieces).2.Filled room (offered ++ pieces.flatten) ∧
      (c.writeAll pieces).2.flushes = c.flushes +
        if pieces.flatten.length ≤ room - offered.length then 1 else 0 := by
  induction pieces generalizing c offered with
  | nil =>
    have fits : ([] : Bytes).length ≤ room - offered.length := Nat.zero_le _
    rw [List.flatten_nil, List.append_nil, if_pos fits]
    exact ⟨⟨h.accepts, h.output, h.taken⟩, rfl⟩
  | cons b rest ih =>
    have next := take_filled h b
    have written := write_limited h b
    rw [List.flatten_cons, ← List.append_assoc]
    by_cases fits : b.length ≤ room - offered.length
    · rw [decide_eq_true fits] at written
      simp only [writeAll, written]
      obtain ⟨filled, flushes⟩ := ih next
      have same : rest.flatten.length ≤ room - (offered ++ b).length ↔
          (b ++ rest.flatten).length ≤ room - offered.length := by
        rw [List.length_append, List.length_append]
        omega
      simp only [same] at flushes
      exact ⟨filled, flushes⟩
    -- the write that crosses the limit is the line's last one
    · rw [decide_eq_false fits] at written
      simp only [writeAll, written]
      have beyond : room ≤ (offered ++ b).length := by
        rw [List.length_append]
        omega
      have long : ¬ (b ++ rest.flatten).length ≤ room - offered.length := by
        rw [List.length_append]
        omega
      rw [if_neg long]
      exact ⟨next.more beyond _, rfl⟩

end

/-- The console after lines, each of them in several writes. -/
def writeLines (c : Console) (lines : List (List Bytes)) : Console :=
  lines.foldl (fun c pieces => (c.writeAll pieces).2) c

theorem writeLines_append (c : Console) (a b : List (List Bytes)) :
    c.writeLines (a ++ b) = (c.writeLines a).writeLines b := List.foldl_append

/-- A console before its first line, with room for so many bytes. -/
def fresh (colour : Bool) (room : Nat) : Console := { colour, accepts := limited room }

/-- Lines, whatever writes they come in, fill a console in order, and those that end within the room
are followed by a flush. -/
theorem writeLines_filled (colour : Bool) (room : Nat) (lines : List (List Bytes))
    (solid : ∀ l ∈ lines, l.flatten ≠ []) :
    ((fresh colour room).writeLines lines).Filled room (lines.map List.flatten).flatten ∧
      ((fresh colour room).writeLines lines).flushes = fitting room (lines.map List.flatten) := by
  induction lines using List.reverseRecOn with
  | nil => exact ⟨⟨rfl, List.take_nil.symm, (Nat.min_zero room).symm⟩, rfl⟩
  | append_singleton front l ih =>
    obtain ⟨filled, flushes⟩ := ih fun x inside => solid x (List.mem_append_left _ inside)
    have some_byte : 0 < l.flatten.length :=
      List.length_pos_iff.2 (solid l (List.mem_append_right _ List.mem_cons_self))
    obtain ⟨filled', flushes'⟩ := writeAll_filled filled l
    rw [writeLines_append, List.map_append, List.map_singleton, fitting_concat, ← flushes,
      List.flatten_append, List.flatten_singleton]
    -- a line has a byte, so that none ends within the room behind one that was cut
    have same : l.flatten.length ≤ room - (front.map List.flatten).flatten.length ↔
        ((front.map List.flatten).flatten ++ l.flatten).length ≤ room := by
      rw [List.length_append]
      omega
    simp only [same] at flushes'
    exact ⟨filled', flushes'⟩

theorem writeAll_colour (c : Console) (pieces : List Bytes) :
    (c.writeAll pieces).2.colour = c.colour := by
  induction pieces generalizing c with
  | nil => rfl
  | cons b rest ih =>
    have written : (c.write b).2.colour = c.colour := by
      unfold write
      split
      · rfl
      · split <;> rfl
    unfold writeAll
    split
    next c' written' => rw [ih, ← written, written']
    next c' written' => rw [← written, written']

theorem writeLines_colour (c : Console) (lines : List (List Bytes)) :
    (c.writeLines lines).colour = c.colour := by
  induction lines generalizing c with
  | nil => rfl
  | cons l rest ih => exact (ih _).trans (c.writeAll_colour l)

theorem printAll_eq_writeLines (c : Console) (lines : List Line) :
    (c.printAll lines).1 = c.writeLines (lines.map fun l => l.pieces c.colour) := by
  induction lines generalizing c with
  | nil => rfl
  | cons l rest ih =>
    have step : (c.printAll (l :: rest)).1 =
        ((c.writeAll (l.pieces c.colour)).2.printAll rest).1 := by
      simp only [printAll, print]
      split
      next c' written => rw [written]
      next c' written => rw [written]
    rw [step, ih, writeAll_colour]
    rfl

/-- Notices are shown line by line. -/
theorem reportAll_eq_writeLines (c : Console) (ns : List Notice) :
    c.reportAll ns = c.writeLines ((linesOf ns).map fun l => l.pieces c.colour) := by
  induction ns generalizing c with
  | nil => rfl
  | cons n rest ih =>
    have first : (c.report n).1 = c.writeLines (n.lines.map fun l => l.pieces c.colour) :=
      c.printAll_eq_writeLines n.lines
    have step : c.reportAll (n :: rest) = (c.report n).1.reportAll rest := rfl
    rw [step, ih, first, writeLines_colour, linesOf_cons, List.map_append, writeLines_append]

end Console

/-- A line has something to write, if only its end. -/
theorem Line.bytes_ne_nil {l : Line} (h : l.text ≠ "" ∨ l.ends) (colour : Bool) :
    l.bytes colour ≠ [] := by
  have writes {s : String} (inside : s ∈ (if colour && l.tone != .neutral
      then [l.tone.code, l.text, Tone.reset] else [l.text]) ++ if l.ends then ["\n"] else [])
      (some_char : s ≠ "") : l.bytes colour ≠ [] := by
    intro empty
    have nothing := List.flatten_eq_nil_iff.1 empty (utf8 s)
      (List.mem_map_of_mem (List.mem_filter.2 ⟨inside, decide_eq_true some_char⟩))
    exact utf8_ne_nil some_char nothing
  rcases h with shown | ends
  · exact writes (List.mem_append_left _ (by split <;> simp)) shown
  · exact writes (s := "\n") (List.mem_append_right _ (by simp [ends])) (by decide)

theorem Notice.text_or_ends {n : Notice} {l : Line} (h : l ∈ n.lines) : l.text ≠ "" ∨ l.ends := by
  cases n with
  | started name =>
    rw [List.mem_singleton.1 h]
    exact .inl (banner_ne_empty _ name)
  | verdict v =>
    rw [List.mem_singleton.1 h]
    cases v <;> exact .inr rfl
  | completed t | aborted t =>
    right
    simp only [lines, List.mem_cons, List.not_mem_nil, or_false] at h
    rcases h with rfl | rfl | rfl <;> rfl

/-- A console that runs full shows a clean front of the whole. Whatever was started, passed, failed,
skipped, completed or aborted, in colour or not, a console with room for so many bytes takes the
first of those that a console without a limit takes, and flushes once for each line that ends within
the room. Into how many writes the lines are cut, and where, makes no difference. -/
theorem reportAll_limited (colour : Bool) (room : Nat) (ns : List Notice) :
    let lines := (linesOf ns).map (Line.bytes colour)
    let whole := Console.reportAll { colour } ns
    let cut := Console.reportAll { colour, accepts := Console.limited room } ns
    whole.output = lines.flatten ∧ cut.output = whole.output.take room ∧
      cut.flushes = fitting room lines ∧
      ∀ writes : List (List Bytes), writes.map List.flatten = lines →
        let c := Console.writeLines { colour, accepts := Console.limited room } writes
        c.output = cut.output ∧ c.flushes = cut.flushes := by
  intro lines whole cut
  have works : Console.Works { colour } := fun _ _ => rfl
  have shown : whole.output = lines.flatten := (Console.reportAll_printed works ns).output
  have solid : ∀ l ∈ lines, l ≠ [] := by
    intro b inside
    obtain ⟨l, among, rfl⟩ := List.mem_map.1 inside
    obtain ⟨n, -, within⟩ := List.mem_flatMap.1 among
    exact Line.bytes_ne_nil (Notice.text_or_ends within) colour
  have filled (writes : List (List Bytes)) (same : writes.map List.flatten = lines) :
      ((Console.fresh colour room).writeLines writes).output = lines.flatten.take room ∧
        ((Console.fresh colour room).writeLines writes).flushes = fitting room lines := by
    obtain ⟨full, flushes⟩ := Console.writeLines_filled colour room writes fun l inside =>
      solid _ (same ▸ List.mem_map_of_mem inside)
    rw [same] at full flushes
    exact ⟨full.output, flushes⟩
  have cut_eq : cut = (Console.fresh colour room).writeLines
      ((linesOf ns).map fun l => l.pieces colour) := Console.reportAll_eq_writeLines _ ns
  obtain ⟨output, flushes⟩ := filled _ (List.map_map : _ = lines)
  rw [← cut_eq] at output flushes
  refine ⟨shown, by rw [shown, output], flushes, fun writes same => ?_⟩
  obtain ⟨output', flushes'⟩ := filled writes same
  exact ⟨output'.trans output.symm, flushes'.trans flushes.symm⟩

/-- A console that runs full between a verdict's text and the end of its colour; the verdict comes
in six writes, of which the fifth is cut. -/
theorem reportAll_limited_colour :
    let ns : List Notice := [.verdict (.passed (.ofMillis 5)), .verdict .skipped]
    let cut := Console.reportAll { colour := true, accepts := Console.limited 20 } ns
    let writes := [["\x1b[32m", "passed (", "5 ms", ")", "\x1b[0m", "\n"].map utf8,
      [utf8 "\x1b[33mskipped (nightly only)\x1b[0m\n"]]
    cut.output = utf8 "\x1b[32mpassed (5 ms)\x1b[" ∧ cut.flushes = 0 ∧
      writes.map List.flatten = (linesOf ns).map (Line.bytes true) ∧
      (Console.writeLines { colour := true, accepts := Console.limited 20 } writes).output =
        cut.output := by
  intro ns cut writes
  have same : writes.map List.flatten = (linesOf ns).map (Line.bytes true) := by decide +kernel
  obtain ⟨whole, output, flushes, anyhow⟩ := reportAll_limited true 20 ns
  refine ⟨?_, flushes.trans (by decide +kernel), same, (anyhow writes same).1⟩
  rw [output, whole]
  decide +kernel

end SerialSuite
