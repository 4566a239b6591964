import SerialSuite.Proofs.Rounds

/-!
Consoles that work take whatever they are given. What such a console shows of notices is the bytes
of their lines, in order and with nothing in between (`reportAll_printed`).
-/

namespace SerialSuite

/-- What is written for a line: its text, between the sequences of its tone. -/
def Line.bytes (colour : Bool) (l : Line) : Bytes := (l.pieces colour).flatten

/-- What is written for lines in order. -/
def printed (colour : Bool) (ls : List Line) : Bytes := ls.flatMap (Line.bytes colour)

theorem printed_append (colour : Bool) (a b : List Line) :
    printed colour (a ++ b) = printed colour a ++ printed colour b := List.flatMap_append

/-- The lines of notices in order. -/
def linesOf (ns : List Notice) : List Line := ns.flatMap Notice.lines

theorem linesOf_cons (n : Notice) (ns : List Notice) : linesOf (n :: ns) = n.lines ++ linesOf ns :=
  rfl

theorem linesOf_append (a b : List Notice) : linesOf (a ++ b) = linesOf a ++ linesOf b :=
  List.flatMap_append

namespace Console

/-- Every write is taken whole. -/
def Works (c : Console) : Prop := ∀ writes taken, c.accepts writes taken = none

/-- What becomes of a working console that is given these bytes. -/
structure Printed (c : Console) (b : Bytes) (c' : Console) : Prop where
  works : c'.Works
  colour : c'.colour = c.colour
  output : c'.output = c.output ++ b

section
variable {c c' c'' : Console} {a b : Bytes}

theorem printed_refl (h : c.Works) : c.Printed [] c :=
  ⟨h, rfl, (List.append_nil _).symm⟩

theorem Printed.trans (h : c.Printed a c') (h' : c'.Printed b c'') : c.Printed (a ++ b) c'' where
  works := h'.works
  colour := h'.colour.trans h.colour
  output := by rw [h'.output, h.output, List.append_assoc]

theorem write_printed (h : c.Works) (b : Bytes) :
    ∃ c', c.write b = (true, c') ∧ c.Printed b c' := by
  refine ⟨c.take b, ?_, h, rfl, ?_⟩
  · simp only [write, h c.writes c.taken]
  · simp [take, output]

theorem writeAll_printed (h : c.Works) (pieces : List Bytes) :
    ∃ c', c.writeAll pieces = (true, c') ∧ c.Printed pieces.flatten c' := by
  induction pieces generalizing c with
  | nil => exact ⟨c.flush, rfl, h, rfl, (List.append_nil _).symm⟩
  | cons b rest ih =>
    obtain ⟨c₁, written, first⟩ := write_printed h b
    obtain ⟨c', all, later⟩ := ih first.works
    refine ⟨c', ?_, first.trans later⟩
    simp only [writeAll, written, all]

theorem printAll_printed (h : c.Works) (ls : List Line) :
    c.Printed (printed c.colour ls) (c.printAll ls).1 := by
  induction ls generalizing c with
  | nil => exact printed_refl h
  | cons l rest ih =>
    obtain ⟨c₁, written, first⟩ := writeAll_printed h (l.pieces c.colour)
    have later := ih first.works
    rw [first.colour] at later
    simp only [printAll, print, written]
    exact first.trans later

/-- A working console shows the lines of all its notices. -/
theorem reportAll_printed (h : c.Works) (ns : List Notice) :
    c.Printed (printed c.colour (linesOf ns)) (c.reportAll ns) := by
  induction ns generalizing c with
  | nil => exact printed_refl h
  | cons n rest ih =>
    have first := printAll_printed h n.lines
    have later := ih first.works
    rw [first.colour] at later
    rw [linesOf_cons, printed_append]
    exact first.trans later

end

end Console

/-- A run puts the lines of its notices on a console that works, and nothing else. -/
theorem Run.finish_printed {r : Run} (works : r.console.Works) :
    (r.finish).2.console.output =
      r.console.output ++ printed r.console.colour (linesOf r.notices) := by
  rw [r.finish_console]
  exact (Console.reportAll_printed works r.notices).output

/-- The text of a run up to the lines of some notice, and the text behind them. -/
theorem Run.finish_printed_concat {r : Run} (works : r.console.Works) {seen rest : List Notice}
    {n : Notice} (shown : r.notices = seen ++ n :: rest) :
    (r.finish).2.console.output = r.console.output ++
      printed r.console.colour (linesOf (seen ++ [n])) ++
      printed r.console.colour (linesOf rest) := by
  rw [finish_printed works, shown, List.append_cons, linesOf_append, printed_append,
    List.append_assoc]

end SerialSuite
