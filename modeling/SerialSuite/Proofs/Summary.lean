import SerialSuite.Proofs.Counting
import SerialSuite.Proofs.Phases

/-!
The summary of a run. A run that comes to an ending has shown a block with a summary. Whether it is
the only one, and the last thing shown, depends on what comes behind the first final result: another
start or result is handled as before it, and goes on the console behind the block
(`finish_summary`).
-/

namespace SerialSuite

/-- The text begins with a digit. -/
def Line.numbered (l : Line) : Bool := l.text.toList.head?.any Char.isDigit

namespace Notice

theorem numbered_summaryLine (t : Tally) : (summaryLine t).numbered = true := by
  have some : Nat.toDigits 10 t.passed ≠ [] := Nat.toDigits_ne_nil
  obtain ⟨d, rest, first⟩ := List.exists_cons_of_ne_nil some
  have digit : d.isDigit = true := Nat.isDigit_of_mem_toDigits (by decide) (by decide)
    (first ▸ List.mem_cons_self)
  simp [Line.numbered, summaryLine, Tally.summary, first, digit]

theorem head?_append {a b : String} {c : Char} (h : a.toList.head? = some c) :
    (a ++ b).toList.head? = some c := by
  rw [String.toList_append, List.head?_append, h]
  rfl

theorem numbered_banner (width : List Char → Nat) (name : TestName) (ends : Bool) :
    Line.numbered { text := banner width name, ends } = false := by
  have opens : (banner width name).toList.head? = some 'S' :=
    head?_append (head?_append (head?_append (head?_append (head?_append rfl))))
  rw [Line.numbered, opens]
  rfl

theorem numbered_verdictLine (v : Verdict) : (verdictLine v).numbered = false := by
  cases v with
  | passed elapsed =>
    have opens : (verdictLine (.passed elapsed)).text.toList.head? = some 'p' :=
      head?_append (head?_append rfl)
    rw [Line.numbered, opens]
    rfl
  | failed elapsed =>
    have opens : (verdictLine (.failed elapsed)).text.toList.head? = some 'f' :=
      head?_append (head?_append rfl)
    rw [Line.numbered, opens]
    rfl
  | skipped => rfl

variable {n : Notice} {t : Tally}

/-- A block ends with its summary, and no other line is one. -/
theorem lines_of_block (h : n.tally? = some t) :
    ∃ front, n.lines = front ++ [summaryLine t] ∧ ∀ l ∈ front, l.numbered = false := by
  cases n with
  | completed t' =>
    cases h
    exact ⟨[{ text := "" }, { text := "All test cases are completed!" }], rfl, by decide⟩
  | aborted t' =>
    cases h
    exact ⟨[{ text := "" },
      { text := "Stopping after first failure (--stop-on-error)", tone := .red }], rfl, by decide⟩
  | _ => cases h

theorem numbered_of_other (h : n.tally? = none) : ∀ l ∈ n.lines, l.numbered = false := by
  cases n with
  | started name => simpa [lines] using numbered_banner Text.columns name false
  | verdict v => simpa [lines] using numbered_verdictLine v
  | completed | aborted => cases h

theorem lines_ne_nil (n : Notice) : n.lines ≠ [] := by
  cases n <;> simp [lines]

end Notice

/-- A block is among the notices. -/
def HasBlock (ns : List Notice) : Prop := ∃ n ∈ ns, n.tally? ≠ none

/-- Nothing stands behind a block. -/
def BlocksLast (ns : List Notice) : Prop :=
  ∀ seen n rest, ns = seen ++ n :: rest → n.tally? ≠ none → rest = []

section blocks
variable {ns more : List Notice} {n b : Notice} {t : Tally}

theorem hasBlock_append : HasBlock (ns ++ more) ↔ HasBlock ns ∨ HasBlock more := by
  simp only [HasBlock, List.mem_append, or_and_right, exists_or]

theorem hasBlock_cons (h : n.tally? = none) : HasBlock (n :: ns) ↔ HasBlock ns := by
  simp [HasBlock, h]

theorem hasBlock_closing (abort isFinal : Bool) (t : Tally) :
    HasBlock (closing abort isFinal t) ↔ isFinal = true ∨ abort = true := by
  cases abort <;> cases isFinal <;> simp [HasBlock, closing, Notice.tally?]

theorem blocksLast_concat : BlocksLast (ns ++ [n]) ↔ ¬ HasBlock ns := by
  constructor
  · rintro last ⟨m, shown, block⟩
    obtain ⟨seen, rest, rfl⟩ := List.append_of_mem shown
    have nothing := last seen m (rest ++ [n]) (by simp) block
    simp at nothing
  · intro none seen m rest split block
    rcases List.eq_nil_or_concat rest with rfl | ⟨rest, z, rfl⟩
    · rfl
    · rw [List.concat_eq_append, ← List.cons_append, ← List.append_assoc] at split
      obtain ⟨rfl, -⟩ := List.append_inj' split rfl
      exact absurd ⟨m, by simp, block⟩ none

theorem blocksLast_of_none (h : ¬ HasBlock ns) : BlocksLast ns := by
  rintro seen n rest rfl block
  exact absurd ⟨n, by simp, block⟩ h

/-- In front of a notice that is no block, with at most one block behind it, there may be none. -/
theorem blocksLast_append (other : n.tally? = none) (h : more = [] ∨ ∃ b, more = [b]) :
    BlocksLast (ns ++ n :: more) ↔ ¬ HasBlock ns := by
  rcases h with rfl | ⟨b, rfl⟩
  · exact blocksLast_concat
  · rw [List.append_cons, blocksLast_concat, hasBlock_append, hasBlock_cons other]
    simp [HasBlock]

theorem numbered_linesOf (h : ¬ HasBlock ns) : ∀ l ∈ linesOf ns, l.numbered = false := by
  intro l shown
  obtain ⟨n, announced, line⟩ := List.mem_flatMap.1 shown
  have other : n.tally? = none := by
    by_contra block
    exact h ⟨n, announced, block⟩
  exact Notice.numbered_of_other other l line

theorem ne_summaryLine {l : Line} (h : l.numbered = false) (t : Tally) :
    l ≠ Notice.summaryLine t := by
  rintro rfl
  rw [Notice.numbered_summaryLine] at h
  cases h

theorem linesOf_ne_nil (h : ns ≠ []) : linesOf ns ≠ [] := by
  obtain ⟨n, rest, rfl⟩ := List.exists_cons_of_ne_nil h
  simp [linesOf, n.lines_ne_nil]

/-- The last block has the whole tally. -/
theorem Accounts.last (h : Accounts (ns ++ [n]) t) {t' : Tally} (block : n.tally? = some t') :
    t = t' := by
  have no_verdict : n.verdict? = none := by
    cases n with
    | completed | aborted => rfl
    | _ => cases block
  rw [h.tally, h.honest ns n [] rfl t' block, verdictsIn_append]
  simp [verdictsIn, no_verdict]

/-- A summary is the last line and the only summary just if no block has anything behind it. -/
theorem blocksLast_iff (h : Accounts ns t) (some : HasBlock ns) : BlocksLast ns ↔
    ∃ front, linesOf ns = front ++ [Notice.summaryLine t] ∧
      ∀ l ∈ front, ∀ t', l ≠ Notice.summaryLine t' := by
  constructor
  · intro last
    obtain ⟨n, shown, block⟩ := some
    obtain ⟨seen, rest, rfl⟩ := List.append_of_mem shown
    obtain rfl := last seen n rest rfl block
    obtain ⟨t', summed⟩ := Option.ne_none_iff_exists'.1 block
    obtain rfl := h.last summed
    obtain ⟨front, lines_eq, plain⟩ := Notice.lines_of_block summed
    have earlier := numbered_linesOf (blocksLast_concat.1 last)
    refine ⟨linesOf seen ++ front, ?_, ?_⟩
    · rw [linesOf_append, List.append_assoc, ← lines_eq]
      exact congrArg _ (List.append_nil _)
    · intro l line t'
      rcases List.mem_append.1 line with line | line
      · exact ne_summaryLine (earlier l line) t'
      · exact ne_summaryLine (plain l line) t'
  · rintro ⟨front, lines_eq, plain⟩ seen n rest rfl block
    by_contra followed
    obtain ⟨t', summed⟩ := Option.ne_none_iff_exists'.1 block
    obtain ⟨head, head_eq, -⟩ := Notice.lines_of_block summed
    -- the last line is one of those behind the block, so that the block's summary is not the last
    obtain ⟨later, l, later_eq⟩ := List.eq_nil_or_concat (linesOf rest) |>.resolve_left
      (linesOf_ne_nil followed)
    have split : linesOf (seen ++ n :: rest) =
        (linesOf seen ++ head ++ [Notice.summaryLine t'] ++ later) ++ [l] := by
      rw [linesOf_append, linesOf_cons, head_eq, later_eq]
      simp
    rw [split] at lines_eq
    have front_eq := List.append_inj_left' lines_eq (by simp)
    subst front_eq
    exact plain (Notice.summaryLine t') (by simp) t' rfl

end blocks

namespace Message

/-- The start or the result of a test. -/
def isTest : Message → Bool
  | testStarted .. | testResult .. => true
  | _ => false

def isFinal : Message → Bool
  | testResult _ isFinal _ => isFinal
  | _ => false

end Message

/-- A packet with a message of this kind. -/
def Brings (kind : Message → Bool) (x : Timed Packet) : Prop :=
  ∃ m, Message.decode x.1.payload = .ok m ∧ kind m = true

/-- No test starts or ends behind a final result. -/
def Undisturbed (ps : List (Timed Packet)) : Prop :=
  ∀ before x rest, ps = before ++ x :: rest → (∃ y ∈ before, Brings Message.isFinal y) →
    ¬ Brings Message.isTest x

theorem undisturbed_concat {ps : List (Timed Packet)} {x : Timed Packet} :
    Undisturbed (ps ++ [x]) ↔ Undisturbed ps ∧
      ((∃ y ∈ ps, Brings Message.isFinal y) → ¬ Brings Message.isTest x) := by
  exact forall_split_concat

namespace Suite

theorem receive_accounts {ns : List Notice} {s : Suite} (h : Accounts ns s.progress.tally)
    (x : Timed Packet) :
    Accounts (ns ++ (s.receive x).notices) (s.receive x).suite.progress.tally := by
  rw [← s.contact_progress] at h
  cases decoded : Message.decode x.1.payload with
  | ok m =>
    obtain ⟨suite_eq, noticed, -⟩ := s.receive_of_decode decoded
    rw [suite_eq, noticed]
    exact h.heed (m, x.2)
  | error e =>
    obtain ⟨suite_eq, noticed, -⟩ := s.receive_of_undecoded decoded
    rw [suite_eq, noticed, List.append_nil]
    exact h

/-- What brings no test shows nothing. -/
theorem receive_silent {s : Suite} {x : Timed Packet} (other : ¬ Brings Message.isTest x) :
    (s.receive x).notices = [] := by
  cases decoded : Message.decode x.1.payload with
  | ok m =>
    rw [(s.receive_of_decode decoded).2.1]
    cases m with
    | testStarted | testResult => exact absurd ⟨_, decoded, rfl⟩ other
    | stateRequest | init | stateResponse => rfl
  | error e => exact (s.receive_of_undecoded decoded).2.1

/-- What brings a test shows a notice, and a block behind it with a final result or an abort. -/
theorem receive_shown {s : Suite} {x : Timed Packet} (test : Brings Message.isTest x) :
    ∃ n more, (s.receive x).notices = n :: more ∧ n.tally? = none ∧
      (more = [] ∨ ∃ b, more = [b]) := by
  obtain ⟨m, decoded, kind⟩ := test
  rw [(s.receive_of_decode decoded).2.1]
  cases m with
  | testStarted name nightlyOnly state => exact ⟨_, _, rfl, rfl, .inl rfl⟩
  | testResult outcome isFinal state =>
    refine ⟨_, _, heed_closing .., rfl, ?_⟩
    unfold closing
    split
    · exact .inr ⟨_, rfl⟩
    · split
      · exact .inr ⟨_, rfl⟩
      · exact .inl rfl
  | stateRequest | init | stateResponse => cases kind

/-- A block comes with a final result and with an abort. -/
theorem receive_hasBlock {s : Suite} {x : Timed Packet} :
    HasBlock (s.receive x).notices ↔ Brings Message.isFinal x ∨ (s.receive x).aborts = true := by
  cases decoded : Message.decode x.1.payload with
  | error e =>
    obtain ⟨-, noticed, aborts⟩ := s.receive_of_undecoded decoded
    simp [HasBlock, Brings, decoded, noticed, aborts]
  | ok m =>
    obtain ⟨-, noticed, result⟩ := s.receive_of_decode decoded
    simp only [Brings, decoded, noticed, Step.aborts, result, Except.ok.injEq, exists_eq_left']
    cases kind : m.isResult with
    | false =>
      obtain ⟨-, quiet, no_abort⟩ := (s.contact).1.heed_other (x := (m, x.2)) kind
      have not_final : m.isFinal = false := by
        cases m with
        | testResult => cases kind
        | _ => rfl
      have none : ¬ HasBlock ((s.contact).1.heed (m, x.2)).notices := by
        rintro ⟨n, shown, block⟩
        exact block (quiet n shown).2
      simp [none, not_final, no_abort]
    | true =>
      cases m with
      | testResult outcome isFinal state =>
        rw [heed_closing, hasBlock_cons rfl, hasBlock_closing]
        rfl
      | _ => cases kind

/-- Where no block was overtaken, none is by a packet without a test, or if there is none yet. -/
theorem receive_blocksLast {ns : List Notice} {s : Suite} {x : Timed Packet} :
    BlocksLast (ns ++ (s.receive x).notices) ↔
      BlocksLast ns ∧ (HasBlock ns → ¬ Brings Message.isTest x) := by
  by_cases test : Brings Message.isTest x
  · obtain ⟨n, more, shown, other, atMost⟩ := receive_shown (s := s) test
    rw [shown, blocksLast_append other atMost]
    constructor
    · intro none
      exact ⟨blocksLast_of_none none, fun some => absurd some none⟩
    · rintro ⟨-, only⟩ some
      exact only some test
  · simp [receive_silent test, test]

variable {s : Suite} {ps : List (Timed Packet)}

/-- While the run goes on, there is a block just if there was a final result. -/
theorem hasBlock_shown (on : s.GoesOn ps) :
    HasBlock (s.shown receive ps) ↔ ∃ y ∈ ps, Brings Message.isFinal y := by
  induction ps using List.reverseRecOn with
  | nil => simp [HasBlock, shown, steps]
  | append_singleton ps x ih =>
    obtain ⟨earlier, last⟩ := goesOn_append.1 on
    have no_abort := Step.not_aborts (goesOn_singleton.1 last)
    rw [shown_concat, hasBlock_append, ih earlier, receive_hasBlock]
    simp [no_abort, or_comm]

/-- No block is overtaken just if no test comes behind a final result. -/
theorem undisturbed_iff (on : s.GoesOn ps) (x : Timed Packet) :
    Undisturbed (ps ++ [x]) ↔ BlocksLast (s.shown receive (ps ++ [x])) := by
  have earlier : Undisturbed ps ↔ BlocksLast (s.shown receive ps) := by
    induction ps using List.reverseRecOn with
    | nil => simp [Undisturbed, BlocksLast, shown, steps]
    | append_singleton ps y ih =>
      have before := (goesOn_append.1 on).1
      rw [undisturbed_concat, shown_concat, receive_blocksLast, hasBlock_shown before, ih before]
  rw [undisturbed_concat, shown_concat, receive_blocksLast, hasBlock_shown on, earlier]

/-- A suite that drains or is done has shown a block. -/
theorem hasBlock_of_concluded (m : Mode)
    (h : (Suite.behind receive { mode := m } ps).phase = .draining ∨
      (Suite.behind receive { mode := m } ps).phase = .done) :
    HasBlock (Suite.shown receive { mode := m } ps) := by
  induction ps using List.reverseRecOn with
  | nil => simp [behind] at h
  | append_singleton ps x ih =>
    rw [shown_concat, hasBlock_append, receive_hasBlock]
    rw [behind_concat, receive_draining, receive_done] at h
    rcases h with (concludes | ⟨drains, -⟩) | (⟨-, drains⟩ | ⟨done, -⟩)
    · obtain ⟨outcome, state, decoded, -⟩ := concludes
      exact .inr (.inl ⟨_, decoded, rfl⟩)
    · exact .inl (ih (.inl drains))
    · exact .inl (ih (.inl drains))
    · exact .inl (ih (.inr done))

theorem Ends.hasBlock {m : Mode} {ending : Ending} (h : Ends { mode := m } ps ending) :
    HasBlock (Suite.shown receive { mode := m } ps) := by
  obtain ⟨before, x, rfl, -, last⟩ := h
  cases aborts : ((Suite.behind receive { mode := m } before).receive x).aborts with
  | true =>
    rw [shown_concat, hasBlock_append, receive_hasBlock]
    exact .inr (.inr aborts)
  | false =>
    have ended := Step.eq_of_ending last
    have done : ((Suite.behind receive { mode := m } before).receive x).suite.phase = .done := by
      by_contra going_on
      simp [aborts, going_on] at ended
    apply hasBlock_of_concluded
    rw [behind_concat]
    exact .inr done

end Suite

namespace Run

/-- A run records its ending with the tally it has then, last of all but for a failing close. -/
theorem finish_recorded {r : Run} {ending : Ending} (h : (r.finish).1 = .ok ending) :
    ∃ earlier later, (r.finish).2.journal.toList =
        earlier ++ .finished ending (r.finish).2.suite.progress.tally :: later ∧
      ∀ d ∈ later, ∃ cause, d = .closeFailed cause := by
  cases conversed : r.converse with
  | mk result r' =>
    simp only [finish, conversed] at h ⊢
    subst h
    rw [leave, if_neg (ok_ne_brokenOff ending), release]
    split
    · exact ⟨r'.journal.toList, [], Array.toList_push, by simp⟩
    · rename_i cause sender closed
      refine ⟨r'.journal.toList, [.closeFailed cause], ?_, by simp⟩
      simp [record, conclusion]

end Run

open Suite (receive)

/-- A run that comes to an ending puts the lines of its notices on a console that works, and records
its final tally at the end. Its last line is the summary with this tally, and there is no other
summary, just if no test started or ended behind a final result. -/
theorem finish_summary {r : Run} {ending : Ending} (fresh : r.suite = { mode := r.suite.mode })
    (works : r.console.Works) (h : (r.finish).1 = .ok ending) :
    let tally := (r.finish).2.suite.progress.tally
    let lines := linesOf r.notices
    (r.finish).2.console.output = r.console.output ++ printed r.console.colour lines ∧
    (∃ earlier later, (r.finish).2.journal.toList = earlier ++ .finished ending tally :: later ∧
      ∀ d ∈ later, ∃ cause, d = .closeFailed cause) ∧
    ((∃ front, lines = front ++ [Notice.summaryLine tally] ∧
      ∀ l ∈ front, ∀ t, l ≠ Notice.summaryLine t) ↔ Undisturbed r.packets) := by
  intro tally lines
  refine ⟨Run.finish_printed works, Run.finish_recorded h, ?_⟩
  obtain ⟨suite_eq, noticed⟩ := r.finish_packets
  obtain ⟨ends, -⟩ := Run.finish_ended h
  have accounts := Accounts.behind (f := receive) (fun _ _ x h => Suite.receive_accounts h x)
    r.suite.mode r.packets
  rw [← fresh, ← suite_eq, ← noticed] at accounts
  rw [fresh] at ends
  have some := ends.hasBlock
  rw [← fresh, ← noticed] at some
  obtain ⟨before, x, packets_eq, on, -⟩ := ends
  have undisturbed := Suite.undisturbed_iff on x
  rw [← fresh, ← packets_eq, ← noticed] at undisturbed
  rw [undisturbed]
  exact (blocksLast_iff accounts some).symm

/-- A run with one test, which passes. -/
theorem finish_summary_passed :
    let ps : List Packet := [⟨2, [0x44, 0, 0, 0, 0, 0, 0, 0]⟩, ⟨2, [0x11]⟩]
    let r : Run := { receiver := { arrivals := [.data (ps.flatMap Packet.frame)] } }
    r.console.Works ∧ (r.finish).1 = .ok .completed ∧ Undisturbed r.packets ∧
      ∃ front, linesOf r.notices = front ++ [Notice.summaryLine { passed := 1 }] ∧
        ∀ l ∈ front, ∀ t, l ≠ Notice.summaryLine t := by
  intro ps r
  have works : r.console.Works := fun _ _ => rfl
  have completed : (r.finish).1 = .ok .completed := by decide +kernel
  have tally : (r.finish).2.suite.progress.tally = { passed := 1 } := by decide +kernel
  have packets : r.packets = [(⟨2, [0x44, 0, 0, 0, 0, 0, 0, 0]⟩, .ofMillis 300)] ++
      [(⟨2, [0x11]⟩, .ofMillis 600)] := by decide +kernel
  have undisturbed : Undisturbed r.packets := by
    rw [packets]
    apply undisturbed_concat.2
    constructor
    · rintro (_ | ⟨y, before⟩) x rest split ⟨z, earlier, -⟩
      · cases earlier
      · simp at split
    · -- behind the final result there is a request only
      rintro - ⟨m, decoded, test⟩
      have request : Message.decode [0x11] = .ok .stateRequest := rfl
      cases request.symm.trans decoded
      cases test
  have last := (finish_summary rfl works completed).2.2
  rw [tally] at last
  exact ⟨works, completed, undisturbed, last.2 undisturbed⟩

/-- A failure that comes while the suite drains is counted behind the summary and shown there, so
that the last line is no summary at all. -/
theorem finish_summary_overtaken :
    let ps : List Packet :=
      [⟨2, [0x44, 0, 0, 0, 0, 0, 0, 0]⟩, ⟨2, [0x35, 0, 0, 0, 0, 0, 0, 0]⟩, ⟨2, [0x11]⟩]
    let r : Run := { receiver := { arrivals := [.data (ps.flatMap Packet.frame)] } }
    r.console.Works ∧ (r.finish).1 = .ok .completed ∧
      (r.finish).2.suite.progress.tally = { passed := 1, failed := 1 } ∧
      linesOf r.notices = [Notice.verdictLine (.passed .zero), { text := "" },
        { text := "All test cases are completed!" }, Notice.summaryLine { passed := 1 },
        Notice.verdictLine (.failed .zero)] ∧
      ∀ front t, linesOf r.notices ≠ front ++ [Notice.summaryLine t] := by
  intro ps r
  have works : r.console.Works := fun _ _ => rfl
  have completed : (r.finish).1 = .ok .completed := by decide +kernel
  have tally : (r.finish).2.suite.progress.tally = { passed := 1, failed := 1 } := by
    decide +kernel
  have lines_eq : linesOf r.notices = [Notice.verdictLine (.passed .zero), { text := "" },
      { text := "All test cases are completed!" }, Notice.summaryLine { passed := 1 },
      Notice.verdictLine (.failed .zero)] := by decide +kernel
  refine ⟨works, completed, tally, lines_eq, ?_⟩
  intro front t summed
  rw [lines_eq] at summed
  have last := congrArg List.getLast? summed
  rw [List.getLast?_concat] at last
  exact ne_summaryLine (Notice.numbered_verdictLine (.failed .zero)) t (Option.some.inj last)

end SerialSuite
