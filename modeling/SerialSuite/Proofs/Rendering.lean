import SerialSuite.Proofs.Lockstep

/-!
What the console makes of a run has no effect on it. `Unseen` relates runs that differ in their
consoles, and in what was recorded of these; a dispatch, a round and a whole run keep it, and have
the same result on both sides.
-/

namespace SerialSuite

namespace Run

/-- Dispatches packets, each at its own time; what comes of each, and the suite behind it. -/
def dispatchAll (r : Run) :
    List (Packet × Duration) → List (Except MessageError Reaction × Suite)
  | [] => []
  | (p, now) :: rest =>
    let (result, r) := r.dispatch p now
    (result, r.suite) :: r.dispatchAll rest

theorem dispatch_eq (r : Run) (p : Packet) (now : Duration) : ∃ journal,
    r.dispatch p now = ((r.suite.dispatch p now).result, { r with
      suite := (r.suite.dispatch p now).suite
      console := r.console.reportAll (r.suite.dispatch p now).notices, journal }) := by
  obtain ⟨journal, shown⟩ := performAll_frame { r with suite := (r.suite.dispatch p now).suite }
    (r.suite.dispatch p now).activity
  exact ⟨journal, congrArg _ shown⟩

/-- The runs differ in their consoles and journals only. -/
def Unseen (r g : Run) : Prop := ∃ console journal, g = { r with console, journal }

section
variable {r g : Run}

theorem dispatch_unseen (h : Unseen r g) (p : Packet) (now : Duration) :
    (r.dispatch p now).1 = (g.dispatch p now).1 ∧
      Unseen (r.dispatch p now).2 (g.dispatch p now).2 := by
  obtain ⟨console, journal, rfl⟩ := h
  obtain ⟨journal₁, shown⟩ := r.dispatch_eq p now
  obtain ⟨journal₂, shown'⟩ := dispatch_eq { r with console, journal } p now
  rw [shown, shown']
  exact ⟨rfl, _, journal₂, rfl⟩

theorem dispatchAll_unseen (h : Unseen r g) (ps : List (Packet × Duration)) :
    r.dispatchAll ps = g.dispatchAll ps := by
  induction ps generalizing r g with
  | nil => rfl
  | cons at_ rest ih =>
    obtain ⟨result, later⟩ := dispatch_unseen h at_.1 at_.2
    have suite : (r.dispatch at_.1 at_.2).2.suite = (g.dispatch at_.1 at_.2).2.suite := by
      obtain ⟨console, journal, same⟩ := later
      rw [same]
    simp only [dispatchAll, result, suite, ih later]

theorem round_unseen (h : Unseen r g) :
    (r.round).1 = (g.round).1 ∧ Unseen (r.round).2 (g.round).2 := by
  obtain ⟨console, journal, rfl⟩ := h
  rcases r.round_cases with
    ⟨e, receiver, read, round⟩ | ⟨p, receiver, step, journal₁, read, dispatched, round⟩
  · have round' := @round_of_error { r with console, journal } _ _ read
    rw [round, round']
    exact ⟨rfl, console, journal, rfl⟩
  · -- the step and the sender are the same, the step's notices meet different consoles
    obtain ⟨journal₂, round'⟩ := @round_eq { r with console, journal } p _ _ read dispatched
    rw [round, round']
    exact ⟨rfl, _, journal₂, rfl⟩

theorem finish_unseen (h : Unseen r g) :
    (r.finish).1 = (g.finish).1 ∧ Unseen (r.finish).2 (g.finish).2 := by
  obtain ⟨console, journal, rfl⟩ := h
  have start (sender : Sender) (journal₁ journal₂ : Array Diagnostic) :
      Unseen { r with sender, journal := journal₁ }
        { r with sender, console, journal := journal₂ } := ⟨console, journal₂, rfl⟩
  -- no round ever cuts one of the runs short
  have together := finish_together (C := fun _ _ => False) (r := r)
    (g := { r with console, journal }) (fun _ _ h => .inl (round_unseen h)) rfl rfl start
  rcases together with
    ⟨x, r', g', later, later', ⟨console', journal', rfl⟩, finish_eq, finish_eq'⟩ |
    ⟨_, _, _, _, _, never, _⟩
  · rw [finish_eq, finish_eq']
    refine ⟨rfl, console', later', ?_⟩
    unfold ended
    split <;> rfl
  · exact never.elim

end

end Run

/-- What a run shows never feeds back. Whatever the console takes or refuses, in colour or not, the
run has the same result and leaves the receiver with its clock, the sender with its log, and the
suite as they are with any other console. So does each dispatch of a packet, at any time and in any
order: it leaves the same suite, with the same reaction or error. -/
theorem finish_any_console (r : Run) (c₁ c₂ : Console) :
    let r₁ : Run := { r with console := c₁ }
    let r₂ : Run := { r with console := c₂ }
    (r₁.finish).1 = (r₂.finish).1 ∧
    (r₁.finish).2.receiver = (r₂.finish).2.receiver ∧
    (r₁.finish).2.sender = (r₂.finish).2.sender ∧
    (r₁.finish).2.suite = (r₂.finish).2.suite ∧
    ∀ ps, r₁.dispatchAll ps = r₂.dispatchAll ps := by
  intro r₁ r₂
  have unseen : Run.Unseen r₁ r₂ := ⟨c₂, r.journal, rfl⟩
  obtain ⟨result, console, journal, last⟩ := Run.finish_unseen unseen
  refine ⟨result, ?_, ?_, ?_, Run.dispatchAll_unseen unseen⟩
  · rw [last]
  · rw [last]
  · rw [last]

end SerialSuite
