import SerialSuite.Proofs.Overflow

/-!
Watchdogs. A watchdog only ever ends a read, and a longer one ends no read that a shorter one does
not end (`readPacket_watched`). A run therefore goes the same way under both for as long as the
shorter one keeps quiet.
-/

namespace SerialSuite

/-- A limit that is no shorter; to have none is to have the longest. -/
def Outlasts (limit shorter : Option Nat) : Prop := ∀ t ∈ limit, ∃ s ∈ shorter, s ≤ t

theorem outlasts_none (shorter : Option Nat) : Outlasts none shorter := by
  simp [Outlasts]

theorem outlasts_some {t s : Nat} (h : s ≤ t) : Outlasts (some t) (some s) := by
  simpa [Outlasts] using h

theorem Outlasts.eq_none {limit : Option Nat} (h : Outlasts limit none) : limit = none := by
  simpa [Outlasts, Option.eq_none_iff_forall_not_mem] using h

/-- The same pace with another watchdog, or with none. -/
def Pacing.watched (p : Pacing) (limit : Option Nat) : Pacing := { p with limit }

/-- The receiver with another watchdog, or with none. -/
def Receiver.watched (r : Receiver) (limit : Option Nat) : Receiver :=
  { r with pacing := r.pacing.watched limit }

namespace Receiver

section fill
variable {p : Pacing} {limit : Option Nat}

theorem release_watched (h : Outlasts limit p.limit) {since now held t : Nat}
    (released : release (p.deadline since) now held = .ok t) :
    release ((p.watched limit).deadline since) now held = .ok t := by
  cases limit with
  | none =>
    cases hp : p.limit with
    | none => simpa [Pacing.deadline, Pacing.watched, hp] using released
    | some s =>
      simp only [release, Pacing.deadline, Pacing.watched, hp, Option.map_some] at released ⊢
      split at released
      · exact released
      · cases released
  | some t' =>
    obtain ⟨s, hp, hs⟩ := h t' rfl
    rw [Option.mem_def] at hp
    simp only [release, Pacing.deadline, Pacing.watched, hp, Option.map_some] at released ⊢
    split at released
    · rw [if_pos (by omega)]
      exact released
    · cases released

/-- Where the shorter watchdog still waits, so does the longer one. -/
theorem waits_watched (h : Outlasts limit p.limit) {since now : Nat}
    (waits : ¬ (p.deadline since).any (· ≤ now) = true) :
    ¬ ((p.watched limit).deadline since).any (· ≤ now) = true := by
  cases limit with
  | none => simp [Pacing.deadline, Pacing.watched]
  | some t' =>
    obtain ⟨s, hp, hs⟩ := h t' rfl
    rw [Option.mem_def] at hp
    simp [Pacing.deadline, Pacing.watched, hp] at waits ⊢
    omega

/-- Where the clock cannot name the shorter watchdog's deadline, it cannot name the longer one's. -/
theorem overflows_watched (h : Outlasts limit p.limit) {since : Nat}
    (late : p.overflows since = true) :
    limit = none ∨ (p.watched limit).overflows since = true := by
  obtain ⟨s, hp, beyond⟩ := p.exists_of_overflows late
  cases limit with
  | none => exact .inl rfl
  | some t' =>
    obtain ⟨s', hp', hs⟩ := h t' rfl
    rw [Option.mem_def, hp, Option.some.injEq] at hp'
    right
    apply (Pacing.overflows_iff (p := p.watched (some t')) rfl since).2
    omega

end fill

/-- What a read comes to under a watchdog, and what it comes to under a longer one: the same, unless
the shorter watchdog ends it, or the one read breaks off where the other goes on. -/
inductive Outlasted (p : Pacing) (limit : Option Nat) :
    (shorter longer : Except LinkError α × Receiver) → Prop
  | same (x r) : Outlasted p limit (x, r) (x, r.watched limit)
  | silent (r y) : Outlasted p limit (.error p.silence, r) y
  | breaksShort {r y} : limit = none → r.clock ≤ y.2.clock →
      Outlasted p limit (.error (.io .overflow), r) y
  | breaksLong {x r} : r.clock ≤ x.2.clock → Outlasted p limit x (.error (.io .overflow), r)

section fill
variable {p : Pacing} {limit : Option Nat}

theorem fillFrom_watched (h : Outlasts limit p.limit) (want : Nat) (got : List Bytes)
    (since now held : Nat) (arrivals : List Arrival) :
    Outlasted p limit (fillFrom p want got since now held arrivals)
      (fillFrom (p.watched limit) want got since now held arrivals) := by
  -- step for step, up to the first at which the shorter watchdog gives up or a read breaks off
  fun_induction fillFrom p want got since now held arrivals with
  | case1 | case3 | case8 => exact .silent _ _
  | case2 want got since now held t released unlimited =>
    have unlimited' : limit = none := by
      have : p.limit = none := by simpa [Pacing.deadline] using unlimited
      exact (this ▸ h).eq_none
    have released' := release_watched h released
    have no_deadline : (p.watched limit).deadline since = none := by
      simp [Pacing.deadline, Pacing.watched, unlimited']
    rw [fillFrom, released']
    simp only [no_deadline]
    exact .same _ ⟨[], p, t, held⟩
  | case4 want got since now held t released bytes rest piece left split empty ih =>
    rw [fillFrom.eq_def (p.watched limit), release_watched h released]
    simpa only [split, empty, if_true] using ih
  | case5 want got since now held t released bytes rest piece left split some_taken late =>
    rcases overflows_watched h late with endless | late'
    · exact .breaksShort endless (fillFrom_released_le _ _ _ (release_watched h released))
    · rw [fillFrom.eq_def (p.watched limit), release_watched h released]
      simp only [split, if_neg some_taken, if_pos late']
      exact .same _ ⟨.data left :: rest, p, t, held⟩
  | case6 want got since now held t released bytes rest piece left split some_taken fits short ih =>
    rw [fillFrom.eq_def (p.watched limit), release_watched h released]
    simp only [split, if_neg some_taken, if_pos short]
    by_cases late : (p.watched limit).overflows t = true
    · rw [if_pos late]
      exact .breaksLong (fillFrom_clock_le _ _ _ _ _ _ _)
    · rw [if_neg late]
      exact ih
  | case7 want got since now held t released bytes rest piece left split some_taken fits enough =>
    rw [fillFrom.eq_def (p.watched limit), release_watched h released]
    simp only [split, if_neg some_taken, if_neg enough]
    by_cases late : (p.watched limit).overflows t = true
    · rw [if_pos late]
      exact .breaksLong (Nat.le_refl t)
    · rw [if_neg late]
      exact .same _ ⟨.data left :: rest, p, t, held⟩
  | case9 want got since now held t released rest waits ih =>
    rw [fillFrom.eq_def (p.watched limit), release_watched h released]
    simp only [if_neg (waits_watched h waits)]
    exact ih
  | case10 want got since now held t released ms rest ih =>
    rw [fillFrom.eq_def (p.watched limit), release_watched h released]
    exact ih
  | case11 want got since now held t released cause rest =>
    rw [fillFrom.eq_def (p.watched limit), release_watched h released]
    exact .same _ ⟨rest, p, t, held⟩

end fill

section read
variable {r : Receiver} {limit : Option Nat}

theorem fill_watched (h : Outlasts limit r.pacing.limit) (want : Nat) :
    Outlasted r.pacing limit (r.fill want) ((r.watched limit).fill want) := by
  by_cases late : (r.watched limit).pacing.overflows (r.watched limit).clock = true
  · rw [fill_of_overflow (r := r.watched limit) late]
    exact .breaksLong (r.fill_clock_le want)
  · by_cases late' : r.pacing.overflows r.clock = true
    · rw [fill_of_overflow late']
      exact .breaksShort ((overflows_watched h late').resolve_right late)
        ((r.watched limit).fill_clock_le want)
    · rw [fill.eq_def r, if_neg late', fill.eq_def (r.watched limit), if_neg late]
      by_cases none : want = 0
      · rw [if_pos none, if_pos none]
        exact .same _ r
      · rw [if_neg none, if_neg none]
        exact fillFrom_watched h _ _ _ _ _ _

/-- A reader goes on behind a fill, if it does, and not back. -/
theorem fill_clock_le_perform (r : Receiver) (want : Nat) (next : Bytes → Reading α) :
    (r.fill want).2.clock ≤ (perform (.fill want next) r).2.clock := by
  unfold perform
  split <;> rename_i filled
  · rw [filled]
    exact perform_clock_le _ _
  · exact Nat.le_of_eq (congrArg (fun x => x.2.clock) filled)

theorem perform_watched (reading : Reading α) (h : Outlasts limit r.pacing.limit) :
    Outlasted r.pacing limit (perform reading r) (perform reading (r.watched limit)) := by
  -- request for request, up to the first fill that does not end in the same way
  induction reading generalizing r with
  | done result => exact .same result r
  | pause ms next ih => exact ih (r := { r with clock := r.clock + pauseFor ms }) h
  | fill want next ih =>
    have kept := r.fill_pacing want
    have filled := fill_watched h want
    have later := r.fill_clock_le_perform want next
    have later' := (r.watched limit).fill_clock_le_perform want next
    generalize hx : r.fill want = x at kept filled later
    generalize hy : (r.watched limit).fill want = y at filled later'
    cases filled with
    | same result r' =>
      cases result with
      | error e =>
        simp only [perform, hx, hy]
        exact .same _ r'
      | ok bytes =>
        simp only [perform, hx, hy]
        dsimp only at kept
        rw [← kept] at h ⊢
        exact ih bytes h
    | silent r' =>
      simp only [perform, hx]
      exact .silent r' _
    | breaksShort endless le =>
      simp only [perform.eq_def (.fill want next) r, hx]
      exact .breaksShort endless (Nat.le_trans le later')
    | breaksLong le =>
      simp only [perform.eq_def (.fill want next) (r.watched limit), hy]
      exact .breaksLong (Nat.le_trans le later)

/-- A packet is read the same way under a longer watchdog, unless the shorter one ends the read, or
one of the two deadlines is too late for the clock. -/
theorem readPacket_watched (settle : Nat) (h : Outlasts limit r.pacing.limit) :
    Outlasted r.pacing limit (r.readPacket settle) ((r.watched limit).readPacket settle) :=
  perform_watched _ h

end read

end Receiver

namespace Run

/-- The run with another watchdog, or with none. -/
def watched (r : Run) (limit : Option Nat) : Run :=
  { r with receiver := r.receiver.watched limit }

/-- The runs differ in their watchdogs only; the first one has the pace `p`. -/
def Watches (p : Pacing) (limit : Option Nat) (r g : Run) : Prop :=
  r.receiver.pacing = p ∧ ∃ journal, g = { r.watched limit with journal }

/-- The next round of the run ends it with this error, by this instant. -/
def Stops (r : Run) (e : LinkError) (latest : Nat) : Prop :=
  ∃ receiver : Receiver, r.round = (.error (.link e), { r with receiver }) ∧
    receiver.clock ≤ latest

/-- The next round ends the first run with the error of its watchdog, or one of the runs breaks off
where the other goes on. -/
inductive Cut (p : Pacing) (limit : Option Nat) (r g : Run) : Prop
  | silent (latest) : r.Stops p.silence latest → Cut p limit r g
  | breaksShort : limit = none → r.Stops (.io .overflow) (g.round).2.receiver.clock →
      Cut p limit r g
  | breaksLong : g.Stops (.io .overflow) (r.round).2.receiver.clock → Cut p limit r g

section
variable {p : Pacing} {limit : Option Nat}

theorem stops_of_read {r : Run} {e : LinkError} {receiver : Receiver} {latest : Nat}
    (read : r.receiver.readPacket r.settle = (.error e, receiver)) (le : receiver.clock ≤ latest) :
    r.Stops e latest := ⟨receiver, round_of_error read, le⟩

theorem round_watched (outlasts : Outlasts limit p.limit) {r g : Run} (h : Watches p limit r g) :
    ((r.round).1 = (g.round).1 ∧ Watches p limit (r.round).2 (g.round).2) ∨ Cut p limit r g := by
  obtain ⟨pace, journal, rfl⟩ := h
  have outlasted := r.receiver.readPacket_watched r.settle (pace.symm ▸ outlasts)
  have kept : (r.receiver.readPacket r.settle).2.pacing = p :=
    (Receiver.perform_pacing _ _).trans pace
  have clock_eq := congrArg Receiver.clock r.round_receiver
  have clock_eq' := congrArg Receiver.clock { r.watched limit with journal }.round_receiver
  rw [pace] at outlasted
  generalize read : r.receiver.readPacket r.settle = x at outlasted kept clock_eq
  generalize read' : (r.receiver.watched limit).readPacket r.settle = y at outlasted
  cases outlasted with
  | silent receiver => exact .inr (.silent _ (stops_of_read read (Nat.le_refl _)))
  | @breaksShort receiver _ endless le =>
    have latest : receiver.clock ≤ ({ r.watched limit with journal }.round).2.receiver.clock := by
      rw [clock_eq']
      exact read' ▸ le
    exact .inr (.breaksShort endless (stops_of_read read latest))
  | @breaksLong _ receiver le =>
    rw [← clock_eq] at le
    exact .inr (.breaksLong (stops_of_read (r := { r.watched limit with journal }) read' le))
  | same result receiver =>
    left
    cases result with
    | error e =>
      have ended := @round_of_error { r.watched limit with journal } _ _ read'
      rw [round_of_error read, ended]
      exact ⟨rfl, kept, journal, rfl⟩
    | ok q =>
      -- the clocks agree, and so do the steps
      obtain ⟨journal₁, round⟩ := round_eq read rfl
      obtain ⟨journal₂, round'⟩ := @round_eq { r.watched limit with journal } q _ _ read' rfl
      rw [round, round']
      exact ⟨rfl, kept, journal₂, rfl⟩

/-- What one run has sent and shown when a round ends it, the other one sends and shows too. -/
theorem Stops.grows {r g : Run} {e : LinkError} {latest : Nat} (stops : r.Stops e latest)
    (sender_eq : g.sender = r.sender) (console_eq : g.console = r.console) :
    (r.drive).1 = .error (.link e) ∧ Grows (r.drive).2 (g.drive).2 ∧
      (r.drive).2.receiver.clock ≤ latest := by
  obtain ⟨receiver, round, le⟩ := stops
  have on := g.drive_grows
  rw [drive_of_error round]
  exact ⟨rfl, ⟨sender_eq ▸ on.accepted, console_eq ▸ on.output⟩, le⟩

/-- Under a longer watchdog a run has the same answer, unless its own watchdog ends it, or one of
the two breaks off; what the one that ends first has sent and shown, the other one sends and shows
too. -/
theorem finish_outlasted (r : Run) (outlasts : Outlasts limit r.receiver.pacing.limit) :
    (r.watched limit).answer = r.answer ∨
      (r.answer.result = .error (.link r.receiver.pacing.silence) ∧
        Grows (r.finish).2 ((r.watched limit).finish).2) ∨
      (limit = none ∧ r.answer.result = brokenOff ∧
        Grows (r.finish).2 ((r.watched limit).finish).2 ∧
        r.answer.time ≤ (r.watched limit).answer.time) ∨
      ((r.watched limit).answer.result = brokenOff ∧
        Grows ((r.watched limit).finish).2 (r.finish).2 ∧
        (r.watched limit).answer.time ≤ r.answer.time) := by
  have start (sender : Sender) (journal journal' : Array Diagnostic) :
      Watches r.receiver.pacing limit { r with sender, journal }
        { r.watched limit with sender, journal := journal' } := ⟨rfl, journal', rfl⟩
  have together := finish_together (C := Cut r.receiver.pacing limit) (r := r)
    (g := r.watched limit) (fun _ _ => round_watched outlasts) rfl rfl start
  rcases together with
    ⟨x, r', g', later, later', ⟨-, journal, rfl⟩, finish_eq, finish_eq'⟩ |
    ⟨r', g', later, later', ⟨-, journal, rfl⟩, cut, finish_eq, finish_eq'⟩
  · left
    simp only [answer, finish_eq, finish_eq', ended_receiver, ended_sender, ended_console]
    rfl
  · right
    simp only [answer, finish_eq, finish_eq', ended_receiver]
    cases cut with
    | silent latest stops =>
      obtain ⟨result, grows, -⟩ := stops.grows (g := { r'.watched limit with journal }) rfl rfl
      exact .inl ⟨result, grows.ended ..⟩
    | breaksShort endless stops =>
      obtain ⟨result, grows, le⟩ := stops.grows (g := { r'.watched limit with journal }) rfl rfl
      exact .inr (.inl ⟨endless, result, grows.ended .., Nat.le_trans le (drive_clock_le _)⟩)
    | breaksLong stops =>
      obtain ⟨result, grows, le⟩ := stops.grows (g := r') rfl rfl
      exact .inr (.inr ⟨result, grows.ended .., Nat.le_trans le (drive_clock_le _)⟩)

end

end Run

/-- A watchdog only ever turns a run into its own timeout, as long as the clock can name its
deadlines. The run has the same answer with it as without, or the watchdog ends it, or it breaks off
where the next deadline is too late for the clock; and then what the run has sent and shown is a
front of what it sends and shows without. A run that the watchdog does not end has the same answer
under every longer one, unless it breaks off there. A run under a watchdog that is so long that it
cannot be set at all breaks off behind its first packet. -/
theorem finish_watched (r : Run) (t : Nat) :
    let silent : Except RunError Ending := .error (.link (.silent (.ofMillis t)))
    let short := r.watched (some t)
    let endless := r.watched none
    (short.answer = endless.answer ∨
      (short.answer.result = silent ∧ Run.Grows (short.finish).2 (endless.finish).2) ∨
      (short.answer.result = brokenOff ∧ Run.Grows (short.finish).2 (endless.finish).2 ∧
        short.answer.time ≤ endless.answer.time)) ∧
    (short.answer.result = brokenOff → lastInstant < short.answer.time + t) ∧
    (∀ sender, r.sender.send r.suite.opening.frame = (.ok (), sender) →
      lastInstant < r.receiver.clock + t → short.answer.result = brokenOff) ∧
    ∀ t' ≥ t, short.answer.result ≠ silent →
      let long := r.watched (some t')
      long.answer = short.answer ∨
        (long.answer.result = brokenOff ∧ Run.Grows (long.finish).2 (short.finish).2 ∧
          long.answer.time ≤ short.answer.time) := by
  intro silent short endless
  have longer (limit : Option Nat) (h : Outlasts limit (some t)) := short.finish_outlasted h
  have whole : endless.answer.result ≠ brokenOff := by
    intro broken
    have late := Run.finish_overflow broken
    rw [Pacing.overflows_of_unlimited rfl] at late
    cases late
  refine ⟨?_, ?_, ?_, ?_⟩
  · rcases longer none (outlasts_none _) with same | silenced | ⟨-, broken⟩ | ⟨broken, -⟩
    · exact .inl same.symm
    · exact .inr (.inl silenced)
    · exact .inr (.inr broken)
    · exact absurd broken whole
  · intro broken
    exact (Pacing.overflows_iff rfl _).1 (Run.finish_overflow broken)
  · intro sender opened late
    obtain ⟨journal, broken⟩ :=
      Run.finish_of_overflow (r := short) opened ((Pacing.overflows_iff rfl _).2 late)
    exact congrArg Prod.fst broken
  · intro t' long loud
    rcases longer (some t') (outlasts_some long) with same | ⟨silenced, -⟩ | ⟨endless, -⟩ | broken
    · exact .inl same
    · exact absurd silenced loud
    · cases endless
    · exact .inr broken

/-- A pass, and a request for the state 40 ms later. -/
def unhurried : Run where
  receiver := { arrivals := [.data (Packet.frame ⟨2, [0x44, 0, 0, 0, 0, 0, 0, 0]⟩), .wait 40,
    .data (Packet.frame ⟨2, [0x11]⟩)] }

/-- A target that is late by 40 ms: too late for a watchdog of 30 ms, early enough for one of 50 ms
and so for one of 60 ms. -/
theorem finish_watched_late :
    let r := unhurried
    exitCode (r.watched (some 30)).answer.result = ExitCode.link ∧
    exitCode (r.watched (some 50)).answer.result = ExitCode.completed ∧
      (r.watched (some 60)).answer = (r.watched (some 50)).answer := by
  intro r
  have late : exitCode (r.watched (some 30)).answer.result = ExitCode.link := by decide +kernel
  have completed : exitCode (r.watched (some 50)).answer.result = ExitCode.completed := by
    decide +kernel
  have loud : (r.watched (some 50)).answer.result ≠ .error (.link (.silent (.ofMillis 50))) := by
    intro silent
    rw [silent] at completed
    cases completed
  have whole : (r.watched (some 60)).answer.result ≠ brokenOff := by decide +kernel
  obtain ⟨-, -, -, longer⟩ := finish_watched r 50
  rcases longer 60 (by decide) loud with same | ⟨broken, -⟩
  · exact ⟨late, completed, same⟩
  · exact absurd broken whole

/-- Under the longest watchdog the run breaks off, although it completes with none and under a
watchdog of 50 ms: it has neither the same answer nor the watchdog's own error. -/
theorem finish_watched_overflow :
    let r := unhurried
    let long := (r.watched (some longestWatch)).answer
    exitCode (r.watched none).answer.result = ExitCode.completed ∧
      exitCode (r.watched (some 50)).answer.result = ExitCode.completed ∧
      exitCode long.result = ExitCode.brokenOff ∧
      long ≠ (r.watched none).answer ∧ long ≠ (r.watched (some 50)).answer ∧
      long.result ≠ .error (.link (.silent (.ofMillis longestWatch))) := by
  intro r long
  have broken : exitCode long.result = ExitCode.brokenOff := by decide +kernel
  have endless : exitCode (r.watched none).answer.result = ExitCode.completed := by
    decide +kernel
  have short : exitCode (r.watched (some 50)).answer.result = ExitCode.completed := by
    decide +kernel
  have apart {a : Answer} (completed : exitCode a.result = ExitCode.completed) : long ≠ a := by
    rintro rfl
    cases broken.symm.trans completed
  refine ⟨endless, short, broken, apart endless, apart short, ?_⟩
  intro silent
  rw [silent] at broken
  cases broken

end SerialSuite
