import SerialSuite.Proofs.Grammar
import SerialSuite.Receiver

/-!
Calls on one source, one after the other, and on after errors. Each call takes some bytes off the
front of what is still to come, the next one those behind them (`calls_consecutive`). What a call
takes goes by what it gives: `Takes` has a line for each way it can end, and a failing call has its
share too.
-/

namespace SerialSuite

/-- The reader has taken these bytes when one of its fills fails. -/
inductive Breaks : Reading α → Bytes → Prop
  | fill {count next b} : b.length < count → Breaks (.fill count next) b
  | later {count next b c} : b.length = count → Breaks (next b) c →
      Breaks (.fill count next) (b ++ c)
  | pause {ms next b} : Breaks next b → Breaks (.pause ms next) b

theorem not_breaks_done {result : Except LinkError α} {b : Bytes} : ¬ Breaks (.done result) b :=
  nofun

theorem breaks_fill_iff {count : Nat} {next : Bytes → Reading α} {b : Bytes} :
    Breaks (.fill count next) b ↔
      b.length < count ∨ ∃ c d, b = c ++ d ∧ c.length = count ∧ Breaks (next c) d := by
  constructor
  · intro h
    cases h with
    | fill short => exact .inl short
    | later whole h => exact .inr ⟨_, _, rfl, whole, h⟩
  · rintro (short | ⟨c, d, rfl, whole, h⟩)
    · exact .fill short
    · exact .later whole h

theorem breaks_pause_iff {ms : Nat} {next : Reading α} {b : Bytes} :
    Breaks (.pause ms next) b ↔ Breaks next b :=
  ⟨fun h => by cases h; assumption, .pause⟩

/-- A reader that is given nothing more has come to its result, or waits for more. -/
theorem consumes_or_breaks_nil (reading : Reading α) :
    (∃ x, Consumes reading [] x) ∨ Breaks reading [] := by
  induction reading with
  | done result => exact .inl ⟨result, .done result⟩
  | pause ms next ih => exact ih.imp (fun ⟨x, consumes⟩ => ⟨x, .pause consumes⟩) .pause
  | fill count next ih =>
    rcases Nat.eq_zero_or_pos count with rfl | some_wanted
    · have nothing : ([] : Bytes).length = 0 := rfl
      exact (ih []).imp (fun ⟨x, consumes⟩ => ⟨x, .fill nothing consumes⟩) (.later nothing)
    · exact .inr (.fill some_wanted)

theorem breaks_expect {marker : Marker} {found : UInt8} {next : Reading α} {b : Bytes}
    (h : Breaks (.expect marker found next) b) : found = marker.byte ∧ Breaks next b := by
  unfold Reading.expect at h
  split at h
  · exact ⟨‹_›, h⟩
  · exact absurd h not_breaks_done

/-- Where the reading of a packet breaks, no marker byte was wrong, and the last was not reached. -/
theorem endsEarly_of_breaks {settle : Nat} {b : Bytes} (h : Breaks (Packet.reading settle) b) :
    EndsEarly b := by
  rcases breaks_fill_iff.1 h with short | ⟨lead, b₁, rfl, hlead, h₁⟩
  · exact .inl short
  obtain ⟨s, rfl⟩ := List.length_eq_one_iff.1 hlead
  obtain ⟨synced, h₂⟩ := breaks_expect h₁
  obtain rfl : s = Marker.sync.byte := synced
  refine .inr ⟨rfl, ?_⟩
  rcases breaks_fill_iff.1 (breaks_pause_iff.1 h₂) with short | ⟨head, b₂, rfl, hhead, h₃⟩
  · have : b₁.length < 5 := short
    exact .inl (by simp; omega)
  obtain ⟨kind, high, mid, low, start, rfl⟩ := eq_of_length_five hhead
  obtain ⟨started, h₄⟩ := breaks_expect h₃
  obtain rfl : start = Marker.startOfData.byte := started
  refine .inr ⟨rfl, ?_⟩
  have size_eq : sizeAt ([Marker.sync.byte] ++ ([kind, high, mid, low, Marker.startOfData.byte] ++
    b₂)) = Packet.sizeOf high mid low := rfl
  rw [size_eq]
  -- what follows the header is shorter than the payload, or the payload and nothing else
  have cut : b₂.length ≤ Packet.sizeOf high mid low := by
    rcases breaks_fill_iff.1 h₄ with short | ⟨payload, b₃, rfl, hpayload, h₅⟩
    · exact Nat.le_of_lt short
    · have whole : payload.length = Packet.sizeOf high mid low := hpayload
      rcases breaks_fill_iff.1 h₅ with short | ⟨last, b₄, rfl, -, h₆⟩
      · rw [List.length_append]
        omega
      · exact absurd (breaks_expect h₆).2 not_breaks_done
  simp
  omega

namespace Receiver

theorem fill_error_lost {r r' : Receiver} {want : Nat} {e : LinkError}
    (h : r.fill want = (.error e, r')) : ∃ lost, r.pending = lost ++ r'.pending ∧
      (lost.length < want ∨ lost.length = want ∧ e = .io .overflow) := by
  have took := fill_took r want
  rw [h] at took
  cases took with
  | error lost short pending => exact ⟨lost, pending, .inl short⟩
  | brokenOff lost within pending =>
    exact ⟨lost, pending, (Nat.lt_or_eq_of_le within).imp_right fun whole => ⟨whole, rfl⟩⟩

/-- What a reader takes before this result: enough for it, or not enough for one of its fills, or,
if it breaks off, enough for what would have been its result. -/
inductive Ends (reading : Reading α) (b : Bytes) : Except LinkError α → Prop
  | consumed {x} : Consumes reading b x → Ends reading b x
  | broken (e) : Breaks reading b → Ends reading b (.error e)
  | brokenOff (x) : Consumes reading b x → Ends reading b (.error (.io .overflow))

theorem Ends.pause {ms : Nat} {next : Reading α} {b : Bytes} {x : Except LinkError α}
    (h : Ends next b x) : Ends (.pause ms next) b x := by
  cases h with
  | consumed consumes => exact .consumed (.pause consumes)
  | broken e breaks => exact .broken e (.pause breaks)
  | brokenOff x consumes => exact .brokenOff x (.pause consumes)

theorem Ends.fill {count : Nat} {next : Bytes → Reading α} {b c : Bytes} {x : Except LinkError α}
    (whole : c.length = count) (h : Ends (next c) b x) : Ends (.fill count next) (c ++ b) x := by
  cases h with
  | consumed consumes => exact .consumed (.fill whole consumes)
  | broken e breaks => exact .broken e (.later whole breaks)
  | brokenOff x consumes => exact .brokenOff x (.fill whole consumes)

theorem perform_took (reading : Reading α) (r : Receiver) :
    ∃ b, r.pending = b ++ (perform reading r).2.pending ∧
      Ends reading b (perform reading r).1 := by
  induction reading generalizing r with
  | done result => exact ⟨[], rfl, .consumed (.done result)⟩
  | pause ms next ih =>
    obtain ⟨b, pending, took⟩ := ih { r with clock := r.clock + pauseFor ms }
    exact ⟨b, pending, took.pause⟩
  | fill want next ih =>
    cases filled : r.fill want with
    | mk result r₁ =>
      simp only [perform, filled]
      cases result with
      | ok bytes =>
        obtain ⟨length_eq, pending⟩ := fill_ok filled
        obtain ⟨b, pending₁, took⟩ := ih bytes r₁
        exact ⟨bytes ++ b, by rw [pending, pending₁, List.append_assoc], took.fill length_eq⟩
      | error e =>
        obtain ⟨lost, pending, short | ⟨whole, rfl⟩⟩ := fill_error_lost filled
        · exact ⟨lost, pending, .broken e (.fill short)⟩
        · -- the fill has all its bytes, and what comes behind it has not asked for any
          refine ⟨lost, pending, ?_⟩
          rw [← List.append_nil lost]
          rcases consumes_or_breaks_nil (next lost) with ⟨x, consumes⟩ | breaks
          · exact .brokenOff x (.fill whole consumes)
          · exact .broken _ (.later whole breaks)

end Receiver

/-- What may be asked of a source. -/
inductive Call where
  | fill (count : Nat)
  | byte
  | packet (settle : Nat)
  deriving DecidableEq, Repr

/-- What a call gives. -/
inductive Gift where
  | bytes (b : Bytes)
  | byte (x : UInt8)
  | packet (p : Packet)
  deriving DecidableEq, Repr

/-- The bytes that a call takes when it ends like this. One that breaks off may have taken all that
it was to take, and then gives none of it. -/
inductive Call.Takes : Call → Except LinkError Gift → Bytes → Prop
  | filled {count b} : b.length = count → Takes (.fill count) (.ok (.bytes b)) b
  | unfilled {count e b} : b.length < count → Takes (.fill count) (.error e) b
  | fillBrokenOff {count b} : b.length = count → Takes (.fill count) (.error (.io .overflow)) b
  | byte {x} : Takes .byte (.ok (.byte x)) [x]
  | noByte {e} : Takes .byte (.error e) []
  | byteBrokenOff {x} : Takes .byte (.error (.io .overflow)) [x]
  | packet {settle p b} : p.encode = .ok b → Takes (.packet settle) (.ok (.packet p)) b
  | misframed {settle e b} : Framed b (.error e) → Takes (.packet settle) (.error e) b
  | unread {settle e b} : EndsEarly b → Takes (.packet settle) (.error e) b
  | packetBrokenOff {settle x b} : Framed b x → Takes (.packet settle) (.error (.io .overflow)) b

namespace Receiver

/-- Reads one byte. -/
def readByte (r : Receiver) : Except LinkError UInt8 × Receiver :=
  perform (.fill 1 fun b => .done (.ok (b.headD 0))) r

/-- Answers a call. -/
def call (r : Receiver) : Call → Except LinkError Gift × Receiver
  | .fill count => ((r.fill count).1.map .bytes, (r.fill count).2)
  | .byte => (r.readByte.1.map .byte, r.readByte.2)
  | .packet settle => ((r.readPacket settle).1.map .packet, (r.readPacket settle).2)

/-- A call, with the source before it and after it. -/
structure Called where
  call : Call
  before : Receiver
  result : Except LinkError Gift
  after : Receiver

/-- The bytes that are no longer to come after a call. -/
def Called.taken (c : Called) : Bytes :=
  c.before.pending.take (c.before.pending.length - c.after.pending.length)

/-- Answers calls one after the other, whatever comes of them. -/
def calls (r : Receiver) : List Call → List Called
  | [] => []
  | c :: rest => ⟨c, r, (r.call c).1, (r.call c).2⟩ :: (r.call c).2.calls rest

theorem Called.taken_eq {c : Called} {b : Bytes} (h : c.before.pending = b ++ c.after.pending) :
    c.taken = b := by
  rw [taken, h, List.length_append, Nat.add_sub_cancel_right, List.take_left]

theorem fill_takes (r : Receiver) (count : Nat) : ∃ b,
    r.pending = b ++ (r.fill count).2.pending ∧
      Call.Takes (.fill count) ((r.fill count).1.map .bytes) b := by
  cases filled : r.fill count with
  | mk result r₁ =>
    cases result with
    | ok b =>
      obtain ⟨length_eq, pending⟩ := fill_ok filled
      exact ⟨b, pending, .filled length_eq⟩
    | error e =>
      obtain ⟨lost, pending, short | ⟨whole, rfl⟩⟩ := fill_error_lost filled
      · exact ⟨lost, pending, .unfilled short⟩
      · exact ⟨lost, pending, .fillBrokenOff whole⟩

theorem readByte_takes (r : Receiver) : ∃ b,
    r.pending = b ++ r.readByte.2.pending ∧ Call.Takes .byte (r.readByte.1.map .byte) b := by
  cases filled : r.fill 1 with
  | mk result r₁ =>
    simp only [readByte, perform, filled]
    cases result with
    | ok b =>
      obtain ⟨length_eq, pending⟩ := fill_ok filled
      obtain ⟨x, rfl⟩ := List.length_eq_one_iff.1 length_eq
      exact ⟨[x], pending, .byte⟩
    | error e =>
      obtain ⟨lost, pending, short | ⟨whole, rfl⟩⟩ := fill_error_lost filled
      · obtain rfl : lost = [] := List.eq_nil_of_length_eq_zero (by omega)
        exact ⟨[], pending, .noByte⟩
      · obtain ⟨x, rfl⟩ := List.length_eq_one_iff.1 whole
        exact ⟨[x], pending, .byteBrokenOff⟩

theorem readPacket_takes (r : Receiver) (settle : Nat) : ∃ b,
    r.pending = b ++ (r.readPacket settle).2.pending ∧
      Call.Takes (.packet settle) ((r.readPacket settle).1.map .packet) b := by
  obtain ⟨b, pending, took⟩ := perform_took (Packet.reading settle) r
  refine ⟨b, pending, ?_⟩
  unfold readPacket
  generalize (perform (Packet.reading settle) r).1 = x at took ⊢
  cases took with
  | consumed consumes =>
    have framed := framed_of_consumes consumes
    cases x with
    | ok p =>
      cases framed with
      | packet fits => exact .packet (if_pos fits)
    | error e => exact .misframed framed
  | broken e breaks => exact .unread (endsEarly_of_breaks breaks)
  | brokenOff x consumes => exact .packetBrokenOff (framed_of_consumes consumes)

theorem fill_none_after (r : Receiver) : (r.fill 0).2 = r := by
  unfold fill
  split <;> rfl

theorem fill_none {r : Receiver}
    (room : ∀ limit ∈ r.pacing.limit, r.clock + limit ≤ lastInstant) : (r.fill 0).1 = .ok [] := by
  have fits : ¬ r.pacing.overflows r.clock = true := by
    intro late
    obtain ⟨limit, limited, beyond⟩ := r.pacing.exists_of_overflows late
    exact Nat.not_lt.2 (room limit limited) beyond
  rw [fill, if_neg fits]
  rfl

/-- One call takes the bytes that its result asks for off the front of what is still to come. -/
theorem call_takes (r : Receiver) (c : Call) :
    ∃ b, r.pending = b ++ (r.call c).2.pending ∧ c.Takes (r.call c).1 b := by
  cases c with
  | fill count => exact r.fill_takes count
  | byte => exact r.readByte_takes
  | packet settle => exact r.readPacket_takes settle

theorem calls_call (r : Receiver) (cs : List Call) : (r.calls cs).map Called.call = cs := by
  induction cs generalizing r with
  | nil => rfl
  | cons c rest ih => rw [calls, List.map_cons, ih]

/-- Whatever is asked of a source, and whatever comes of it, each call takes the bytes right behind
those that the calls before it took: a call's result says which (`Call.Takes`). A fill of no bytes
leaves the source as it is, and succeeds wherever the clock can name its deadline. -/
theorem calls_consecutive (r : Receiver) (cs : List Call) :
    (r.calls cs).map Called.call = cs ∧
    ∀ earlier c later, r.calls cs = earlier ++ c :: later →
      r.pending = earlier.flatMap Called.taken ++ c.taken ++ c.after.pending ∧
      c.call.Takes c.result c.taken ∧
      (c.call = .fill 0 → c.after = c.before ∧
        ((∀ limit ∈ c.before.pacing.limit, c.before.clock + limit ≤ lastInstant) →
          c.result = .ok (.bytes []))) := by
  refine ⟨r.calls_call cs, ?_⟩
  induction cs generalizing r with
  | nil => simp [calls]
  | cons c rest ih =>
    obtain ⟨b, pending, takes⟩ := r.call_takes c
    have taken_eq := Called.taken_eq (c := ⟨c, r, (r.call c).1, (r.call c).2⟩) pending
    rintro (- | ⟨c', earlier⟩) called later split
    · obtain ⟨rfl, -⟩ := List.cons.inj split
      refine ⟨?_, ?_, ?_⟩
      · rw [taken_eq]
        exact pending
      · rw [taken_eq]
        exact takes
      · rintro rfl
        exact ⟨r.fill_none_after, fun room => congrArg (Except.map Gift.bytes) (fill_none room)⟩
    · obtain ⟨rfl, split'⟩ := List.cons.inj split
      obtain ⟨pending', takes', none'⟩ := ih (r.call c).2 earlier called later split'
      refine ⟨?_, takes', none'⟩
      rw [pending, pending', List.flatMap_cons, taken_eq]
      simp only [List.append_assoc]

/-- A packet that stops short, a read that fails, and a packet between two bytes. -/
def interrupted : Receiver where
  arrivals := [.data [0xAA, 7], .wait 40, .data [0, 0], .fail (.os 5),
    .data ([1] ++ Packet.frame ⟨2, [0x11]⟩ ++ [5])]
  pacing := { poll := 20, limit := some 30 }

def persistent : List Call := [.packet 0, .fill 3, .byte, .fill 0, .packet 0, .packet 0]

/-- The watchdog ends the first call and the failing read the second one; the fifth reads the
packet. -/
theorem calls_consecutive_interrupted :
    ∃ c later, interrupted.calls persistent = interrupted.calls (persistent.take 4) ++ c :: later ∧
      (interrupted.calls (persistent.take 4)).map Called.taken = [[0xAA, 7], [0, 0], [1], []] ∧
      c.result = .ok (.packet ⟨2, [0x11]⟩) ∧ c.call.Takes c.result c.taken ∧
      interrupted.pending = (interrupted.calls (persistent.take 4)).flatMap Called.taken ++
        c.taken ++ c.after.pending := by
  obtain ⟨-, consecutive⟩ := calls_consecutive interrupted persistent
  have split : interrupted.calls persistent =
    interrupted.calls (persistent.take 4) ++ _ :: _ := rfl
  obtain ⟨pending, takes, -⟩ := consecutive _ _ _ split
  exact ⟨_, _, split, by decide +kernel, by rfl, takes, pending⟩

end Receiver

end SerialSuite
