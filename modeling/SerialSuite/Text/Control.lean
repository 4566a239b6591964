import SerialSuite.Bytes

/-!
Control sequences of terminals, and texts without them: what is left is printable characters and
white space. A sequence begins with an escape byte and ends where its kind says; what stands in it
is lost, but white space in a sequence still shows, and with it what follows up to the next control
byte.
-/

namespace SerialSuite.Text

/-- Where in a control sequence a terminal is. -/
inductive Control where
  /-- Outside of sequences. -/
  | ground
  | escape
  | escapeIntermediate
  /-- A command of parameters and intermediate bytes. -/
  | command
  | commandParameter
  | commandIntermediate
  | commandIgnored
  /-- A device control string: its head, and its data. -/
  | device
  | deviceParameter
  | deviceIntermediate
  | deviceIgnored
  | deviceData
  /-- A string for the operating system. -/
  | systemString
  /-- Any other string. -/
  | otherString
  deriving DecidableEq, Repr

namespace Control

/-- Bytes that end or begin a sequence wherever they stand. -/
def cancels (b : Nat) : Bool := b = 0x18 || b = 0x1A
def opens (b : Nat) : Bool := b = 0x1B

/-- Where one more byte leads within a sequence. -/
def afterByte (s : Control) (b : Nat) : Control :=
  let intermediate := 0x20 ≤ b && b ≤ 0x2F
  let parameter := 0x30 ≤ b && b ≤ 0x3B
  let marker := 0x3C ≤ b && b ≤ 0x3F
  let final := 0x40 ≤ b && b ≤ 0x7E
  match s with
  | ground => ground
  | escape =>
    if intermediate then escapeIntermediate
    else if b = 0x5B then command
    else if b = 0x5D then systemString
    else if b = 0x50 then device
    else if b = 0x58 || b = 0x5E || b = 0x5F then otherString
    else if 0x30 ≤ b && b ≤ 0x7E then ground
    else escape
  | escapeIntermediate => if 0x30 ≤ b && b ≤ 0x7E then ground else s
  | command | commandParameter =>
    if intermediate then commandIntermediate
    else if parameter then commandParameter
    else if marker then if s = command then commandParameter else commandIgnored
    else if final then ground
    else s
  | commandIntermediate =>
    if parameter || marker then commandIgnored else if final then ground else s
  | commandIgnored => if final then ground else s
  | device | deviceParameter =>
    if intermediate then deviceIntermediate
    else if parameter then deviceParameter
    else if marker then if s = device then deviceParameter else deviceIgnored
    else if final then deviceData
    else s
  | deviceIntermediate =>
    if parameter || marker then deviceIgnored else if final then deviceData else s
  | deviceIgnored | deviceData | otherString => if b = 0x9C then ground else s
  | systemString => if b = 0x07 then ground else s

def next (s : Control) (b : Nat) : Control :=
  if cancels b then ground else if opens b then escape else s.afterByte b

/-- Whether white space shows in a sequence. -/
def showsBlanks : Control → Bool
  | ground | escape | escapeIntermediate => true
  | command | commandParameter | commandIntermediate | commandIgnored => true
  | _ => false

/-- How many bytes follow the first one of a character. -/
def following (b : Nat) : Nat :=
  if 0xF0 ≤ b && b ≤ 0xF4 then 3 else if 0xE0 ≤ b && b < 0xF0 then 2
  else if 0xC2 ≤ b && b < 0xE0 then 1 else 0

/-- Whether a byte shows. -/
def shows (s : Control) (b : Nat) : Bool :=
  (s.showsBlanks && (b = 0x09 || b = 0x0A || b = 0x0C || b = 0x0D)) ||
    (s = ground && ((0x20 ≤ b && b < 0x7F) || 0 < following b))

/-- The bytes that show, from a place on; in a run of bytes that show, all count as outside of
sequences. `left` more bytes belong to a character that shows. -/
def visibleFrom (s : Control) (running : Bool) (left : Nat) : Bytes → Bytes
  | [] => []
  | b :: rest =>
    match left with
    | left + 1 => b :: visibleFrom s running left rest
    | 0 =>
      if shows (if running then ground else s) b.toNat then
        let left := following b.toNat
        b :: visibleFrom (if 0 < left then ground else s) true left rest
      else visibleFrom (s.next b.toNat) false 0 rest

end Control

/-- A text as a display without styles shows it. -/
def visible (text : Bytes) : Bytes := Control.visibleFrom .ground false 0 text

end SerialSuite.Text
