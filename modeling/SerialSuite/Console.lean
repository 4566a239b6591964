import SerialSuite.Diagnostic
import SerialSuite.Notice

/-!
The console that notices are written to. A line whose write fails is given up there, without a
flush, and recorded; the next line is tried anew.
-/

namespace SerialSuite

/-- A console and what became of the writes so far. -/
structure Console where
  colour : Bool := false
  /-- After so many writes and so many bytes taken, how much of the next write is taken; without a
  number, all of it. -/
  accepts : (writes taken : Nat) → Option Nat := fun _ _ => none
  writes : Nat := 0
  taken : Nat := 0
  written : Array Bytes := #[]
  flushes : Nat := 0

namespace Console

/-- Takes so many bytes in all. -/
def limited (room : Nat) : (writes taken : Nat) → Option Nat := fun _ taken => some (room - taken)

def refusing : (writes taken : Nat) → Option Nat := fun _ _ => some 0

/-- What was written, in order. -/
def output (c : Console) : Bytes := c.written.toList.flatten

def take (c : Console) (b : Bytes) : Console :=
  { c with writes := c.writes + 1, taken := c.taken + b.length, written := c.written.push b }

/-- One write; whether all of it was taken. -/
def write (c : Console) (b : Bytes) : Bool × Console :=
  match c.accepts c.writes c.taken with
  | none => (true, c.take b)
  | some room => if b.length ≤ room then (true, c.take b) else (false, c.take (b.take room))

def flush (c : Console) : Console := { c with flushes := c.flushes + 1 }

/-- Writes up to the first that fails; a flush follows the last one. -/
def writeAll (c : Console) : List Bytes → Bool × Console
  | [] => (true, c.flush)
  | b :: rest =>
    match c.write b with
    | (true, c) => c.writeAll rest
    | (false, c) => (false, c)

def print (c : Console) (l : Line) : Bool × Console := c.writeAll (l.pieces c.colour)

/-- Prints lines, and records those that were given up. -/
def printAll (c : Console) : List Line → Console × List Diagnostic
  | [] => (c, [])
  | l :: rest =>
    match c.print l with
    | (true, c) => c.printAll rest
    | (false, c) =>
      let (c, failures) := c.printAll rest
      (c, .consoleFailed .noSpace :: failures)

def report (c : Console) (n : Notice) : Console × List Diagnostic := c.printAll n.lines

end Console

end SerialSuite
