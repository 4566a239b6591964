import SerialSuite.FileTree
import SerialSuite.Run

/-!
Opening the two ends of the link as files, and a run on them.

Neither end is created. The sink comes first, and its content stays until it is written over; a
source that is a regular file is emptied, so that what an earlier run left there is not read again.
-/

namespace SerialSuite

/-- The open ends of the link. -/
structure Endpoints where
  tree : FileTree
  sink : Path
  source : Path
  /-- The paths as they were asked for. -/
  sinkText : String
  sourceText : String
  deriving DecidableEq, Repr

namespace Endpoints

/-- Where the sink is; a directory cannot be written to. -/
def findSink (t : FileTree) (path : String) : Except IoError Path := do
  let p ← t.locate path
  if t.node? p = some .directory then throw .isDirectory
  return p

/-- The calls on files that opening the link takes; `End` is what an open file is held by. -/
structure Calls (m : Type → Type) (End : Type) where
  openSink : String → m (Except IoError End)
  /-- Empties what is there if it is a regular file. -/
  clear : String → m (Except IoError Unit)
  openSource : String → m (Except IoError End)

/-- Opens both ends, call by call; the first call that fails ends this. -/
def openBy [Monad m] (calls : Calls m End) (sink source : String) :
    m (Except RunError (End × End)) := do
  match ← calls.openSink sink with
  | .error cause => return .error (.opening .sink sink cause)
  | .ok sinkEnd =>
    match ← calls.clear source with
    | .error cause => return .error (.opening .source source cause)
    | .ok () =>
      match ← calls.openSource source with
      | .error cause => return .error (.opening .source source cause)
      | .ok sourceEnd => return .ok (sinkEnd, sourceEnd)

/-- Opens both ends, or changes nothing. -/
def openIn (t : FileTree) (sink source : String) : Except RunError Endpoints :=
  match findSink t sink with
  | .error cause => .error (.opening .sink sink cause)
  | .ok sinkAt =>
    match t.locate source with
    | .error cause => .error (.opening .source source cause)
    | .ok sourceAt => .ok ⟨t.truncate sourceAt, sinkAt, sourceAt, sink, source⟩

/-- What reads of the source meet. A file ends in empty reads, a pipe in silence: a receiver does
not tell them apart. The first zero of a device ends a run already. -/
def arrivals (e : Endpoints) : List Arrival :=
  match e.tree.node? e.source with
  | some (.file data) | some (.pipe data) => [.data data]
  | some .directory => [.fail .isDirectory]
  | some (.device .zero) | some (.device .full) => [.data [0]]
  | _ => []

/-- A full device fails what is sent once it is flushed, and no later flush. -/
def sender (e : Endpoints) (s : Sender) : Sender :=
  match e.tree.node? e.sink with
  | some (.device .full) => { s with badFlush := some 1, cause := .noSpace }
  | _ => s

/-- Whether what is written to the sink can be read from the source. -/
def isShared (e : Endpoints) : Bool :=
  e.sink = e.source && match e.tree.node? e.source with
    | some (.file _) | some (.pipe _) => true
    | _ => false

/-- What the source holds when so much has been written to the sink. -/
def content (e : Endpoints) (accepted : Bytes) : Bytes :=
  match (e.tree.overwrite e.sink accepted).node? e.source with
  | some (.file data) | some (.pipe data) => data
  | _ => []

/-- No file goes on behind this offset. -/
def maxOffset : Nat := 0x7FFFFFFFFFFFFFFF

/-- Rounds on one file that is both the sink and the source: each of them reads, from an offset on,
what has been written by then. -/
def loopFrom (e : Endpoints) (offset : Nat) (r : Run) : Except RunError Ending × Run :=
  if maxOffset ≤ offset then (.error (.link (.io IoError.fileTooLarge)), r)
  else
    let unread := (e.content r.sender.accepted).drop offset
    match _h : (r.receiving [.data unread]).round with
    | (.ok none, r') => e.loopFrom (offset + (unread.length - r'.receiver.pending.length)) r'
    | (.ok (some ending), r') => (.ok ending, r')
    | (.error cause, r') => (.error cause, r')
termination_by maxOffset - offset
decreasing_by
  have := Run.round_shrinks _h
  simp only [Run.pending_receiving, List.flatMap_cons, List.flatMap_nil, Arrival.bytes,
    List.append_nil, unread] at this ⊢
  omega

/-- Runs the suite on the open ends. -/
def run (e : Endpoints) (r : Run) : (Except RunError Ending × Run) × FileTree :=
  let r := { r with sender := e.sender r.sender }.receiving e.arrivals
  let r := r.record (.linkOpen e.sinkText e.sourceText)
  let (result, r) := if e.isShared then r.finish (e.loopFrom 0) else r.finish
  ((result, r), e.tree.overwrite e.sink r.sender.accepted)

end Endpoints

end SerialSuite
