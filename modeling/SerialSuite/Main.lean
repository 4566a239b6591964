import SerialSuite.Program

/-!
The program on real files: the only module that does input and output. What is read of the link is
decided by `Receiver`, what is sent, shown and recorded by `Run`; here it is carried out.
-/

namespace SerialSuite.Main

def causeOf : IO.Error → IoError
  | .alreadyExists _ code _ | .otherError code _ | .resourceBusy code _ | .resourceVanished code _
  | .unsupportedOperation code _ | .hardwareFault code _ | .unsatisfiedConstraints code _
  | .illegalOperation code _ | .protocolError code _ | .timeExpired code _ | .interrupted _ code _
  | .noFileOrDirectory _ code _ | .invalidArgument _ code _ | .permissionDenied _ code _
  | .resourceExhausted _ code _ | .inappropriateType _ code _ | .noSuchThing _ code _ =>
    .os code.toNat
  | .unexpectedEof => .custom "unexpected end of file"
  | .userError text => .custom text

/-- An action whose failure is a value. -/
def attempt (act : IO α) : IO (Except IoError α) := do
  match ← act.toBaseIO with
  | .ok a => return .ok a
  | .error e => return .error (causeOf e)

/-- The link's open ends. -/
structure Link where
  sink : IO.FS.Handle
  source : IO.FS.Handle

/-- What the reads of a fill have met so far, and the instant from which on the next one waits. -/
structure Heard where
  arrivals : Array Arrival := #[]
  since : Nat

/-- Fails a read that has not been made yet. -/
def unmade : IoError := .custom "not read yet"

/-- Reads byte after byte, until there are `want` of them, none has arrived, or a read fails. -/
partial def Link.listen (l : Link) (heard : IO.Ref Heard) (want : Nat) : IO Unit := do
  let met ← match ← attempt (l.source.read 1) with
    | .ok bytes => pure (if bytes.isEmpty then .empty else .data bytes.toList)
    | .error cause => pure (.fail cause)
  let now ← IO.monoMsNow
  heard.modify fun h => ⟨h.arrivals.push (.wait (now - h.since)) |>.push met, now⟩
  if met.bytes ≠ [] ∧ 1 < want then l.listen heard (want - 1)

/-- Has the receiver fill from the reads made so far. Where it comes to one that has not been made,
its clock says when to make it; while a read is under way, the receiver waits with it. -/
partial def Link.await (l : Link) (r : Receiver) (want : Nat) (heard : IO.Ref Heard)
    (listener : Task (Except IO.Error Unit)) : IO (Except LinkError Bytes × Receiver) := do
  let finished ← IO.hasFinished listener
  let h ← heard.get
  let now ← IO.monoMsNow
  let underWay : List Arrival := if finished then [] else [.wait (now - h.since)]
  let arrivals := h.arrivals.toList ++ underWay ++ [.fail unmade]
  match { r with arrivals }.fill want with
  | (.error (.io (.failed cause)), r') =>
    if cause ≠ unmade then
      return (.error (.io cause), r')
    else if !finished || now < r'.clock then
      IO.sleep 1
      l.await r want heard listener
    else
      let left := want - (h.arrivals.toList.flatMap Arrival.bytes).length
      heard.set { h with since := r'.clock }
      l.await r want heard (← IO.asTask (l.listen heard left) .dedicated)
  | decided => return decided

def Link.fill (l : Link) (r : Receiver) (want : Nat) : IO (Except LinkError Bytes × Receiver) := do
  l.await r want (← IO.mkRef { since := r.clock }) (.pure (.ok ()))

/-- Answers a reader's requests; the receiver's clock is the machine's. -/
def Link.perform (l : Link) : Reading α → Receiver → IO (Except LinkError α × Receiver)
  | .done result, r => return (result, r)
  | .pause ms next, r => do
    IO.sleep (pauseFor ms).toUInt32
    l.perform next { r with clock := ← IO.monoMsNow }
  | .fill want next, r => do
    match ← l.fill r want with
    | (.ok bytes, r) => l.perform (next bytes) r
    | (.error e, r) => return (.error e, r)

/-- Where output other than the link's goes. -/
structure Outlets where
  out : IO.FS.Stream
  err : IO.FS.Stream
  filter : Option LogFilter
  format : LogFormat

def Outlets.report (o : Outlets) (d : Diagnostic) : IO Unit := do
  if o.filter.any (·.shows d) then o.err.putStrLn (d.line o.format)

/-- Writes what a run has for the console; a console that fails does not stop the run. -/
def Outlets.show (o : Outlets) (text : Bytes) : IO Unit := do
  if text.isEmpty then return
  match ← attempt (do o.out.write ⟨text.toArray⟩; o.out.flush) with
  | .ok () => return
  | .error cause => o.report (.consoleFailed cause)

def Link.carryOut (l : Link) : List SinkEvent → IO (Except IoError Unit)
  | [] => return .ok ()
  | e :: rest => do
    let done ← match e with
      | .wrote bytes => attempt (l.sink.write ⟨bytes.toArray⟩)
      | .flushed => attempt l.sink.flush
      | _ => pure (.ok ())
    match done with
    | .ok () => l.carryOut rest
    | .error cause => return .error cause

/-- Carries out what a part of a run has left to do, and gives its result unless the link fails. -/
def deliver (l : Link) (o : Outlets) (part : Except RunError α × Run) :
    IO (Except RunError α × Run) := do
  let (result, r) := part
  r.journal.forM o.report
  o.show r.console.output
  let done ← l.carryOut r.sender.log.reverse
  let r := { r with
    journal := #[], console := { r.console with written := #[] }
    sender := { r.sender with log := [] } }
  match done with
  | .ok () => return (result, r)
  | .error cause => return (.error (.link (.io cause)), r)

/-- Rounds on an open link until the run ends. -/
partial def serve (l : Link) (o : Outlets) (r : Run) : IO (Except RunError Ending × Run) := do
  let packet ← l.perform (Packet.reading r.settle) { r.receiver with clock := ← IO.monoMsNow }
  match ← deliver l o (r.meet packet) with
  | (.error e, r) => return (.error e, r)
  | (.ok (some ending), r) => return (.ok ending, r)
  | (.ok none, r) => serve l o r

/-- The whole run on an open link. -/
def finish (l : Link) (o : Outlets) (r : Run) : IO (Except RunError Ending) := do
  let (result, r) ← match ← deliver l o (r.transmit r.suite.opening) with
    | (.error e, r) => pure (.error e, r)
    | (.ok (), r) => serve l o r
  if let (.error (.link (.io (.failed cause))), _) ← deliver l o (.ok (), r.leave result) then
    o.report (.closeFailed cause)
  return result

/-- Calls on real files. What is no regular file is not emptied. -/
def fileCalls : Endpoints.Calls IO IO.FS.Handle where
  openSink path := attempt (IO.FS.Handle.mk path .readWrite)
  clear path := do
    match ← attempt (IO.FS.Handle.mk path .readWrite) with
    | .error cause => return if cause = .isDirectory then .ok () else .error cause
    | .ok source =>
      let _ ← attempt source.truncate
      return .ok ()
  openSource path := attempt (IO.FS.Handle.mk path .read)

def runSuite (settings : Settings) (nightly stopOnError : Bool) : IO UInt32 := do
  let out ← IO.getStdout
  let err ← IO.getStderr
  err.putStr (Program.filterLine settings)
  let filter := (LogFilter.ofText settings.logLevel).toOption
  let o : Outlets := ⟨out, err, filter, settings.logFormat⟩
  match ← Endpoints.openBy fileCalls settings.sinkPath settings.sourcePath with
  | .error e =>
    err.putStr (Program.errorLine e)
    return e.exitCode.toUInt32
  | .ok (sink, source) =>
    o.report (.linkOpen settings.sinkPath settings.sourcePath)
    let start := Program.setup settings nightly stopOnError (← out.isTty) (← IO.monoMsNow)
    let result ← finish ⟨sink, source⟩ o start
    err.putStr (Program.lastLine result)
    return (exitCode result).toUInt32

/-- The environment variables that the program looks at. -/
def environment : IO Variables := do
  let values ← (Variable.all.map Variable.name ++ Styled.deciding).mapM fun name =>
    return (name, ← IO.getEnv name)
  return fun name => (values.lookup name).join.map utf8

def write (out : IO.FS.Stream) (message : Styled) (values : Variables) : IO Unit := do
  let text := message.render (Styled.wanted values (← out.isTty))
  out.write ⟨text.toArray⟩
  out.flush

end SerialSuite.Main

open SerialSuite in
def main (args : List String) : IO UInt32 := do
  let values ← Main.environment
  match Command.parse args with
  | .error e =>
    Main.write (← IO.getStderr) e.message values
    return Program.usageExitCode.toUInt32
  | .ok .help =>
    Main.write (← IO.getStdout) Command.helpMessage values
    return 0
  | .ok .version =>
    Main.write (← IO.getStdout) Command.versionMessage values
    return 0
  | .ok (.run nightly stopOnError) =>
    Main.runSuite (Settings.load (.ofVariables values)) nightly stopOnError
