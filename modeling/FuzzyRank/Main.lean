import FuzzyRank.Cli.Filter

/-!
The command line program: reads, writes, and leaves every decision to the filter.
-/

namespace FuzzyRank.Cli

/-- The number of the error that a write gives when nobody reads any more. -/
def brokenPipe : UInt32 := 32

/-- The system's number and words for an error, where it has any. -/
def systemCause : IO.Error → Option (UInt32 × String)
  | .alreadyExists _ code text | .otherError code text | .resourceBusy code text
  | .resourceVanished code text | .unsupportedOperation code text | .hardwareFault code text
  | .unsatisfiedConstraints code text | .illegalOperation code text | .protocolError code text
  | .timeExpired code text | .interrupted _ code text | .noFileOrDirectory _ code text
  | .invalidArgument _ code text | .permissionDenied _ code text
  | .resourceExhausted _ code text | .inappropriateType _ code text
  | .noSuchThing _ code text => some (code, text)
  | .unexpectedEof | .userError _ => none

/-- The error as the filter reports it. -/
def systemError (e : IO.Error) : SystemError :=
  match systemCause e with
  | some (code, text) => .other text code.toNat
  | none => .other (toString e) 0

/-- What becomes of a write that failed. -/
def outletAfter (e : IO.Error) : Outlet :=
  match systemCause e with
  | some (code, _) => if code = brokenPipe then .closed else .failing (systemError e)
  | none => .failing (systemError e)

/-- Reads a stream to its end. -/
partial def readStream (stream : IO.FS.Stream) (bytes : ByteArray) : IO ByteArray := do
  let block ← stream.read 65536
  if block.isEmpty then return bytes
  readStream stream (bytes ++ block)

/-- Reads the file at a path. -/
def readInputFile (path : String) : IO (Except RunError (List UInt8)) := do
  if path.toList.contains '\x00' then
    return .error (.cannotOpen path .nulInName)
  match ← (IO.FS.Handle.mk path .read).toBaseIO with
  | .error e => return .error (.cannotOpen path (systemError e))
  | .ok handle =>
    match ← handle.readBinToEnd.toBaseIO with
    | .error e => return .error (.cannotRead (systemError e))
    | .ok bytes => return .ok bytes.toList

/-- Takes in the candidates' bytes. -/
def takeIn (o : Options) : IO (Except RunError (List UInt8)) := do
  match o.input with
  | some path => readInputFile path
  | none =>
    match ← (readStream (← IO.getStdin) .empty).toBaseIO with
    | .error e => return .error (.cannotRead (systemError e))
    | .ok bytes => return .ok bytes.toList

/-- Prints a report, and says what became of it. -/
def deliver (report : Report) : IO (Except RunError Report) := do
  let written : IO Unit := do
    let output ← IO.getStdout
    output.putStr report.printed
    output.flush
  match ← written.toBaseIO with
  | .ok () => return .ok report
  | .error e =>
    return ((outletAfter e).write report.printed).map fun printed => { report with printed }

/-- Does what the arguments ask for. -/
def perform (arguments : List String) : IO Ending := do
  match parse arguments with
  | .error e => return .ofUsage e
  | .ok .help =>
    IO.print helpText
    return ⟨0, helpText, ""⟩
  | .ok .version =>
    IO.print versionLine
    return ⟨0, versionLine, ""⟩
  | .ok (.run o) =>
    match (run o (← takeIn o) .working).value with
    | .error e => return .ofRun (.error e)
    | .ok report => return .ofRun (← deliver report)

end FuzzyRank.Cli

def main (arguments : List String) : IO UInt32 := do
  let ending ← FuzzyRank.Cli.perform arguments
  IO.eprint ending.complaint
  return ending.status.toUInt32
