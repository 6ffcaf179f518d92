import FuzzyRank.Cli.Candidates
import FuzzyRank.Cli.FileTree
import FuzzyRank.Cli.Output

/-!
The filter: candidates in, ranked lines out, and an exit status that tells whether anything matched.
-/

namespace FuzzyRank.Cli

/-- The answer of a run. -/
structure Report where
  /-- Some candidate matched, whether it was printed or not. -/
  matched : Bool
  printed : String
deriving DecidableEq, Repr

/-- Positions are computed only where they are shown. -/
def Options.needsPositions (o : Options) : Bool :=
  o.printPositions || o.highlight

/-- The candidates' bytes: those of the input file, or of standard input if no file is named. -/
def intake (o : Options) (tree : FileTree) (standardInput : List UInt8) :
    Except RunError (List UInt8) :=
  match o.input with
  | some path => tree.read path
  | none => .ok standardInput

/-- The ranked matches that an input has under some options. -/
def rankInput (o : Options) (bytes : List UInt8) : Logged (List RankedMatch) := do
  let candidates ← readCandidates bytes
  Logged.note .debug s!"read {candidates.length} candidates"
  let order ← Tiebreak.choose o.tiebreak
  let engine ← Engine.start o.query (.ofSensitive o.caseSensitive) order !o.needsPositions
  let ranked ← engine.noteTally candidates (engine.rankShared o.threads candidates)
  Logged.note .info (engine.tally ranked.length candidates.length)
  return ranked

/-- Writes a text to an outlet: what arrives there, or why it fails. -/
def Outlet.write (outlet : Outlet) (text : String) : Except RunError String :=
  match outlet with
  | .working => .ok text
  | .closed => .ok ""
  | .failing cause => if text.isEmpty then .ok "" else .error (.cannotWrite cause)

/-- What a run comes to: whether some candidate matched, unless it fails, and what has arrived at
its outlet. -/
structure Outcome where
  answer : Except RunError Bool
  arrived : String

/-- The answer of a run after its lines have been written. An outlet that is closed does not change
it. -/
def answerAfter (matched : Bool) : Except WriteError Unit → Except RunError Bool
  | .ok () => .ok matched
  | .error .brokenPipe => .ok matched
  | .error (.refused cause) => .error (.cannotWrite cause)

/-- Runs the filter on the bytes taken in, with a buffer of the given size before its outlet. -/
def runBuffered (capacity : Nat) (o : Options) (input : Except RunError (List UInt8))
    (outlet : Outlet) : Logged Outcome := do
  match input with
  | .error e => return ⟨.error e, ""⟩
  | .ok bytes =>
    let ranked ← rankInput o bytes
    let (written, channel) := (Writing.putListing capacity o ranked).run.run (.fresh outlet)
    return ⟨answerAfter (!ranked.isEmpty) written, channel.arrived⟩

/-- Runs the filter on the bytes taken in. -/
def run (o : Options) (input : Except RunError (List UInt8)) (outlet : Outlet) :
    Logged (Except RunError Report) := do
  let outcome ← runBuffered bufferSize o input outlet
  return outcome.answer.map fun matched => { matched, printed := outcome.arrived }

/-- The program's name in its own messages. -/
def programName : String := "jumpfuzz"

/-- The program's name and version. -/
def versionLine : String := programName ++ " 0.3.0\n"

/-- How a run of the program ends. -/
structure Ending where
  /-- Zero if anything matched, one if nothing did, two after an error. -/
  status : UInt8
  output : String
  complaint : String
deriving DecidableEq, Repr

namespace Ending

/-- The end after the filter has run. -/
def ofRun : Except RunError Report → Ending
  | .ok report => ⟨if report.matched then 0 else 1, report.printed, ""⟩
  | .error e => ⟨2, "", programName ++ ": " ++ e.message ++ "\n"⟩

/-- The end after arguments that make no sense. -/
def ofUsage (e : UsageError) : Ending :=
  ⟨2, "", "error: " ++ e.message ++ "\n"⟩

end Ending

/-- One line for each argument. -/
def helpText : String :=
  "Fuzzy-rank candidate lines (file paths, symbols) against a query\n\n" ++
  "Usage: " ++ programName ++ " [OPTIONS]\n\nOptions:\n" ++
  "  -q, --query <QUERY>        Query to match against every candidate\n" ++
  "  -i, --input <FILE>         Read candidates from FILE instead of stdin\n" ++
  "      --case-sensitive       Match case exactly (default: ASCII case-insensitive)\n" ++
  "      --tiebreak <TIEBREAK>  Comma-separated sort criteria: score, span, begin, end, length,\n" ++
  "                             each optionally prefixed with - to reverse it\n" ++
  "  -n, --limit <N>            Print at most N results\n" ++
  "      --print-score          Prefix every result with its score and a tab\n" ++
  "      --print-positions      Suffix every result with a tab and its matched positions\n" ++
  "      --highlight            Wrap matched characters in ANSI bold\n" ++
  "      --threads <THREADS>    Number of matcher threads (0: one per core)\n" ++
  "  -h, --help                 Print help\n" ++
  "  -V, --version              Print version\n"

/-- What the program does for its arguments, given the files around it, its standard input and what
becomes of its output. -/
def invoke (arguments : List String) (tree : FileTree) (standardInput : List UInt8)
    (outlet : Outlet) : Ending :=
  match parse arguments with
  | .error e => .ofUsage e
  | .ok .help => ⟨0, helpText, ""⟩
  | .ok .version => ⟨0, versionLine, ""⟩
  | .ok (.run o) => .ofRun (run o (intake o tree standardInput) outlet).value

end FuzzyRank.Cli
