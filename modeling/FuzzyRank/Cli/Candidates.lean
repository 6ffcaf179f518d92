import FuzzyRank.Log
import FuzzyRank.Text.Quoted
import FuzzyRank.Text.Utf8

/-!
Reading candidates: one per line, whatever bytes the lines hold.
-/

namespace FuzzyRank.Cli

def newline : UInt8 := 0x0A

def carriageReturn : UInt8 := 0x0D

/-- The lines without their newlines. A last line need not end in one. -/
def cutLines (bytes : List UInt8) : List (List UInt8) :=
  let pieces := bytes.splitOn newline
  if pieces.getLast? = some [] then pieces.dropLast else pieces

/-- The line without a carriage return at its end; only one is removed. -/
def dropCarriageReturn (line : List UInt8) : List UInt8 :=
  if line.getLast? = some carriageReturn then line.dropLast else line

/-- A line to match against. -/
structure Candidate where
  text : String
  /-- The line was well-formed UTF-8, and the text is what it spells. -/
  wellFormed : Bool
deriving DecidableEq, Repr

namespace Candidate

/-- The candidate that a line holds. Paths need not be UTF-8, so what is ill-formed is replaced. -/
def ofLine (line : List UInt8) : Candidate where
  text := String.ofList (Text.decodeLossy line)
  wellFormed := Text.isWellFormed line

/-- The candidates of an input. -/
def ofBytes (bytes : List UInt8) : List Candidate :=
  (cutLines bytes).map fun line => ofLine (dropCarriageReturn line)

/-- The warning about a candidate that was not well-formed, given with its place in the input. -/
def warning? (candidate : Candidate × Nat) : Option LogRecord :=
  let (c, index) := candidate
  if c.wellFormed then none
  else some ⟨.warn,
    s!"candidate {index + 1} is not valid UTF-8, matching {Text.quote c.text}"⟩

end Candidate

/-- The candidate texts of an input, with a warning for each that is not well-formed. -/
def readCandidates (bytes : List UInt8) : Logged (List String) :=
  let candidates := Candidate.ofBytes bytes
  ⟨candidates.map (·.text), candidates.zipIdx.filterMap Candidate.warning?⟩

end FuzzyRank.Cli
