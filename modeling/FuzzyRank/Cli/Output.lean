import FuzzyRank.Cli.Listing
import FuzzyRank.Cli.RunError

/-!
Writing matches to an outlet, through a buffer.

A line is written piece by piece, and the pieces wait in a buffer until there are enough of them. So
an outlet that takes nothing shows at some piece of some line, or only when the buffer is emptied at
the end.
-/

namespace FuzzyRank.Cli

/-- What becomes of what is written. -/
inductive Outlet where
  | working
  /-- Nobody reads any more. That is no fault of the run. -/
  | closed
  /-- Whatever is written fails; writing nothing does not. -/
  | failing (cause : SystemError)
deriving DecidableEq, Repr

/-- Why a write fails. -/
inductive WriteError where
  /-- Nobody reads any more. -/
  | brokenPipe
  | refused (cause : SystemError)
deriving DecidableEq, Repr

/-- Why the outlet takes nothing, if that is so. -/
def Outlet.refusal : Outlet → Option WriteError
  | working => none
  | closed => some .brokenPipe
  | failing cause => some (.refused cause)

/-- An outlet with the buffer before it. -/
structure Channel where
  outlet : Outlet
  /-- What has arrived at the outlet. -/
  arrived : String
  /-- What waits in the buffer. -/
  held : String
deriving DecidableEq, Repr

/-- Nothing has been written yet. -/
def Channel.fresh (outlet : Outlet) : Channel :=
  ⟨outlet, "", ""⟩

/-- Writing may fail, and what has arrived until then stays. -/
abbrev Writing := ExceptT WriteError (StateM Channel)

namespace Writing

/-- Hands a text to the outlet. Writing nothing does not fail. -/
def hand (text : String) : Writing Unit := do
  let channel ← get
  match channel.outlet.refusal with
  | some e => if text.isEmpty then return else throw e
  | none => set { channel with arrived := channel.arrived ++ text }

/-- Keeps a text in the buffer. -/
def hold (text : String) : Writing Unit :=
  modify fun channel => { channel with held := channel.held ++ text }

/-- Hands on what waits in the buffer. -/
def flush : Writing Unit := do
  hand (← get).held
  modify fun channel => { channel with held := "" }

/-- Empties the buffer if a text does not fit beside what waits there. -/
def makeRoom (capacity : Nat) (text : String) : Writing Unit := do
  if (← get).held.utf8ByteSize + text.utf8ByteSize > capacity then
    flush

/-- Writes a text: a text as long as the buffer does not wait there. -/
def put (capacity : Nat) (text : String) : Writing Unit := do
  makeRoom capacity text
  if text.utf8ByteSize ≥ capacity then hand text else hold text

/-- Writes the score of a match and a tab if asked for. -/
def putScore (capacity : Nat) (o : Options) (m : RankedMatch) : Writing Unit := do
  if o.printScore then
    put capacity (toString m.result.score)
    put capacity "\t"

/-- Writes the text of a match. -/
def putText (capacity : Nat) (o : Options) (m : RankedMatch) : Writing Unit :=
  if o.highlight then put capacity (highlighted m) else put capacity m.text

/-- Writes a tab and the positions of a match if asked for. -/
def putPositions (capacity : Nat) (o : Options) (m : RankedMatch) : Writing Unit := do
  if o.printPositions then
    put capacity "\t"
    put capacity (positionsField m)

/-- Writes the line of a match. -/
def putLine (capacity : Nat) (o : Options) (m : RankedMatch) : Writing Unit := do
  putScore capacity o m
  putText capacity o m
  putPositions capacity o m
  put capacity "\n"

/-- Writes the lines of some matches. -/
def putLines (capacity : Nat) (o : Options) : List RankedMatch → Writing Unit
  | [] => pure ()
  | m :: rest => do
    putLine capacity o m
    putLines capacity o rest

/-- Writes the lines of the first matches, as many as the limit allows, and empties the buffer. -/
def putListing (capacity : Nat) (o : Options) (ranked : List RankedMatch) : Writing Unit := do
  putLines capacity o (ranked.take (o.limit.getD ranked.length))
  flush

end Writing

/-- The size of the filter's buffer in bytes. -/
def bufferSize : Nat := 8192

end FuzzyRank.Cli
