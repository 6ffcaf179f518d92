/-!
What can go wrong while the filter runs.
-/

namespace FuzzyRank.Cli

/-- Why the system refuses to open, read or write. -/
inductive SystemError where
  | noSuchFile
  | permissionDenied
  | notDirectory
  | isDirectory
  | noSpace
  | nameTooLong
  /-- A file name holds a NUL character, which no system call can take. -/
  | nulInName
  /-- Any other reason, in the system's words and by the system's number. -/
  | other (text : String) (number : Nat)
deriving DecidableEq, Repr

def SystemError.message : SystemError → String
  | noSuchFile => "No such file or directory (os error 2)"
  | permissionDenied => "Permission denied (os error 13)"
  | notDirectory => "Not a directory (os error 20)"
  | isDirectory => "Is a directory (os error 21)"
  | noSpace => "No space left on device (os error 28)"
  | nameTooLong => "File name too long (os error 36)"
  | nulInName => "file name contained an unexpected NUL byte"
  | other text number => s!"{text} (os error {number})"

/-- Why a run ends without an answer. -/
inductive RunError where
  | cannotOpen (path : String) (cause : SystemError)
  | cannotRead (cause : SystemError)
  | cannotWrite (cause : SystemError)
deriving DecidableEq, Repr

def RunError.message : RunError → String
  | cannotOpen path cause => "failed to open " ++ path ++ ": " ++ cause.message
  | cannotRead cause => "failed to read candidates: " ++ cause.message
  | cannotWrite cause => "failed to write results: " ++ cause.message

end FuzzyRank.Cli
