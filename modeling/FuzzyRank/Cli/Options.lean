import FuzzyRank.Rank

/-!
The options of the command line filter and the arguments that set them.

An option's value is looked at only when the option is settled: at the next option or at the end.
An argument that is not known at all is therefore reported before a bad value that waits.
-/

namespace FuzzyRank.Cli

/-- What the user asked for. -/
structure Options where
  query : String := ""
  /-- The file to read candidates from, instead of standard input. -/
  input : Option String := none
  caseSensitive : Bool := false
  tiebreak : List Criterion := (default : Tiebreak).criteria
  /-- How many results are printed at most. -/
  limit : Option Nat := none
  printScore : Bool := false
  printPositions : Bool := false
  highlight : Bool := false
  /-- How many workers match candidates; zero leaves the choice to the program. -/
  threads : Nat := 0
deriving DecidableEq, Repr

/-- Arguments that are given or not. -/
inductive Switch where
  | caseSensitive
  | printScore
  | printPositions
  | highlight
deriving DecidableEq, Repr

/-- Arguments that take a value. -/
inductive Setting where
  | query
  | input
  | tiebreak
  | limit
  | threads
deriving DecidableEq, Repr

/-- What an argument's name stands for. -/
inductive Argument where
  | switch (s : Switch)
  | setting (s : Setting)
  | help
  | version
deriving DecidableEq, Repr

/-- What is wrong with a list of arguments. -/
inductive UsageError where
  | unknownArgument (text : String)
  /-- A setting without its value. -/
  | missingValue (setting : Setting)
  /-- A file name that is empty. -/
  | emptyValue (setting : Setting)
  /-- A value that cannot be read. -/
  | badValue (setting : Setting) (text : String)
  /-- An argument that may be given once and is given again. -/
  | repeated (argument : Argument)
  /-- A value for an argument that takes none. -/
  | unexpectedValue (argument : Argument)
deriving DecidableEq, Repr

/-- What the arguments ask the program to do. -/
inductive Request where
  | run (options : Options)
  | help
  | version
deriving DecidableEq, Repr

namespace Switch

def name : Switch → String
  | caseSensitive => "case-sensitive"
  | printScore => "print-score"
  | printPositions => "print-positions"
  | highlight => "highlight"

def all : List Switch := [caseSensitive, printScore, printPositions, highlight]

/-- The options with the switch turned on. -/
def turnOn (options : Options) : Switch → Options
  | caseSensitive => { options with caseSensitive := true }
  | printScore => { options with printScore := true }
  | printPositions => { options with printPositions := true }
  | highlight => { options with highlight := true }

end Switch

namespace Setting

def name : Setting → String
  | query => "query"
  | input => "input"
  | tiebreak => "tiebreak"
  | limit => "limit"
  | threads => "threads"

def all : List Setting := [query, input, tiebreak, limit, threads]

/-- The setting takes whatever argument follows, also one that looks like an option, since criteria
may begin with a minus sign. -/
def takesAnything (s : Setting) : Bool := s = tiebreak

/-- The setting may be given several times, and its values add up. -/
def addsUp (s : Setting) : Bool := s = tiebreak

end Setting

namespace Argument

def name : Argument → String
  | switch s => s.name
  | setting s => s.name
  | help => "help"
  | version => "version"

def all : List Argument :=
  Switch.all.map switch ++ Setting.all.map setting ++ [help, version]

/-- The argument with a long name. -/
def ofName? (name : String) : Option Argument :=
  all.find? (·.name == name)

/-- The argument with a name of one letter. -/
def ofLetter? : Char → Option Argument
  | 'q' => some (setting .query)
  | 'i' => some (setting .input)
  | 'n' => some (setting .limit)
  | 'h' => some help
  | 'V' => some version
  | _ => none

end Argument

/-- A count below 2 ^ 64 in decimal digits, with or without a plus sign before it. -/
def parseCount (text : String) : Option Nat :=
  let digits := match text.toList with
    | '+' :: rest => rest
    | cs => cs
  if digits.isEmpty || !digits.all Char.isDigit then none
  else
    let n := digits.foldl (fun n c => n * 10 + (c.toNat - '0'.toNat)) 0
    if n < 0x10000000000000000 then some n else none

/-- Criteria between commas. -/
def parseCriteria (text : String) : Except UnknownCriterion (List Criterion) :=
  (text.toList.splitOn ',').mapM fun word => Criterion.parse (String.ofList word)

/-- The setting that was given last, as long as it is not settled. -/
inductive Pending where
  | nothing
  /-- The value may be the next argument. -/
  | wanting (setting : Setting)
  /-- The value is there but has not been looked at. -/
  | holding (setting : Setting) (value : String)
deriving DecidableEq, Repr

/-- How far the arguments have been read. -/
structure Reading where
  options : Options := {}
  /-- What has been settled. -/
  given : List Argument := []
  /-- The criteria given so far; the default order counts only if there are none. -/
  criteria : List Criterion := []
  pending : Pending := .nothing
deriving DecidableEq, Repr

namespace Reading

/-- Takes note of an argument that may be given only once. -/
def mark (r : Reading) (argument : Argument) : Except UsageError Reading :=
  if r.given.contains argument then .error (.repeated argument)
  else .ok { r with given := argument :: r.given }

/-- Gives a setting its value. -/
def assign (r : Reading) (setting : Setting) (value : String) : Except UsageError Reading := do
  let r ← if setting.addsUp then pure r else r.mark (.setting setting)
  let bad := UsageError.badValue setting value
  match setting with
  | .query => return { r with options.query := value }
  | .input =>
    if value.isEmpty then throw (.emptyValue setting)
    return { r with options.input := some value }
  | .tiebreak =>
    match parseCriteria value with
    | .error _ => throw bad
    | .ok criteria =>
      let criteria := r.criteria ++ criteria
      return { r with criteria, options.tiebreak := criteria }
  | .limit =>
    match parseCount value with
    | none => throw bad
    | some n => return { r with options.limit := some n }
  | .threads =>
    match parseCount value with
    | none => throw bad
    | some n => return { r with options.threads := n }

/-- Settles the setting that is pending. -/
def settle (r : Reading) : Except UsageError Reading :=
  match r.pending with
  | .nothing => .ok r
  | .wanting setting => .error (.missingValue setting)
  | .holding setting value => { r with pending := .nothing }.assign setting value

/-- Turns on a switch. -/
def flip (r : Reading) (switch : Switch) : Except UsageError Reading := do
  let r ← r.settle
  let r ← r.mark (.switch switch)
  return { r with options := switch.turnOn r.options }

/-- A setting whose value is part of the argument, or is yet to come. -/
def begin (r : Reading) (setting : Setting) (value : Option String) :
    Except UsageError Reading := do
  let r ← r.settle
  match value with
  | some value => r.assign setting value
  | none => return { r with pending := .wanting setting }

/-- What becomes of the reading after one argument: it goes on, or the argument settles what the
program is to do. -/
abbrev Step := Except UsageError (Reading ⊕ Request)

/-- Takes a named argument, with the value that came with it, if any. -/
def take (r : Reading) (argument : Argument) (value : Option String) : Step := do
  match argument with
  | .switch s => return .inl (← r.flip s)
  | .setting s => return .inl (← r.begin s value)
  | .help =>
    let _ ← r.settle
    return .inr .help
  | .version =>
    let _ ← r.settle
    return .inr .version

/-- Takes an argument that begins with two dashes, given without them. A value may follow after an
equals sign. -/
def takeLong (r : Reading) (text : List Char) : Step :=
  let name := String.ofList (text.takeWhile (· ≠ '='))
  let value := match text.dropWhile (· ≠ '=') with
    | [] => none
    | _ :: value => some (String.ofList value)
  match Argument.ofName? name with
  | none => .error (.unknownArgument ("--" ++ name))
  | some (.setting s) => r.take (.setting s) value
  | some argument =>
    if value.isSome then .error (.unexpectedValue argument) else r.take argument none

/-- Takes an argument that begins with one dash, given by its letter and what follows it. A value
may follow directly or after an equals sign. -/
def takeShort (r : Reading) (letter : Char) (rest : List Char) : Step :=
  match Argument.ofLetter? letter with
  | none => .error (.unknownArgument (String.ofList ['-', letter]))
  | some argument =>
    let value := match rest with
      | [] => none
      | '=' :: value => some (String.ofList value)
      | value => some (String.ofList value)
    r.take argument value

/-- Takes an argument that is no name of an option. -/
def takePlain (r : Reading) (text : String) : Step :=
  match r.pending with
  | .wanting setting => .ok (.inl { r with pending := .holding setting text })
  | _ => .error (.unknownArgument text)

/-- The pending setting takes the next argument whatever it looks like. -/
def wantsAnything (r : Reading) : Bool :=
  match r.pending with
  | .wanting setting => setting.takesAnything
  | _ => false

/-- The end of the arguments. -/
def finish (r : Reading) : Except UsageError Request := do
  let r ← r.settle
  return .run r.options

/-- Reads the remaining arguments. Behind two dashes there may be nothing. -/
def readAll : Reading → List String → Except UsageError Request
  | r, [] => r.finish
  | r, text :: rest => do
    let step ←
      if r.wantsAnything then r.takePlain text
      else match text.toList with
        | ['-', '-'] =>
          match rest with
          | [] => .inr <$> r.finish
          | extra :: _ => .error (.unknownArgument extra)
        | '-' :: '-' :: name => r.takeLong name
        | '-' :: letter :: more => r.takeShort letter more
        | _ => r.takePlain text
    match step with
    | .inl r => readAll r rest
    | .inr request => return request

end Reading

/-- What a list of arguments asks for. -/
def parse (arguments : List String) : Except UsageError Request :=
  Reading.readAll {} arguments

/-- The error as it is shown to the user. -/
def UsageError.message : UsageError → String
  | unknownArgument text => "unexpected argument " ++ Text.quote text
  | missingValue s => "a value is required for --" ++ s.name
  | emptyValue s => "the value of --" ++ s.name ++ " is empty"
  | badValue s text => "invalid value " ++ Text.quote text ++ " for --" ++ s.name
  | repeated a => "--" ++ a.name ++ " is given more than once"
  | unexpectedValue a => "--" ++ a.name ++ " takes no value"

end FuzzyRank.Cli
