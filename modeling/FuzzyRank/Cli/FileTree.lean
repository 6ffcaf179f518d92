import FuzzyRank.Cli.RunError

/-!
A file tree held in memory, in which the filter can look up its input file.

The tree holds what a program can count on wherever it runs: a fresh directory to work in with some
files, the directories at the top of every system, the null device, and standard input under the
names that a system gives it. Paths are resolved as a file system does it: step by step, with the
first step that fails naming the reason.
-/

namespace FuzzyRank.Cli

/-- The steps from the root of the tree to something in it. -/
abbrev Location := List String

/-- What a path leads to. -/
inductive Node where
  | file (content : List UInt8)
  | directory (location : Location)
deriving DecidableEq, Repr

structure FileTree where
  /-- The directory that relative paths begin in. -/
  workplace : Location
  files : List (Location × List UInt8)
  /-- Directories, beside those that the files lie in. -/
  directories : List Location
  /-- Names that stand for something elsewhere in the tree. -/
  links : List (Location × Location)
deriving DecidableEq, Repr

namespace FileTree

/-- The most bytes that the name of one step may have. -/
def nameLimit : Nat := 255

/-- The most bytes that a path may have, with the end mark that follows it. -/
def pathLimit : Nat := 4096

/-- The steps of a path, with an empty one for each slash too many. -/
def steps (path : String) : List String :=
  (path.toList.splitOn '/').map String.ofList

/-- The step leads nowhere else. -/
def isIdle (step : String) : Bool :=
  step = "" || step = "."

/-- What is at a location. Whatever has something below it is a directory. -/
def node? (tree : FileTree) (location : Location) : Option Node :=
  match tree.files.lookup location with
  | some content => some (.file content)
  | none =>
    let known := tree.directories ++ tree.files.map (·.1) ++ tree.links.map (·.1)
    if known.any location.isPrefixOf then some (.directory location) else none

/-- One step from a directory. An idle step needs a directory to stay in; above the root there is
the root again. -/
def follow (tree : FileTree) (node : Node) (step : String) : Except SystemError Node :=
  match node with
  | .file _ => .error .notDirectory
  | .directory location =>
    if isIdle step then .ok node
    else if step = ".." then .ok (.directory location.dropLast)
    else if step.utf8ByteSize > nameLimit then .error .nameTooLong
    else
      let next := location ++ [step]
      match tree.node? ((tree.links.lookup next).getD next) with
      | some node => .ok node
      | none => .error .noSuchFile

/-- What a path leads to, from the workplace or, after a leading slash, from the root. -/
def resolve (tree : FileTree) (path : String) : Except SystemError Node :=
  if path.toList.contains '\x00' then .error .nulInName
  else if path.utf8ByteSize ≥ pathLimit then .error .nameTooLong
  else
    match steps path with
    | [""] => .error .noSuchFile
    | "" :: rest => rest.foldlM tree.follow (.directory [])
    | all => all.foldlM tree.follow (.directory tree.workplace)

/-- The content of the file at a path. A directory can be opened but not read. -/
def read (tree : FileTree) (path : String) : Except RunError (List UInt8) :=
  match tree.resolve path with
  | .error cause => .error (.cannotOpen path cause)
  | .ok (.directory _) => .error (.cannotRead .isDirectory)
  | .ok (.file content) => .ok content

/-- A directory for temporary files in which nobody else works. No path can spell its name, which
has a slash in it. -/
def freshWorkplace : Location := ["tmp", "fresh/"]

/-- The directories at the top of every system. -/
def topDirectories : List String :=
  ["bin", "boot", "dev", "etc", "home", "lib", "media", "mnt", "opt", "proc", "root", "run", "sbin",
    "srv", "sys", "tmp", "usr", "var"]

/-- The tree around a program that runs in a fresh directory with the given files, by name. -/
def around (files : List (String × List UInt8)) (standardInput : List UInt8) : FileTree where
  workplace := freshWorkplace
  files :=
    files.map (fun (name, content) =>
      (freshWorkplace ++ (steps name).filter (!isIdle ·), content)) ++
    [(["dev", "null"], []), (["proc", "self", "fd", "0"], standardInput)]
  directories := freshWorkplace :: topDirectories.map ([·])
  links := [
    (["dev", "stdin"], ["proc", "self", "fd", "0"]), (["dev", "fd"], ["proc", "self", "fd"]),
    (["proc", "self", "cwd"], freshWorkplace), (["proc", "self", "root"], [])]

end FileTree
end FuzzyRank.Cli
