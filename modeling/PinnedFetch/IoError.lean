/-
# Input and output failures

A failure is a number of the operating system, a kind alone, a kind with a sentence of the
caller's, or a kind with a sentence fixed beforehand.  It is shown to people by `message` and to
readers of the log by `detail`, which tells the four apart.
-/
import PinnedFetch.IoError.System
import PinnedFetch.Text.Quoted

namespace PinnedFetch

/-- Why an operation on files, processes or connections failed. -/
inductive IoError where
  /-- A number of the operating system. -/
  | system (code : Int)
  /-- A kind and nothing else. -/
  | bare (kind : IoError.Kind)
  /-- A kind and what the operation said. -/
  | told (kind : IoError.Kind) (text : String)
  /-- A kind and a sentence that is the same every time. -/
  | fixed (kind : IoError.Kind) (text : String)
  deriving DecidableEq, Repr

namespace IoError

/-- The kind of a failure. -/
def kind : IoError → Kind
  | system code => systemKind code
  | bare k => k
  | told k _ => k
  | fixed k _ => k

/-- The sentence for people. -/
def message : IoError → String
  | system code => s!"{systemText code} (os error {code})"
  | bare k => k.description
  | told _ text => text
  | fixed _ text => text

/-- The form for the log. -/
def detail : IoError → String
  | system code =>
    s!"Os \x7b code: {code}, kind: {(systemKind code).name}, message: " ++
      Text.Quoted.quote (systemText code) ++ " \x7d"
  | bare k => s!"Kind({k.name})"
  | told k text => s!"Custom \x7b kind: {k.name}, error: " ++ Text.Quoted.quote text ++ " \x7d"
  | fixed k text => s!"Error \x7b kind: {k.name}, message: " ++ Text.Quoted.quote text ++ " \x7d"

/-! ## The failures that the library meets by itself -/

/-- A name on the way does not exist. -/
def noEntry : IoError := system 2

/-- A file that cannot be run. -/
def notExecutable : IoError := system 8

/-- Permission is lacking. -/
def denied : IoError := system 13

/-- The name is taken. -/
def nameTaken : IoError := system 17

/-- A name that should be a directory is not one. -/
def notDirectory : IoError := system 20

/-- A directory stands where a file is meant. -/
def isDirectory : IoError := system 21

/-- A name, or the whole path, is too long. -/
def nameTooLong : IoError := system 36

/-- Too many links on the way. -/
def tooManyLinks : IoError := system 40

/-- No route leads to the network. -/
def networkUnreachable : IoError := system 101

/-- Nobody listens at the address. -/
def connectionRefused : IoError := system 111

/-- A path with a NUL in it, which no system call takes. -/
def nulInPath : IoError := fixed .invalidInput "file name contained an unexpected NUL byte"

end IoError
end PinnedFetch
