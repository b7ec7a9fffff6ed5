/-
# The version an artefact reports

An artefact is asked with `--version`; the second field of what it prints, cut at spaces and
trimmed, is its version.  The answer of the command is classified in a fixed order: a command
that could not run, one that did not succeed, output that is no text, output without a second
field.
-/
import PinnedFetch.Failure
import PinnedFetch.Process.Output
import PinnedFetch.Text.Fields
import PinnedFetch.Text.Utf8

namespace PinnedFetch

/-- Why a command that ran reported no version. -/
inductive VersionFault where
  /-- It did not succeed. -/
  | ended (status : WaitStatus)
  /-- Its output is no text. -/
  | notText (sequence : Utf8.IllFormed)
  /-- Its output has one field only. -/
  | noToken (output : List Char)
  deriving DecidableEq, Repr

/-- The fault in words.  Output is quoted, so that nothing in it can act on a terminal. -/
def VersionFault.reason : VersionFault → String
  | ended status => "exited with " ++ status.describe
  | notText fault => "output is not UTF-8: " ++ fault.message
  | noToken output =>
    "no version token in " ++ Text.Quoted.quote (String.ofList (Text.trimEnd output))

namespace Version

/-- The second field of a version line, trimmed. -/
def token? (output : List Char) : Option (List Char) :=
  (Text.secondField? ' ' output).map Text.trim

/-- The version in the answer of a command that ran. -/
def ofOutput (output : CommandOutput) : Except VersionFault String :=
  if output.status.isSuccess then
    match Utf8.decode output.stdout with
    | .error fault => .error (.notText fault)
    | .ok cs =>
      match token? cs with
      | some token => .ok (String.ofList token)
      | none => .error (.noToken cs)
  else .error (.ended output.status)

/-- The version that the artefact at `path` reports, given what running it gave. -/
def ofResult (path : String) : Except Failure CommandOutput → Except Failure String
  | .error failure => .error failure
  | .ok output =>
    match ofOutput output with
    | .ok version => .ok version
    | .error fault => .error (.version path fault.reason)

end Version
end PinnedFetch
