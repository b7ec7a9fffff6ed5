/-
# Running a file of the tree

A file can be run when its path has a slash in it, somebody may execute it, and its first line names
an interpreter.  A command without a slash is searched for among the system's own, of which there
are none; the shell is the only interpreter there is.
-/
import PinnedFetch.Collaborators
import PinnedFetch.Process.Shell
import PinnedFetch.Text.Blank
import PinnedFetch.Text.Utf8
import PinnedFetch.Tree.Access

namespace PinnedFetch

namespace Execute

/-- The permission bits that let anybody run a file. -/
def anyExecute : Mode := 0o111

/-- A NUL in the name of a command, which no system call takes. -/
def nulInCommand : IoError := .fixed .invalidInput "nul byte found in provided data"

/-- The names under which the shell is found. -/
def shells : List String := ["/bin/sh", "/usr/bin/sh", "/bin/dash", "/bin/bash", "/usr/bin/bash"]

/-- The names that the search for a command knows the shell by. -/
def shellNames : List String := ["sh", "dash", "bash"]

/-- What the search for a command answers when it finds none. -/
def notFound : CommandOutput := ⟨.ofCode 127, [], []⟩

/-- The words of the line that names an interpreter. -/
def interpreter (firstLine : String) : List String :=
  ((Text.fields ' ' firstLine.toList).filter (· ≠ [])).map fun w => String.ofList (Text.trim w)

/-- Runs a text that says how it is to be run. -/
def runText (s : Shell.Start) (text : String) : Except IoError CommandOutput :=
  match text.toList with
  | '#' :: '!' :: rest =>
    match interpreter (String.ofList (rest.takeWhile (· != '\n'))) with
    | [] => .error .notExecutable
    | "/usr/bin/env" :: name :: _ =>
      if shellNames.contains name then .ok (Shell.run s text) else .ok notFound
    | name :: _ => if shells.contains name then .ok (Shell.run s text) else .error .noEntry
  | _ => .error .notExecutable

end Execute

namespace Tree

/-- Runs the file that a path leads to. -/
def execute (t : Tree) (c : Call) : CommandResult :=
  if '\x00' ∈ c.command.toList then .error (.io Execute.nulInCommand)
  else if '/' ∉ c.command.toList then .error (.io .noEntry)
  else match t.entry c.command with
    | .error e => .error (.io e)
    | .ok (.file mode bytes) =>
      if mode &&& Execute.anyExecute = 0 then .error (.io .denied)
      else match Execute.runText ⟨c.command, c.arguments⟩ (Utf8.repair bytes) with
        | .ok output => .ok output
        | .error e => .error (.io e)
    | .ok _ => .error (.io .denied)

end Tree
end PinnedFetch
