/-
# The program

The command line is read, the log filter set up, the run performed, and the exit status decided:
that of the outcome, or two for a failure, which is then told on the second stream.  Whether the
failure can be written there makes no difference to the status (`conclude_status`).
-/
import PinnedFetch.Args.Usage
import PinnedFetch.Log.Filter
import PinnedFetch.Process.Execute
import PinnedFetch.Run

namespace PinnedFetch.Program

/-- The exit status of a failure, and of a command line that is refused. -/
def failureStatus : Nat := 2

/-- The line that tells a failure. -/
def failureLine (f : Failure) : String := "error: " ++ f.message

/-- The record of a failure. -/
def failureRecord (f : Failure) : Log.Record := ⟨.debug, .program, "run failed: " ++ f.detail⟩

/-- The exit status of a run; a failure is told to a writer. -/
def conclude {σ : Type} (w : Writer σ) (s : σ) : Except Failure Outcome → Nat × σ
  | .ok outcome => (outcome.exitStatus, s)
  | .error f => (failureStatus, w.line s (failureLine f))

/-- The status does not depend on the writer. -/
theorem conclude_status {σ τ : Type} (w : Writer σ) (s : σ) (v : Writer τ) (t : τ)
    (r : Except Failure Outcome) : (conclude w s r).1 = (conclude v t r).1 := by
  cases r <;> rfl

/-- Where and with what the program is started. -/
structure Start where
  /-- The name of the program and its arguments. -/
  argv : List Bytes
  /-- The log filter that the environment asks for. -/
  logSpec : Option String
  tree : Tree
  /-- What downloads give. -/
  fetch : String → Download

/-- What the program leaves behind. -/
structure Finish where
  status : Nat
  stdout : Bytes
  stderr : Bytes
  tree : Tree
  /-- The URLs that were asked for. -/
  urls : List String := []

/-- The end of a program that only says something. -/
def speak (tree : Tree) (status : Nat) (stdout stderr : String) : Finish :=
  ⟨status, Bytes.ofText stdout, Bytes.ofText stderr, tree, []⟩

/-- The log that a run leaves on the second stream. -/
def log (spec : String) (records : List Log.Record) : String :=
  let (filter, complaints) := Log.Filter.read spec
  let shown := records.filter filter.passes
  String.join (complaints.map Log.complaintLine ++ shown.map Log.Record.line)

/-- The records of a run and of its failure, if it fails. -/
def allRecords (records : List Log.Record) : Except Failure Outcome → List Log.Record
  | .ok _ => records
  | .error f => records ++ [failureRecord f]

/-- Runs the program with a command line that was accepted. -/
def runArgs (start : Start) (args : Args) : Finish :=
  let h : Collaborators := ⟨start.tree.execute, start.fetch⟩
  let (result, s) := Run.perform .unbounded args.config h { tree := start.tree, out := [] }
  let told := log (start.logSpec.getD args.logSpec) (allRecords s.records result)
  let (status, stderr) := conclude .unbounded (Bytes.ofText told) result
  ⟨status, s.out, stderr, s.tree, s.urls⟩

/-- Runs the program. -/
def run (start : Start) : Finish :=
  let name := Args.calledAs (start.argv.headD [])
  match Args.read start.argv.tail with
  | .ok args => runArgs start args
  | .error .help => speak start.tree 0 (Args.helpText name) ""
  | .error .version => speak start.tree 0 Args.versionLine ""
  | .error (.fault f seen) => speak start.tree failureStatus "" (Args.complaint name f seen)

end PinnedFetch.Program
