/-
# The command

The command is `Program.run` on what is there: its arguments, its environment, the file that the
artefact's path leads to, and the servers it can reach.  A download is asked for only when a first
pass shows that the program wants one, and a server is asked only for the URL that the client has
come to.

Two things that the system keeps to itself are taken for granted: a file that is there may be run,
and it is a shell script.
-/
import PinnedFetch.Http.Client
import PinnedFetch.Program
import Std.Async.DNS
import Std.Async.TCP

namespace PinnedFetch.Command

open Std.Async

/-! ## 1. Servers -/

/-- Everything that a server sends until it hangs up. -/
partial def receive (c : TCP.Socket.Client) (sofar : ByteArray) : IO ByteArray := do
  match ← (c.recv? 65536).block with
  | some bytes => receive c (sofar ++ bytes)
  | none => return sofar

/-- Sends the request for a URL, and gives what comes back. -/
def exchange (u : Http.Url) : IO Bytes := do
  let service := UInt16.ofNat u.service
  let some address := (← (DNS.getAddrInfo u.host (toString u.service)).block)[0]?
    | throw (IO.userError "failed to lookup address information")
  let client ← TCP.Socket.Client.mk
  match address with
  | .v4 a => (client.connect (.v4 ⟨a, service⟩)).block
  | .v6 a => (client.connect (.v6 ⟨a, service⟩)).block
  (client.send ⟨(Http.requestOctets u).toArray⟩).block
  return (← receive client .empty).data.toList

/-- Downloads from a URL: as long as the client has come to a URL without an answer, asks for it. -/
def download (url : String) : IO DownloadResult := do
  let mut responses : List Bytes := []
  for _ in List.range (Http.redirectLimit + 2) do
    let t := Http.transcript ⟨.anywhere, responses⟩ url
    if t.visited.length ≤ responses.length then return t.result
    let some u := t.visited.getLast? | return t.result
    try
      responses := responses ++ [← exchange u]
    catch e => return .error (Http.connectionFailure (.told .other (toString e)))
  return (Http.transcript ⟨.anywhere, responses⟩ url).result

/-! ## 2. Files -/

/-- What a path leads to, as far as opening and reading tell. -/
def look (path : String) : IO (Option Entry) := do
  match ← (IO.FS.Handle.mk path .read).toBaseIO with
  | .error _ => return none
  | .ok h =>
    match ← h.readBinToEnd.toBaseIO with
    | .ok bytes => return some (.file 0o755 bytes.data.toList)
    | .error _ => return some .dir

/-- A directory deep enough for every step up that a path takes. -/
def deepEnough (path : String) : Location :=
  List.replicate ((Path.components path).length + 1) "d"

/-- The tree on the way to a path. -/
def lookAround (path : String) : IO Tree := do
  let mut t := Tree.emptyAt (deepEnough path)
  for p in (Tree.waypoints path).reverse do
    match ← look p with
    | some (.file _ bytes) =>
      let written := (t.write p bytes).bind fun t => t.setMode p 0o755
      t := written.toOption.getD t
    | some _ => t := (t.makeDirs p).toOption.getD t
    | none => pure ()
  return t

/-- Writes the artefact where a run has put it. -/
def writeBack (path : String) (before after : Tree) : IO Unit := do
  match after.read path with
  | .error _ => return
  | .ok bytes =>
    if before.read path matches .ok _ then
      if before ≠ after then IO.FS.writeBinFile path ⟨bytes.toArray⟩
    else
      IO.FS.writeBinFile path ⟨bytes.toArray⟩
      IO.setAccessRights path ⟨⟨true, true, true⟩, ⟨true, false, false⟩, ⟨true, false, false⟩⟩

/-! ## 3. The command -/

/-- Shows what a program wrote, and gives its status. -/
def finish (f : Program.Finish) : IO UInt32 := do
  let stdout ← IO.getStdout
  let stderr ← IO.getStderr
  stdout.write ⟨f.stdout.toArray⟩
  stdout.flush
  stderr.write ⟨f.stderr.toArray⟩
  stderr.flush
  return UInt32.ofNat f.status

/-- Runs the program; what it wants to download is fetched between a first pass and a second. -/
def perform (argv : List Bytes) (path : String) : IO UInt32 := do
  let spec ← IO.getEnv "RUST_LOG"
  let tree ← lookAround path
  let unasked : Download := ⟨.error (Http.connectionFailure .networkUnreachable), []⟩
  let first := Program.run ⟨argv, spec, tree, fun _ => unasked⟩
  let done ← match first.urls with
    | url :: _ =>
      let result ← download url
      pure (Program.run ⟨argv, spec, tree, fun url => ⟨result, Http.downloadRecords url result⟩⟩)
    | [] => pure first
  try
    writeBack path tree done.tree
    finish done
  catch e =>
    let failure := Failure.io (.told .other (toString e))
    finish (Program.speak tree Program.failureStatus "" (Program.failureLine failure ++ "\n"))

end PinnedFetch.Command

def main (args : List String) : IO UInt32 := do
  let argv := (PinnedFetch.Args.programName :: args).map PinnedFetch.Bytes.ofText
  let path := match PinnedFetch.Args.read argv.tail with
    | .ok a => a.config.path
    | .error _ => "."
  PinnedFetch.Command.perform argv path
