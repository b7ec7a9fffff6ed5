/-
# Reading and writing through a path

Every operation locates its path first and then touches that one location.  A file that is new gets
the mode `0644`; one that is there keeps its mode.
-/
import PinnedFetch.Tree.Walk

namespace PinnedFetch.Tree

/-! ## 1. Looking -/

/-- The entry that a path leads to, links followed. -/
def entry (t : Tree) (p : String) : Except IoError Entry := do
  match t.at? (← t.locate .reach p) with
  | some e => .ok e
  | none => .error .noEntry

/-- Whether a path leads to anything. -/
def isThere (t : Tree) (p : String) : Bool := (t.entry p).isOk

/-- The octets of the file that a path leads to. -/
def read (t : Tree) (p : String) : Except IoError Bytes := do
  match ← t.entry p with
  | .file _ bytes => .ok bytes
  | _ => .error .isDirectory

/-- The permission bits of the file that a path leads to. -/
def mode (t : Tree) (p : String) : Except IoError Mode := do
  match ← t.entry p with
  | .file m _ => .ok m
  | _ => .error .isDirectory

/-! ## 2. Changing -/

/-- The mode of a new file. -/
def newFileMode : Mode := 0o644

/-- Writes a file, new or in place of its old octets. -/
def write (t : Tree) (p : String) (bytes : Bytes) : Except IoError Tree := do
  let l ← t.locate .write p
  match t.at? l with
  | none => .ok (t.put l (.file newFileMode bytes))
  | some (.file m _) => .ok (t.put l (.file m bytes))
  | some _ => .error .isDirectory

/-- Sets the permission bits of a file; a directory shows none. -/
def setMode (t : Tree) (p : String) (m : Mode) : Except IoError Tree := do
  let l ← t.locate .reach p
  match t.at? l with
  | some (.file _ bytes) => .ok (t.put l (.file m bytes))
  | some _ => .ok t
  | none => .error .noEntry

/-- Makes one directory. -/
def makeDir (t : Tree) (p : String) : Except IoError Tree := do
  let l ← t.locate .name p
  match t.at? l with
  | some _ => .error .nameTaken
  | none => .ok (t.put l .dir)

/-- Whether a path leads to a directory. -/
def isDir (t : Tree) (p : String) : Bool := t.entry p matches .ok .dir

/-- Makes a directory unless one is there. -/
def ensureDir (t : Tree) (p : String) : Except IoError Tree :=
  match t.makeDir p with
  | .ok t' => .ok t'
  | .error e => if e = .nameTaken ∧ t.isDir p then .ok t else .error e

/-- Makes the first of some paths, and for that those behind it as far as they are missing. -/
def ensureDirs (t : Tree) : List String → Except IoError Tree
  | [] => .ok t
  | p :: parents =>
    match t.ensureDir p with
    | .ok t' => .ok t'
    | .error e =>
      if e.kind = .notFound ∧ parents ≠ [] then do (← t.ensureDirs parents).ensureDir p
      else .error e

/-- The path and the paths of the directories on the way to it, longest first. -/
def waypoints (p : String) : List String :=
  let cs := p.toList
  let inner := (List.range cs.length).filter fun n =>
    0 < n && cs[n]? = some '/' && cs[n - 1]? ≠ some '/'
  p :: (inner.reverse.map fun n => String.ofList (cs.take n))

/-- Makes a directory and those on the way to it. -/
def makeDirs (t : Tree) (p : String) : Except IoError Tree :=
  if p.isEmpty then .ok t else t.ensureDirs (waypoints p)

/-- Makes a symbolic link. -/
def makeLink (t : Tree) (p target : String) : Except IoError Tree := do
  Path.check target
  let l ← t.locate .name p
  match t.at? l with
  | some _ => .error .nameTaken
  | none => if Path.endsInSlash p then .error .noEntry else .ok (t.put l (.link target))

/-- Takes a file or a link away. -/
def remove (t : Tree) (p : String) : Except IoError Tree := do
  let l ← t.locate .name p
  match t.at? l with
  | none => .error .noEntry
  | some .dir => .error .isDirectory
  | some _ => if Path.endsInSlash p then .error .notDirectory else .ok (t.erase l)

end PinnedFetch.Tree
