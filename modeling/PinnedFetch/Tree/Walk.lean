/-
# Walking a path

A path is walked name by name from the root or from the directory one is in.  A link on the way is
replaced by its target, forty times at most; a link at the end is followed or not, as the purpose
of the walk demands.  The walk ends at a location whose parent was found to be a directory; nothing
need stand there yet.

There is one walk.  Reading, running, writing and changing a mode all go through it, so they agree
on the place that a path names.
-/
import PinnedFetch.IoError
import PinnedFetch.Path
import PinnedFetch.Tree.Basic

namespace PinnedFetch

/-- What a path is walked for. -/
inductive Purpose where
  /-- To reach what stands there; a link at the end is followed. -/
  | reach
  /-- To write a file, which may be new; a link at the end is followed, and a slash at the end
  speaks of a directory. -/
  | write
  /-- To treat the name itself; a link at the end is the place. -/
  | name
  deriving DecidableEq, Repr

namespace Path

/-- A move of a walk. -/
inductive Move where
  /-- Stay; what was reached must be a directory. -/
  | stay
  /-- To the parent. -/
  | up
  /-- To a name. -/
  | down (name : String)
  /-- A slash at the end; what was reached must be a directory. -/
  | slash
  deriving DecidableEq, Repr

/-- The move of a segment; empty segments are none. -/
def move? (segment : List Char) : Option Move :=
  if segment = [] then none
  else if segment = ['.'] then some .stay
  else if segment = ['.', '.'] then some .up
  else some (.down (String.ofList segment))

/-- The moves of a path without a slash at its end. -/
def bareMoves (p : String) : List Move := (segments p).filterMap move?

/-- The moves of a path. -/
def moves (p : String) : List Move := bareMoves p ++ if endsInSlash p then [.slash] else []

/-- The most octets that a name may have. -/
def nameLimit : Nat := 255

/-- The octets that a path, and the NUL behind it, may have. -/
def pathLimit : Nat := 4096

/-- Whether the system takes a path at all. -/
def check (p : String) : Except IoError Unit :=
  if '\x00' ∈ p.toList then .error .nulInPath
  else if p.isEmpty then .error .noEntry
  else if pathLimit ≤ p.utf8ByteSize then .error .nameTooLong
  else .ok ()

end Path

namespace Tree

open PinnedFetch.Path (Move)

/-- Where a path starts. -/
def start (here : Location) (p : String) : Location := if Path.isAbsolute p then [] else here

/-- Walks moves from a directory.  A link that is to be followed is left to `follow`, which gets
the directory to go on from and the moves to make. -/
def walkWith (t : Tree) (purpose : Purpose)
    (follow : Location → List Move → Except IoError Location) :
    Location → List Move → Except IoError Location
  | l, [] => .ok l
  | l, .stay :: rest => walkWith t purpose follow l rest
  | l, .slash :: rest => walkWith t purpose follow l rest
  | l, .up :: rest => walkWith t purpose follow l.dropLast rest
  | l, .down name :: rest =>
    if purpose = .write ∧ rest = [.slash] then .error .isDirectory
    else if Path.nameLimit < name.utf8ByteSize then .error .nameTooLong
    else match t.at? (l ++ [name]) with
      | none => if rest = [] then .ok (l ++ [name]) else .error .noEntry
      | some (.file _ _) => if rest = [] then .ok (l ++ [name]) else .error .notDirectory
      | some .dir => walkWith t purpose follow (l ++ [name]) rest
      | some (.link target) =>
        if purpose = .name ∧ rest = [] then .ok (l ++ [name])
        else follow (start l target) (Path.moves target ++ rest)

/-- Walks moves with at most `links` links on the way. -/
def walk (t : Tree) (purpose : Purpose) : Nat → Location → List Move → Except IoError Location
  | 0 => walkWith t purpose fun _ _ => .error .tooManyLinks
  | links + 1 => walkWith t purpose (walk t purpose links)

/-- The links that one walk may follow. -/
def linkLimit : Nat := 40

/-- The location that a path names, for a purpose. -/
def locate (t : Tree) (purpose : Purpose) (p : String) : Except IoError Location := do
  Path.check p
  walk t purpose linkLimit (start t.here p)
    (if purpose = .name then Path.bareMoves p else Path.moves p)

end Tree
end PinnedFetch
