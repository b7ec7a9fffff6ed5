/-
# What to fetch, and where to

A configuration names a release, the directory that holds its artefact, and two switches.  The
artefact path always has a directory in it, so running the artefact never searches for a command.
-/
import PinnedFetch.Path
import PinnedFetch.Release

namespace PinnedFetch

/-- The settings of a run. -/
structure Config where
  release : Release := .pinned
  /-- The directory that holds the artefact; the empty text is the directory one is in. -/
  dir : String := "."
  /-- Keep progress to oneself. -/
  quiet : Bool := false
  /-- Hash an artefact that reports the right version before trusting it. -/
  verifyExisting : Bool := false
  deriving DecidableEq, Repr

namespace Config

/-- The path of the artefact. -/
def path (c : Config) : String :=
  Path.join (if c.dir.isEmpty then "." else c.dir) c.release.fileName

/-- Whether two configurations ask for the same: their directories are compared as paths. -/
def same (a b : Config) : Bool :=
  a.release = b.release && Path.same a.dir b.dir && a.quiet == b.quiet &&
    a.verifyExisting == b.verifyExisting

end Config
end PinnedFetch
