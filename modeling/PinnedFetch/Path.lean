/-
# Paths

A path is a text; slashes cut it into names.  `join` puts a name behind a directory, `components`
reads a path without its repeated slashes and inner dots, and two paths are the same when their
components are.
-/
import PinnedFetch.Text.Fields

namespace PinnedFetch.Path

/-! ## 1. Joining -/

/-- Whether a path starts at the root. -/
def isAbsolute (p : String) : Bool := p.toList.head? = some '/'

/-- Whether a path ends in a slash. -/
def endsInSlash (p : String) : Bool := p.toList.getLast? = some '/'

/-- A name put behind a directory.  A name that starts at the root stands alone, and a slash goes
between the two only where there is none. -/
def join (dir name : String) : String :=
  if isAbsolute name then name
  else if dir.isEmpty || endsInSlash dir then dir ++ name
  else dir ++ "/" ++ name

/-! ## 2. Components -/

/-- One step of a path. -/
inductive Component where
  /-- The root. -/
  | root
  /-- A dot at the start of a relative path. -/
  | here
  /-- Two dots. -/
  | parent
  /-- Any other name. -/
  | name (s : String)
  deriving DecidableEq, Repr

/-- The texts between the slashes, empty ones included. -/
def segments (p : String) : List (List Char) := Text.fields '/' p.toList

/-- The step that a segment stands for; an empty segment or a single dot is none. -/
def step? (segment : List Char) : Option Component :=
  if segment = [] ∨ segment = ['.'] then none
  else if segment = ['.', '.'] then some .parent
  else some (.name (String.ofList segment))

/-- The steps of a path. -/
def components (p : String) : List Component :=
  let body := (segments p).filterMap step?
  if isAbsolute p then .root :: body
  else if (segments p).head? = some ['.'] then .here :: body
  else body

/-- Whether two paths have the same steps. -/
def same (p q : String) : Bool := components p = components q

/-- The last step of a path, if it is a name. -/
def fileName? (p : String) : Option String :=
  match (components p).getLast? with
  | some (.name s) => some s
  | _ => none

end PinnedFetch.Path
