/-
# Listings

What stands below a directory, names in the order of their code points and every directory followed
by what it holds.
-/
import PinnedFetch.Tree.Basic

namespace PinnedFetch.Tree

/-- The order of locations: name by name, and a directory before what it holds. -/
def before : Location → Location → Bool
  | [], _ => true
  | _ :: _, [] => false
  | a :: as, b :: bs => if a = b then before as bs else a < b

/-- The names from a directory to a location below it. -/
def below? (dir l : Location) : Option Location :=
  if dir.isPrefixOf l && dir.length < l.length then some (l.drop dir.length) else none

/-- The entries below a directory, each with the names that lead to it. -/
def listing (t : Tree) (dir : Location) : List (Location × Entry) :=
  let found := t.entries.filterMap fun (l, e) => (below? dir l).map fun names => (names, e)
  found.mergeSort fun a b => before a.1 b.1

end PinnedFetch.Tree
