/-
# File trees

A tree says what stands at each location: a regular file with its mode and octets, a symbolic
link with its target, or a directory.  A location is the list of names from the root, so it never
runs through a link.  The tree also says which directory relative paths start from.

An entry is put in place, so that two writes at one location are the second alone (`put_put`), and
a write is seen at its own location and nowhere else (`at?_put_self`, `at?_put_of_ne`).
-/
import PinnedFetch.Bytes

namespace PinnedFetch

/-- The names from the root to an entry. -/
abbrev Location := List String

/-- The permission bits of a file, twelve of them. -/
abbrev Mode := BitVec 12

/-- A mode as a number. -/
instance : CoeOut Mode Nat := ⟨BitVec.toNat⟩

/-- What stands at a location. -/
inductive Entry where
  /-- A regular file: its permission bits and its octets. -/
  | file (mode : Mode) (bytes : Bytes)
  /-- A symbolic link. -/
  | link (target : String)
  /-- A directory. -/
  | dir
  deriving DecidableEq, Repr

/-- A file tree, seen from one of its directories. -/
structure Tree where
  /-- Where relative paths start. -/
  here : Location
  /-- What stands below the root. -/
  entries : List (Location × Entry)
  deriving DecidableEq, Repr

namespace Tree

/-! ## 1. Looking and putting -/

/-- The entry at a location; the root is a directory. -/
def at? (t : Tree) (l : Location) : Option Entry :=
  if l = [] then some .dir else t.entries.lookup l

/-- Entries with one of them put in its place, or behind the others. -/
def putEntry (l : Location) (e : Entry) : List (Location × Entry) → List (Location × Entry)
  | [] => [(l, e)]
  | (k, f) :: rest => if k = l then (l, e) :: rest else (k, f) :: putEntry l e rest

/-- The tree with an entry at a location. -/
def put (t : Tree) (l : Location) (e : Entry) : Tree := { t with entries := putEntry l e t.entries }

/-- The tree without the entry at a location. -/
def erase (t : Tree) (l : Location) : Tree :=
  { t with entries := t.entries.filter (fun p => p.1 ≠ l) }

/-- An empty directory, and no more than the way to it. -/
def emptyAt (here : Location) : Tree where
  here := here
  entries := (List.range here.length).map fun n => (here.take (n + 1), .dir)

/-! ## 2. What a write changes -/

theorem lookup_putEntry_self (l : Location) (e : Entry) (es : List (Location × Entry)) :
    (putEntry l e es).lookup l = some e := by
  induction es with
  | nil => simp [putEntry]
  | cons p es ih =>
    obtain ⟨k, f⟩ := p
    by_cases h : k = l
    · simp [putEntry, h]
    · have h' : (l == k) = false := by simpa using Ne.symm h
      simp [putEntry, h, List.lookup_cons, h', ih]

theorem lookup_putEntry_of_ne {l k : Location} (h : k ≠ l) (e : Entry)
    (es : List (Location × Entry)) : (putEntry l e es).lookup k = es.lookup k := by
  induction es with
  | nil =>
    have h' : (k == l) = false := by simpa using h
    simp [putEntry, List.lookup_cons, h']
  | cons p es ih =>
    obtain ⟨m, f⟩ := p
    by_cases hm : m = l
    · subst hm
      have h' : (k == m) = false := by simpa using h
      simp [putEntry, List.lookup_cons, h']
    · simp [putEntry, hm, List.lookup_cons, ih]

theorem putEntry_putEntry (l : Location) (e f : Entry) (es : List (Location × Entry)) :
    putEntry l e (putEntry l f es) = putEntry l e es := by
  induction es with
  | nil => simp [putEntry]
  | cons p es ih =>
    obtain ⟨k, g⟩ := p
    by_cases h : k = l
    · simp [putEntry, h]
    · simp [putEntry, h, ih]

@[simp] theorem here_put (t : Tree) (l : Location) (e : Entry) : (t.put l e).here = t.here := rfl

theorem at?_put_self (t : Tree) {l : Location} (h : l ≠ []) (e : Entry) :
    (t.put l e).at? l = some e := by
  simp [at?, put, h, lookup_putEntry_self]

theorem at?_put_of_ne (t : Tree) {l k : Location} (h : k ≠ l) (e : Entry) :
    (t.put l e).at? k = t.at? k := by
  simp [at?, put, lookup_putEntry_of_ne h]

/-- **The second of two writes stands alone.** -/
theorem put_put (t : Tree) (l : Location) (e f : Entry) : (t.put l f).put l e = t.put l e := by
  simp [put, putEntry_putEntry]

end Tree
end PinnedFetch
