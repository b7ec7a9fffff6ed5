/-
# Installing an artefact

The octets are written in place and the owner may run the result: the file keeps the permission
bits it has, or gets those of a new file, and the owner-execute bit is added.
-/
import PinnedFetch.Log.Record
import PinnedFetch.Tree.Access

namespace PinnedFetch

namespace Install

/-- The permission bit that lets the owner run a file. -/
def ownerExecute : Mode := 0o100

/-- What marks a regular file in the mode that the system reports. -/
def regularFile : Nat := 0o100000

/-- A mode in octal digits, the file type included. -/
def modeText (mode : Mode) : String :=
  String.ofList (Nat.toDigits 8 (regularFile ||| (mode : Nat)))

/-- The record of a change of mode. -/
def modeChanged (path : String) (old new : Mode) : Log.Record :=
  ⟨.trace, .install, s!"{path}: mode {modeText old} -> {modeText new}"⟩

/-- The tree, the records and the result of an installation. -/
structure Report where
  tree : Tree
  records : List Log.Record
  result : Except IoError Unit

/-- Lets the owner run the file that a path leads to. -/
def markExecutable (t : Tree) (path : String) : Report :=
  match t.mode path with
  | .error e => ⟨t, [], .error e⟩
  | .ok old =>
    let new := old ||| ownerExecute
    match t.setMode path new with
    | .error e => ⟨t, [modeChanged path old new], .error e⟩
    | .ok t' => ⟨t', [modeChanged path old new], .ok ()⟩

end Install

/-- Writes octets to a path and lets the owner run the file. -/
def install (t : Tree) (path : String) (bytes : Bytes) : Install.Report :=
  match t.write path bytes with
  | .error e => ⟨t, [], .error e⟩
  | .ok t' => Install.markExecutable t' path

end PinnedFetch
