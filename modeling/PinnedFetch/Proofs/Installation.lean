/-
# What an installation does to a tree

An installation writes through a path, looks the mode up through the same path and sets it through
the same path: three walks, of which the last two are made in a tree that the first has changed.
They end at one place, so an installation is one `put` (`install_eq`).  From there:

* it fails exactly when the path leads to no place for a file, and then nothing has changed;
* when it succeeds, the path leads to the new file, which has the octets and the mode of the old
  one with the owner-execute bit, and nothing else in the tree has changed (`installed_of_place`).
-/
import PinnedFetch.Install
import PinnedFetch.Proofs.Walk

namespace PinnedFetch

/-! ## 1. The place of a file -/

namespace Tree

/-- Where a file is written through a path: a place that has room for one. -/
def place (t : Tree) (p : String) : Except IoError Location := do
  let l ← t.locate .write p
  match t.at? l with
  | none => .ok l
  | some (.file _ _) => .ok l
  | some _ => .error .isDirectory

/-- The mode that a file written at a location gets: that of the file there, or a new file's. -/
def modeAt (t : Tree) (l : Location) : Mode :=
  match t.at? l with
  | some (.file m _) => m
  | _ => newFileMode

theorem modeAt_of_none {t : Tree} {l : Location} (h : t.at? l = none) :
    t.modeAt l = newFileMode := by
  rw [modeAt, h]

theorem modeAt_of_file {t : Tree} {l : Location} {m : Mode} {bytes : Bytes}
    (h : t.at? l = some (.file m bytes)) : t.modeAt l = m := by
  rw [modeAt, h]

theorem place_eq_ok_iff {t : Tree} {p : String} {l : Location} :
    t.place p = .ok l ↔ t.locate .write p = .ok l ∧ t.Room l := by
  constructor
  · intro h
    cases hk : t.locate .write p with
    | error e =>
      simp only [place, hk, bind, Except.bind] at h
      exact absurd h (by simp)
    | ok k =>
      simp only [place, hk, bind, Except.bind] at h
      split at h
      · rename_i e
        cases h
        exact ⟨rfl, Or.inl e⟩
      · rename_i m bytes e
        cases h
        exact ⟨rfl, Or.inr ⟨m, bytes, e⟩⟩
      · exact absurd h (by simp)
  · rintro ⟨hl, e | ⟨m, bytes, e⟩⟩
    · simp [place, hl, e, bind, Except.bind]
    · simp [place, hl, e, bind, Except.bind]

/-- A write is a `put` at the place of the file. -/
theorem write_eq (t : Tree) (p : String) (bytes : Bytes) :
    t.write p bytes = (t.place p).map fun l => t.put l (.file (t.modeAt l) bytes) := by
  unfold write place
  cases hl : t.locate .write p with
  | error e => rfl
  | ok l =>
    simp only [bind, Except.bind]
    cases he : t.at? l with
    | none => simp [Except.map, modeAt_of_none he]
    | some entry =>
      cases entry with
      | file m old => simp [Except.map, modeAt_of_file he]
      | link target => rfl
      | dir => rfl

/-! ## 2. The file at its place -/

section Placed

variable {t : Tree} {p : String} {l : Location}

/-- The path led to the place before anything was written there. -/
theorem locate_of_place (h : t.place p = .ok l) : t.locate .reach p = .ok l := by
  obtain ⟨hl, room⟩ := place_eq_ok_iff.mp h
  exact locate_of_write room room (AgreeOff.refl l t) (by simp) hl

/-- Nothing that happens to the file at the place moves the place. -/
theorem place_of_agreeOff (h : t.place p = .ok l) {t' : Tree} (off : AgreeOff l t t')
    (room' : t'.Room l) : t'.place p = .ok l := by
  obtain ⟨hl, room⟩ := place_eq_ok_iff.mp h
  exact place_eq_ok_iff.mpr ⟨locate_of_write room room' off (by simp) hl, room'⟩

theorem place_put (h : t.place p = .ok l) (m : Mode) (bytes : Bytes) :
    (t.put l (.file m bytes)).place p = .ok l :=
  place_of_agreeOff h (agreeOff_put t l _) (room_put (place_eq_ok_iff.mp h).2 m bytes)

theorem at?_put_place (h : t.place p = .ok l) (e : Entry) : (t.put l e).at? l = some e :=
  at?_put_self t (place_eq_ok_iff.mp h).2.ne_nil e

/-- What is at a location is what the paths that reach it lead to. -/
theorem entry_of_locate (h : t.locate .reach p = .ok l) {e : Entry} (there : t.at? l = some e) :
    t.entry p = .ok e := by
  simp [entry, h, there, bind, Except.bind]

/-- A path leads to something when there is something at the location that it reaches. -/
theorem isThere_of_locate (h : t.locate .reach p = .ok l) : t.isThere p = (t.at? l).isSome := by
  unfold isThere entry
  rw [h]
  simp only [bind, Except.bind]
  cases t.at? l <;> rfl

/-- What is at the place is what the path leads to. -/
theorem entry_of_place (h : t.place p = .ok l) {e : Entry} (there : t.at? l = some e) :
    t.entry p = .ok e :=
  entry_of_locate (locate_of_place h) there

theorem isThere_of_entry {e : Entry} (h : t.entry p = .ok e) : t.isThere p = true := by
  simp [isThere, h, Except.isOk, Except.toBool]

theorem read_of_entry {m : Mode} {bytes : Bytes} (h : t.entry p = .ok (.file m bytes)) :
    t.read p = .ok bytes := by
  simp [read, h, bind, Except.bind]

theorem mode_of_entry {m : Mode} {bytes : Bytes} (h : t.entry p = .ok (.file m bytes)) :
    t.mode p = .ok m := by
  simp [mode, h, bind, Except.bind]

/-- The path leads to the file that was written through it. -/
theorem entry_put_place (h : t.place p = .ok l) (m : Mode) (bytes : Bytes) :
    (t.put l (.file m bytes)).entry p = .ok (.file m bytes) :=
  entry_of_place (place_put h m bytes) (at?_put_place h _)

theorem setMode_put_place (h : t.place p = .ok l) (m m' : Mode) (bytes : Bytes) :
    (t.put l (.file m bytes)).setMode p m' = .ok (t.put l (.file m' bytes)) := by
  simp [setMode, locate_of_place (place_put h m bytes), at?_put_place h, put_put, bind,
    Except.bind]

end Placed

end Tree

/-! ## 3. Installing -/

open Install (ownerExecute modeChanged)

/-- **An installation is one `put`.**  Once there is a place for the file, neither the look at the
mode nor the change of the mode can fail. -/
theorem install_eq (t : Tree) (p : String) (bytes : Bytes) :
    install t p bytes =
      match t.place p with
      | .error e => ⟨t, [], .error e⟩
      | .ok l =>
        ⟨t.put l (.file (t.modeAt l ||| ownerExecute) bytes),
          [modeChanged p (t.modeAt l) (t.modeAt l ||| ownerExecute)], .ok ()⟩ := by
  unfold install
  rw [Tree.write_eq]
  cases h : t.place p with
  | error e => rfl
  | ok l =>
    simp only [Except.map, Install.markExecutable]
    rw [Tree.mode_of_entry (Tree.entry_put_place h _ bytes)]
    simp only
    rw [Tree.setMode_put_place h]

/-- `t'` is `t` after octets were installed at the place that a path leads to. -/
structure Installed (l : Location) (p : String) (bytes : Bytes) (t t' : Tree) : Prop where
  /-- The path led to the place, though perhaps to nothing there. -/
  led : t.locate .reach p = .ok l
  /-- It leads to the place still. -/
  leads : t'.locate .reach p = .ok l
  /-- There is the file: a new one, or the old one with new octets and one bit of mode more. -/
  file : (t.at? l = none ∧ t'.at? l = some (.file 0o744 bytes)) ∨
    ∃ m old, t.at? l = some (.file m old) ∧ t'.at? l = some (.file (m ||| 0o100) bytes)
  /-- Everything else is as it was. -/
  off : t.AgreeOff l t'

/-- What an installation has changed is the file. -/
theorem Installed.eq_of_changed {l : Location} {p : String} {bytes : Bytes} {t t' : Tree}
    (h : Installed l p bytes t t') {k : Location} (changed : t'.at? k ≠ t.at? k) : k = l := by
  by_cases here : k = l
  · exact here
  · exact absurd (h.off.at?_eq k here) changed

/-- **What an installation that succeeds does to the tree.** -/
theorem installed_of_place {t : Tree} {p : String} {l : Location} (h : t.place p = .ok l)
    (bytes : Bytes) :
    Installed l p bytes t (t.put l (.file (t.modeAt l ||| ownerExecute) bytes)) where
  led := Tree.locate_of_place h
  leads := Tree.locate_of_place (Tree.place_put h _ bytes)
  file := by
    rw [Tree.at?_put_place h]
    rcases (Tree.place_eq_ok_iff.mp h).2 with e | ⟨m, old, e⟩
    · left
      refine ⟨e, ?_⟩
      rw [Tree.modeAt_of_none e]
      rfl
    · right
      refine ⟨m, old, e, ?_⟩
      rw [Tree.modeAt_of_file e]
      rfl
  off := Tree.agreeOff_put t l _

/-- A tree in which the artefact's path is a link to a file that is not there yet. -/
def dangling : Tree :=
  ((Tree.emptyAt []).put ["bin"] .dir).put ["waf"] (.link "bin/waf-1.8.6")

end PinnedFetch
