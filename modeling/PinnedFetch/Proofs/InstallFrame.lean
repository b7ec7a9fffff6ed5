/-
# What an installation leaves behind

The three walks of an installation end at one location, so it is one `put` (`install_eq`).  This
module says what that means to someone who looks at the tree through its paths:

* every path that reached the place of the file, be it through links, dots or slashes, reaches the
  new file and reads the new octets, and no other path does (`Tree.locate_reach_iff`);
* an entry is created where there was none, and only there; nothing is removed, and no link, no
  directory and no other file is touched (`Settled`);
* what an earlier installation wrote at the same path is gone without a trace (`install_install`).
-/
import PinnedFetch.Proofs.Installation

namespace PinnedFetch

open Install (ownerExecute)

/-! ## 1. After an installation -/

/-- `t'` is `t` after octets were installed at a location, as it can be seen through paths. -/
structure Settled (l : Location) (p : String) (bytes : Bytes) (t t' : Tree) : Prop extends
    Installed l p bytes t t' where
  /-- The path leads to something. -/
  there : t'.isThere p = true
  /-- The paths to the file are those that led to its place before. -/
  reached : ∀ q, t'.locate .reach q = .ok l ↔ t.locate .reach q = .ok l
  /-- Every path to the file reads the octets. -/
  read : ∀ q, t'.locate .reach q = .ok l → t'.read q = .ok bytes
  /-- Of what was there, one thing may have changed, and that is a file. -/
  kept : ∀ k e, t.at? k = some e → t'.at? k ≠ some e → k = l ∧ ∃ m old, e = .file m old
  /-- Nothing is gone. -/
  stays : ∀ k, t.at? k ≠ none → t'.at? k ≠ none
  /-- Something is new at the location if the path led to nothing, and nowhere else. -/
  created : ∀ k, t.at? k = none ∧ t'.at? k ≠ none ↔ k = l ∧ t.isThere p = false

section After

variable {l : Location} {p : String} {bytes : Bytes} {t t' : Tree}

/-- A file stands where octets were installed. -/
theorem Installed.at?_eq (h : Installed l p bytes t t') :
    ∃ m, t'.at? l = some (.file m bytes) := by
  rcases h.file with ⟨-, e⟩ | ⟨m, old, -, e⟩
  · exact ⟨_, e⟩
  · exact ⟨_, e⟩

/-- There was room for it. -/
theorem Installed.room (h : Installed l p bytes t t') : t.Room l := by
  rcases h.file with ⟨e, -⟩ | ⟨m, old, e, -⟩
  · exact Or.inl e
  · exact Or.inr ⟨m, old, e⟩

/-- **All of it follows from where the file is and that nothing else has changed.** -/
theorem Installed.settled (h : Installed l p bytes t t') : Settled l p bytes t t' where
  toInstalled := h
  there := by
    obtain ⟨m, e⟩ := h.at?_eq
    exact Tree.isThere_of_entry (Tree.entry_of_locate h.leads e)
  reached := by
    obtain ⟨m, e⟩ := h.at?_eq
    exact Tree.locate_reach_iff h.room (Or.inr ⟨m, bytes, e⟩) h.off
  read q leads := by
    obtain ⟨m, e⟩ := h.at?_eq
    exact Tree.read_of_entry (Tree.entry_of_locate leads e)
  kept k e was other := by
    have here : k = l := h.eq_of_changed (was ▸ other)
    subst here
    rcases h.room with none | ⟨m, old, file⟩
    · exact absurd (was.symm.trans none) (by simp)
    · exact ⟨rfl, m, old, Option.some.inj (was.symm.trans file)⟩
  stays k was := by
    by_cases here : k = l
    · obtain ⟨m, e⟩ := h.at?_eq
      rw [here, e]
      simp
    · rw [h.off.at?_eq k here]
      exact was
  created k := by
    obtain ⟨m, e⟩ := h.at?_eq
    rw [Tree.isThere_of_locate h.led, Option.isSome_eq_false_iff, Option.isNone_iff_eq_none]
    constructor
    · rintro ⟨was, is⟩
      have here : k = l := h.eq_of_changed (was ▸ is)
      exact ⟨here, here ▸ was⟩
    · rintro ⟨rfl, was⟩
      exact ⟨was, by simp [e]⟩

end After

/-! ## 2. One installation after another -/

/-- A path with a place for a file is all that an installation needs. -/
theorem install_ok_iff (t : Tree) (p : String) (bytes : Bytes) :
    (install t p bytes).result = .ok () ↔ ∃ l, t.locate .write p = .ok l ∧ t.Room l := by
  rw [install_eq]
  simp only [← Tree.place_eq_ok_iff]
  cases t.place p with
  | error e => simp
  | ok l => simp

/-- **The second of two installations at a path stands alone.** -/
theorem install_install (t : Tree) (p : String) (first second : Bytes) :
    (install (install t p first).tree p second).tree = (install t p second).tree ∧
      (install (install t p first).tree p second).result = (install t p second).result := by
  rw [install_eq t p first, install_eq t p second]
  cases place : t.place p with
  | error e =>
    simp only
    rw [install_eq, place]
    exact ⟨rfl, rfl⟩
  | ok l =>
    simp only
    rw [install_eq, Tree.place_put place]
    simp only
    rw [Tree.modeAt_of_file (Tree.at?_put_place place _), Tree.put_put, BitVec.or_assoc,
      BitVec.or_self]
    exact ⟨rfl, trivial⟩

/-! ## 3. The contract -/

/-- **An installation, seen through the paths of the tree.**  It succeeds exactly when the path
leads to a file, or to a name that is free in a directory.

* If it succeeds, the octets stand where the path led: in the file that was there, with one bit of
  mode more, or in a new file.  All paths to that file read them, and all else is as it was.
* If it fails, the tree is as it was.
* An installation at the same path then leaves what it would leave without the first one; made
  with the same octets, it leaves what the first one left. -/
theorem install_frame (t : Tree) (p : String) (bytes : Bytes) :
    let done := install t p bytes
    (done.result = .ok () ↔ ∃ l, t.locate .write p = .ok l ∧ t.Room l) ∧
    (done.result = .ok () → ∃ l, Settled l p bytes t done.tree) ∧
    (∀ e, done.result = .error e → done.tree = t) ∧
    (∀ next, (install done.tree p next).tree = (install t p next).tree ∧
      (install done.tree p next).result = (install t p next).result) ∧
    (install done.tree p bytes).tree = done.tree ∧
      (install done.tree p bytes).result = done.result := by
  intro done
  refine ⟨install_ok_iff t p bytes, ?_, ?_, fun next => install_install t p bytes next,
    install_install t p bytes bytes⟩
  · intro ok
    obtain ⟨l, leads, room⟩ := (install_ok_iff t p bytes).mp ok
    have place : t.place p = .ok l := Tree.place_eq_ok_iff.mpr ⟨leads, room⟩
    refine ⟨l, ?_⟩
    simp only [done, install_eq, place]
    exact (installed_of_place place bytes).settled
  · intro e failed
    simp only [done, install_eq] at failed ⊢
    cases place : t.place p with
    | error cause => rfl
    | ok l =>
      rw [place] at failed
      exact absurd failed (by simp)

/-- Octets installed through a dangling link are read from where it points, by any way there. -/
theorem install_frame_dangling :
    let done := install dangling "./waf" [1]
    done.result = .ok () ∧ dangling.isThere "./waf" = false ∧
      done.tree.read "bin//../bin/./waf-1.8.6" = .ok [1] ∧
      done.tree.at? ["waf"] = some (.link "bin/waf-1.8.6") := by
  intro done
  have leads : dangling.locate .reach "bin//../bin/./waf-1.8.6" = .ok ["bin", "waf-1.8.6"] := rfl
  have led : dangling.locate .reach "./waf" = .ok ["bin", "waf-1.8.6"] := rfl
  have absent : dangling.isThere "./waf" = false := rfl
  have ok : done.result = .ok () :=
    (install_frame dangling "./waf" [1]).1.mpr ⟨["bin", "waf-1.8.6"], rfl, Or.inl rfl⟩
  obtain ⟨l, settled⟩ := (install_frame dangling "./waf" [1]).2.1 ok
  have here : l = ["bin", "waf-1.8.6"] := Except.ok.inj (settled.led.symm.trans led)
  subst here
  refine ⟨ok, absent, settled.read _ ((settled.reached _).mpr leads), ?_⟩
  exact settled.off.at?_eq ["waf"] (by decide)

end PinnedFetch
