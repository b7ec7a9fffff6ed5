/-
# Walks after a file was written

Writing through a path locates a place for a file: either one stands there, or nothing does and
the directory above does.  Whatever then happens to the file at that place, and to nothing else,
the same path leads to the same place again, be it to read what stands there or to write it once
more (`locate_of_write`).  Relative and absolute links, chains of them and links to what is not
there yet all come to the same argument: a walk that ends at the place has not passed through it,
because a file is no way on.

The two trees need not come from one another by a write.  It is enough that they agree off the
place (`AgreeOff`) and that both have room for a file there (`Room`).  Then the paths that lead to
the place in one are those that lead there in the other (`locate_reach_iff`).
-/
import PinnedFetch.Tree.Access

namespace PinnedFetch.Tree

open PinnedFetch.Path (Move)

/-! ## 1. Trees that agree off one location -/

/-- `t'` is `t`, seen from the same directory, with one location changed at most. -/
structure AgreeOff (l : Location) (t t' : Tree) : Prop where
  here_eq : t'.here = t.here
  at?_eq : ∀ k, k ≠ l → t'.at? k = t.at? k

theorem AgreeOff.refl (l : Location) (t : Tree) : AgreeOff l t t := ⟨rfl, fun _ _ => rfl⟩

theorem AgreeOff.trans {l : Location} {t u v : Tree} (h : AgreeOff l t u) (h' : AgreeOff l u v) :
    AgreeOff l t v :=
  ⟨h'.here_eq.trans h.here_eq, fun k hk => (h'.at?_eq k hk).trans (h.at?_eq k hk)⟩

theorem AgreeOff.symm {l : Location} {t t' : Tree} (h : AgreeOff l t t') : AgreeOff l t' t :=
  ⟨h.here_eq.symm, fun k hk => (h.at?_eq k hk).symm⟩

theorem agreeOff_put (t : Tree) (l : Location) (e : Entry) : AgreeOff l t (t.put l e) :=
  ⟨here_put t l e, fun _ hk => at?_put_of_ne t hk e⟩

/-! ## 2. Room for a file -/

/-- A file stands at the location, or nothing does. -/
def Room (t : Tree) (l : Location) : Prop :=
  t.at? l = none ∨ ∃ m bytes, t.at? l = some (.file m bytes)

/-- The root is a directory, so there is no room for a file. -/
theorem Room.ne_nil {t : Tree} {l : Location} (h : t.Room l) : l ≠ [] := by
  rintro rfl
  rcases h with h | ⟨m, bytes, h⟩
  · simp [at?] at h
  · simp [at?] at h

theorem room_put {t : Tree} {l : Location} (h : t.Room l) (m : Mode) (bytes : Bytes) :
    (t.put l (.file m bytes)).Room l :=
  Or.inr ⟨m, bytes, at?_put_self t h.ne_nil _⟩

/-! ## 3. The walk of the first tree, made in the second -/

section Walks

variable {t t' : Tree} {l : Location} {purpose purpose' : Purpose}

/-- The moves of one directory after another, the links left to `follow` and `follow'`.  The
induction is on the moves. -/
theorem walkWith_of_room (room : t.Room l) (room' : t'.Room l) (off : AgreeOff l t t')
    (hp : purpose ≠ .name) (hp' : purpose' ≠ .name) (strict : purpose' = .write → purpose = .write)
    {follow follow' : Location → List Move → Except IoError Location}
    (hf : ∀ k ms, follow k ms = .ok l → follow' k ms = .ok l) :
    ∀ (ms : List Move) (k : Location), walkWith t purpose follow k ms = .ok l →
      walkWith t' purpose' follow' k ms = .ok l
  | [], k, h => h
  | .stay :: rest, k, h => by
    rw [walkWith] at h ⊢
    exact walkWith_of_room room room' off hp hp' strict hf rest k h
  | .slash :: rest, k, h => by
    rw [walkWith] at h ⊢
    exact walkWith_of_room room room' off hp hp' strict hf rest k h
  | .up :: rest, k, h => by
    rw [walkWith] at h ⊢
    exact walkWith_of_room room room' off hp hp' strict hf rest k.dropLast h
  | .down name :: rest, k, h => by
    rw [walkWith] at h ⊢
    have bare : ¬ (purpose = .write ∧ rest = [.slash]) := by
      intro slashed
      rw [if_pos slashed] at h
      exact absurd h (by simp)
    rw [if_neg bare] at h
    rw [if_neg fun slashed => bare ⟨strict slashed.1, slashed.2⟩]
    split at h
    · exact absurd h (by simp)
    rename_i short
    rw [if_neg short]
    by_cases arrived : k ++ [name] = l
    · subst arrived
      -- what stands here is no directory and no link, so no move can be left
      have last : rest = [] := by
        rcases room with e | ⟨m, bytes, e⟩
        · simp only [e] at h
          split at h
          · assumption
          · exact absurd h (by simp)
        · simp only [e] at h
          split at h
          · assumption
          · exact absurd h (by simp)
      rcases room' with e | ⟨m, bytes, e⟩
      · simp [e, last]
      · simp [e, last]
    · rw [off.at?_eq _ arrived]
      cases e : t.at? (k ++ [name]) with
      | none =>
        simp only [e] at h
        split at h
        · exact absurd (Except.ok.inj h) arrived
        · exact absurd h (by simp)
      | some entry =>
        cases entry with
        | file m bytes =>
          simp only [e] at h
          split at h
          · exact absurd (Except.ok.inj h) arrived
          · exact absurd h (by simp)
        | dir =>
          simp only [e] at h
          exact walkWith_of_room room room' off hp hp' strict hf rest (k ++ [name]) h
        | link target =>
          simp only [e] at h
          rw [if_neg (by simp [hp])] at h
          simp only
          rw [if_neg (by simp [hp'])]
          exact hf _ _ h

/-- The same with the links followed.  The induction is on how many may be. -/
theorem walk_of_room (room : t.Room l) (room' : t'.Room l) (off : AgreeOff l t t')
    (hp : purpose ≠ .name) (hp' : purpose' ≠ .name)
    (strict : purpose' = .write → purpose = .write) :
    ∀ (links : Nat) (k : Location) (ms : List Move),
      walk t purpose links k ms = .ok l → walk t' purpose' links k ms = .ok l
  | 0, k, ms, h => by
    rw [walk] at h ⊢
    exact walkWith_of_room room room' off hp hp' strict (fun _ _ h => absurd h (by simp)) ms k h
  | links + 1, k, ms, h => by
    rw [walk] at h ⊢
    exact walkWith_of_room room room' off hp hp' strict
      (walk_of_room room room' off hp hp' strict links) ms k h

/-- A path leads where the walk of its moves ends, if the system takes it. -/
theorem locate_eq_ok_iff (hp : purpose ≠ .name) {p : String} {k : Location} :
    t.locate purpose p = .ok k ↔ Path.check p = .ok () ∧
      t.walk purpose linkLimit (start t.here p) (Path.moves p) = .ok k := by
  unfold locate
  rw [if_neg hp]
  cases Path.check p with
  | error e => simp [bind, Except.bind]
  | ok _ => simp [bind, Except.bind]

/-- **A path that leads to room for a file leads there again.**  The second walk may be made for the
purpose of the first, or only to reach what the first was to write to. -/
theorem locate_of_room (room : t.Room l) (room' : t'.Room l) (off : AgreeOff l t t')
    (hp : purpose ≠ .name) (hp' : purpose' ≠ .name) (strict : purpose' = .write → purpose = .write)
    {p : String} (h : t.locate purpose p = .ok l) : t'.locate purpose' p = .ok l := by
  obtain ⟨taken, walked⟩ := (locate_eq_ok_iff hp).mp h
  refine (locate_eq_ok_iff hp').mpr ⟨taken, ?_⟩
  rw [off.here_eq]
  exact walk_of_room room room' off hp hp' strict linkLimit _ _ walked

/-- **A path leads again to where a file was written through it.** -/
theorem locate_of_write (room : t.Room l) (room' : t'.Room l) (off : AgreeOff l t t')
    (hp : purpose ≠ .name) {p : String} (h : t.locate .write p = .ok l) :
    t'.locate purpose p = .ok l :=
  locate_of_room room room' off (by simp) hp (fun _ => rfl) h

/-- **The paths that reach a file are those that reached its place before,** whether it was there
then or not. -/
theorem locate_reach_iff (room : t.Room l) (room' : t'.Room l) (off : AgreeOff l t t')
    (q : String) : t'.locate .reach q = .ok l ↔ t.locate .reach q = .ok l :=
  ⟨locate_of_room room' room off.symm (by simp) (by simp) id,
    locate_of_room room room' off (by simp) (by simp) id⟩

end Walks

end PinnedFetch.Tree
