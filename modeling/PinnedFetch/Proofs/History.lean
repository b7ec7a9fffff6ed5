/-
# Histories of runs

Runs for one release and one directory, each with its own settings, collaborators and writer, are
made one after another in a tree that only they change.  Whatever the artefact says of its version
and whatever is downloaded, the tree is at every point the one that the history began with, or that
tree with the file at the artefact's place replaced by octets of the release (`standing_history`).
Once a run has installed, only the second is possible (`replaced_of_everInstalls`).

The invariant speaks of the place that the path led to in the first tree.  That later runs write to
the same place, also when it came into being as the target of a dangling link, is
`Tree.place_of_agreeOff`.
-/
import PinnedFetch.Proofs.DigestGate

namespace PinnedFetch

/-! ## 1. Histories -/

/-- The path under which the artefact of a release is kept in a directory. -/
def artefact (r : Release) (dir : String) : String := Config.path { release := r, dir := dir }

/-- A run of a history: what is its own, apart from the release and the directory. -/
structure Attempt (σ : Type) where
  quiet : Bool
  verifyExisting : Bool
  collaborators : Collaborators
  writer : Writer σ
  out : σ

variable {σ : Type}

namespace Attempt

/-- The settings of the run. -/
def config (a : Attempt σ) (r : Release) (dir : String) : Config where
  release := r
  dir := dir
  quiet := a.quiet
  verifyExisting := a.verifyExisting

/-- The run, made in a tree. -/
def perform (a : Attempt σ) (r : Release) (dir : String) (t : Tree) :
    Except Failure Outcome × Scene σ :=
  Run.perform a.writer (a.config r dir) a.collaborators { tree := t, out := a.out }

/-- The run says that it has installed the artefact. -/
def Installs (a : Attempt σ) (r : Release) (dir : String) (t : Tree) : Prop :=
  ∃ path, (a.perform r dir t).1 = .ok (.installed path)

/-- A run installs when what it finds has to go and its delivery is placed. -/
theorem installs_of_placed {a : Attempt σ} {r : Release} {dir : String} {t : Tree}
    {bytes : Bytes} {l : Location}
    (goes : (Run.find t (a.config r dir) a.collaborators).verdict = .ok false)
    (placed : Run.deliver t (a.config r dir) a.collaborators = .placed bytes l) :
    a.Installs r dir t := by
  unfold Attempt.Installs Attempt.perform
  rw [Run.perform_eq, Run.course_of_goes goes, placed]
  exact ⟨_, rfl⟩

end Attempt

/-- The tree after a history. -/
def history (r : Release) (dir : String) : List (Attempt σ) → Tree → Tree
  | [], t => t
  | a :: as, t => history r dir as (a.perform r dir t).2.tree

/-- Some run of a history installs. -/
def EverInstalls (r : Release) (dir : String) : List (Attempt σ) → Tree → Prop
  | [], _ => False
  | a :: as, t => a.Installs r dir t ∨ EverInstalls r dir as (a.perform r dir t).2.tree

theorem history_append (r : Release) (dir : String) (as bs : List (Attempt σ)) (t : Tree) :
    history r dir (as ++ bs) t = history r dir bs (history r dir as t) := by
  induction as generalizing t with
  | nil => rfl
  | cons a as ih => exact ih _

theorem everInstalls_append {r : Release} {dir : String} {as : List (Attempt σ)} {t : Tree}
    (h : EverInstalls r dir as t) (bs : List (Attempt σ)) : EverInstalls r dir (as ++ bs) t := by
  induction as generalizing t with
  | nil => exact absurd h (by simp [EverInstalls])
  | cons a as ih =>
    rcases h with h | h
    · exact Or.inl h
    · exact Or.inr (ih h)

/-! ## 2. Bits of mode -/

/-- Every bit of one mode is set in the other. -/
def Mode.Within (m m' : Mode) : Prop := m ||| m' = m'

theorem Mode.Within.trans {a b c : Mode} (h : a.Within b) (h' : b.Within c) : a.Within c := by
  unfold Mode.Within at *
  rw [← h', ← BitVec.or_assoc, h]

theorem Mode.within_or_left (a b : Mode) : a.Within (a ||| b) := by
  unfold Mode.Within
  rw [← BitVec.or_assoc, BitVec.or_self]

theorem Mode.within_or_right (a b : Mode) : b.Within (a ||| b) := by
  rw [BitVec.or_comm]
  exact Mode.within_or_left b a

/-! ## 3. The invariant -/

/-- `t'` is `t` with the file at the path's place replaced: it has octets of the release, its owner
may run it, and it has every bit of mode that the file there had before. -/
structure Replaced (r : Release) (p : String) (l : Location) (t t' : Tree) : Prop where
  place : t.place p = .ok l
  off : t.AgreeOff l t'
  file : ∃ m bytes, t'.at? l = some (.file m bytes) ∧ Digest.of bytes = r.sha256 ∧
    (t.modeAt l ||| Install.ownerExecute).Within m

/-- `t'` is `t`, or `t` with the file replaced. -/
def Standing (r : Release) (p : String) (t t' : Tree) : Prop := t' = t ∨ ∃ l, Replaced r p l t t'

section Invariant

variable {r : Release} {p : String} {l : Location} {t t' : Tree}

/-- The path still has its place. -/
theorem Replaced.place' (h : Replaced r p l t t') : t'.place p = .ok l := by
  obtain ⟨m, bytes, e, -, -⟩ := h.file
  exact Tree.place_of_agreeOff h.place h.off (Or.inr ⟨m, bytes, e⟩)

theorem replaced_put {bytes : Bytes} (place : t.place p = .ok l)
    (right : Digest.of bytes = r.sha256) :
    Replaced r p l t (t.put l (.file (t.modeAt l ||| Install.ownerExecute) bytes)) where
  place := place
  off := Tree.agreeOff_put t l _
  file := ⟨_, bytes, Tree.at?_put_place place _, right, BitVec.or_self⟩

/-- A file that was replaced can be replaced again. -/
theorem Replaced.trans {k : Location} {u : Tree} (h : Replaced r p l t t')
    (h' : Replaced r p k t' u) : Replaced r p l t u := by
  have same : k = l := Except.ok.inj (h'.place.symm.trans h.place')
  subst same
  obtain ⟨m, bytes, e, -, grown⟩ := h.file
  obtain ⟨m', bytes', e', right, grown'⟩ := h'.file
  rw [Tree.modeAt_of_file e] at grown'
  exact ⟨h.place, h.off.trans h'.off, m', bytes', e', right,
    grown.trans ((Mode.within_or_left m _).trans grown')⟩

theorem Standing.trans {u : Tree} (h : Standing r p t t') (h' : Standing r p t' u) :
    Standing r p t u := by
  rcases h with rfl | ⟨l, h⟩
  · exact h'
  · rcases h' with rfl | ⟨k, h'⟩
    · exact Or.inr ⟨l, h⟩
    · exact Or.inr ⟨l, h.trans h'⟩

end Invariant

/-! ## 4. What a run keeps, and what a history keeps -/

/-- **One run.**  It leaves the tree alone, or it installs and replaces the file. -/
theorem standing_perform (a : Attempt σ) (r : Release) (dir : String) (t : Tree) :
    (¬ a.Installs r dir t ∧ (a.perform r dir t).2.tree = t) ∨
      a.Installs r dir t ∧ ∃ l, Replaced r (artefact r dir) l t (a.perform r dir t).2.tree := by
  unfold Attempt.Installs Attempt.perform
  rw [Run.perform_eq]
  simp only [Scene.tree_after]
  rcases Run.course_installs t (a.config r dir) a.collaborators with
    ⟨other, kept⟩ | ⟨bytes, l, -, placed, result, tree⟩
  · left
    exact ⟨fun ⟨path, e⟩ => other path e, kept⟩
  · right
    obtain ⟨-, right, place⟩ := Run.deliver_eq_placed_iff.mp placed
    rw [result, tree]
    exact ⟨⟨_, rfl⟩, l, replaced_put place right⟩

/-- **A history leaves the tree as it was, or with the file replaced.** -/
theorem standing_history (r : Release) (dir : String) (as : List (Attempt σ)) (t : Tree) :
    Standing r (artefact r dir) t (history r dir as t) := by
  induction as generalizing t with
  | nil => exact Or.inl rfl
  | cons a as ih =>
    rcases standing_perform a r dir t with ⟨-, kept⟩ | ⟨-, l, h⟩
    · rw [history, kept]
      exact ih t
    · exact Standing.trans (Or.inr ⟨l, h⟩) (ih _)

/-- **A history in which a run installs leaves the file replaced.** -/
theorem replaced_of_everInstalls {r : Release} {dir : String} {as : List (Attempt σ)} {t : Tree}
    (h : EverInstalls r dir as t) :
    ∃ l, Replaced r (artefact r dir) l t (history r dir as t) := by
  induction as generalizing t with
  | nil => exact absurd h (by simp [EverInstalls])
  | cons a as ih =>
    rcases standing_perform a r dir t with ⟨other, kept⟩ | ⟨-, l, now⟩
    · rw [EverInstalls, kept] at h
      rw [history, kept]
      exact ih (h.resolve_left other)
    · rcases standing_history r dir as (a.perform r dir t).2.tree with e | ⟨k, later⟩
      · rw [history, e]
        exact ⟨l, now⟩
      · exact ⟨l, now.trans later⟩

/-! ## 5. What can be seen of it -/

/-- A path leads to a file with octets of the release, which its owner may run. -/
structure Verified (r : Release) (p : String) (l : Location) (t : Tree) : Prop where
  leads : t.locate .reach p = .ok l
  file : ∃ m bytes, t.at? l = some (.file m bytes) ∧ Digest.of bytes = r.sha256 ∧
    Install.ownerExecute.Within m

theorem Replaced.verified {r : Release} {p : String} {l : Location} {t t' : Tree}
    (h : Replaced r p l t t') : Verified r p l t' := by
  obtain ⟨m, bytes, e, right, grown⟩ := h.file
  exact ⟨Tree.locate_of_place h.place', m, bytes, e, right,
    (Mode.within_or_right _ _).trans grown⟩

/-- **Verified is for good.**  Let runs be made one after another, `earlier` and then `later`.

At the point between them the tree is the one at the beginning, or the path leads to a verified
file where it led before, and nothing else has changed.  If a run before that point has installed,
the file is verified there and after all later runs.  The file that the path leads to at that point
keeps its place, and its mode loses no bit.  A run that does not install changes nothing at all. -/
theorem verified_absorbing (r : Release) (dir : String) (earlier later : List (Attempt σ))
    (t : Tree) :
    (history r dir earlier t = t ∨
      ∃ l, t.locate .reach (artefact r dir) = .ok l ∧ t.AgreeOff l (history r dir earlier t) ∧
        Verified r (artefact r dir) l (history r dir earlier t)) ∧
    (EverInstalls r dir earlier t →
      ∃ l, Verified r (artefact r dir) l (history r dir earlier t) ∧
        Verified r (artefact r dir) l (history r dir (earlier ++ later) t)) ∧
    (∀ l m bytes, (history r dir earlier t).locate .reach (artefact r dir) = .ok l →
      (history r dir earlier t).at? l = some (.file m bytes) →
        (history r dir (earlier ++ later) t).locate .reach (artefact r dir) = .ok l ∧
        ∃ m' bytes', (history r dir (earlier ++ later) t).at? l = some (.file m' bytes') ∧
          m.Within m') ∧
    (∀ a : Attempt σ, ¬ a.Installs r dir (history r dir earlier t) →
      (a.perform r dir (history r dir earlier t)).2.tree = history r dir earlier t) := by
  refine ⟨?_, ?_, ?_, ?_⟩
  · rcases standing_history r dir earlier t with same | ⟨l, h⟩
    · exact Or.inl same
    · exact Or.inr ⟨l, Tree.locate_of_place h.place, h.off, h.verified⟩
  · intro installs
    obtain ⟨l, now⟩ := replaced_of_everInstalls installs
    obtain ⟨k, after⟩ := replaced_of_everInstalls (everInstalls_append installs later)
    have same : k = l := Except.ok.inj (after.place.symm.trans now.place)
    subst same
    exact ⟨k, now.verified, after.verified⟩
  · intro l m bytes leads e
    rw [history_append]
    rcases standing_history r dir later (history r dir earlier t) with same | ⟨k, h⟩
    · rw [same]
      exact ⟨leads, m, bytes, e, BitVec.or_self⟩
    · have same : k = l := Except.ok.inj ((Tree.locate_of_place h.place).symm.trans leads)
      subst same
      obtain ⟨m', bytes', e', -, grown⟩ := h.file
      rw [Tree.modeAt_of_file e] at grown
      exact ⟨Tree.locate_of_place h.place', m', bytes', e',
        (Mode.within_or_left m _).trans grown⟩
  · intro a other
    rcases standing_perform a r dir (history r dir earlier t) with ⟨-, kept⟩ | ⟨installs, -⟩
    · exact kept
    · exact absurd installs other

end PinnedFetch
