/-
# Octets that nobody looks at

A run that trusts an artefact never reads it.  It walks to it, asks it for its version and, where it
has to go, writes over it; for none of this do the octets of the file matter.  So two trees that
differ in the octets of that file alone (`Swapped`) lead to the same run, as far as it can be seen
(`course_swapped`).

A walk meets an entry and asks what kind it is, and where it points if it is a link.  That is why the
two trees agree on every path, not only on the artefact's (`Swapped.locate_eq`), and so on what is
there, on the place for a file and on its mode.

A run that hashes the artefact reads it, but what it reads it forgets for the digest.  The two runs
are still the same if the artefact reports another version, so that it is not read, or if the two
files have one digest.
-/
import PinnedFetch.Proofs.Acceptance
import PinnedFetch.Proofs.DigestGate
import PinnedFetch.Proofs.FailingWriter

namespace PinnedFetch

/-! ## 1. Trees that differ in the octets of one file -/

namespace Tree

open PinnedFetch.Path (Move)

/-- `t'` is `t` with `new` in place of `old` as the octets of the file at a location. -/
structure Swapped (l : Location) (m : Mode) (old new : Bytes) (t t' : Tree) : Prop where
  off : AgreeOff l t t'
  before : t.at? l = some (.file m old)
  after : t'.at? l = some (.file m new)

/-- Two trees that look the same, and are seen from the same directory. -/
structure Alike (t t' : Tree) : Prop where
  here_eq : t'.here = t.here
  at?_eq : ∀ k, t'.at? k = t.at? k

namespace Swapped

variable {l : Location} {m : Mode} {old new : Bytes} {t t' : Tree}

/-- The moves of one directory after another.  The induction is on the moves. -/
theorem walkWith_eq (h : Swapped l m old new t t') (purpose : Purpose)
    {follow follow' : Location → List Move → Except IoError Location}
    (hf : ∀ k ms, follow' k ms = follow k ms) :
    ∀ (ms : List Move) (k : Location),
      walkWith t' purpose follow' k ms = walkWith t purpose follow k ms
  | [], k => rfl
  | .stay :: rest, k => by
    rw [walkWith, walkWith]
    exact walkWith_eq h purpose hf rest k
  | .slash :: rest, k => by
    rw [walkWith, walkWith]
    exact walkWith_eq h purpose hf rest k
  | .up :: rest, k => by
    rw [walkWith, walkWith]
    exact walkWith_eq h purpose hf rest k.dropLast
  | .down name :: rest, k => by
    rw [walkWith, walkWith]
    by_cases arrived : k ++ [name] = l
    · rw [arrived, h.before, h.after]
    · rw [h.off.at?_eq _ arrived]
      cases t.at? (k ++ [name]) with
      | none => rfl
      | some entry =>
        cases entry with
        | file m bytes => rfl
        | dir => simp only [walkWith_eq h purpose hf rest (k ++ [name])]
        | link target => simp only [hf]

/-- The same with the links followed.  The induction is on how many may be. -/
theorem walk_eq (h : Swapped l m old new t t') (purpose : Purpose) :
    ∀ (links : Nat) (k : Location) (ms : List Move),
      walk t' purpose links k ms = walk t purpose links k ms
  | 0, k, ms => by
    rw [walk, walk]
    exact h.walkWith_eq purpose (fun _ _ => rfl) ms k
  | links + 1, k, ms => by
    rw [walk, walk]
    exact h.walkWith_eq purpose (walk_eq h purpose links) ms k

/-- **Every path leads to the same location in both trees.** -/
theorem locate_eq (h : Swapped l m old new t t') (purpose : Purpose) (p : String) :
    t'.locate purpose p = t.locate purpose p := by
  unfold locate
  rw [h.off.here_eq]
  simp only [h.walk_eq purpose]

theorem isThere_eq (h : Swapped l m old new t t') (p : String) : t'.isThere p = t.isThere p := by
  unfold isThere entry
  rw [h.locate_eq]
  cases t.locate .reach p with
  | error e => rfl
  | ok k =>
    simp only [bind, Except.bind]
    by_cases arrived : k = l
    · rw [arrived, h.before, h.after]
      rfl
    · rw [h.off.at?_eq k arrived]

theorem place_eq (h : Swapped l m old new t t') (p : String) : t'.place p = t.place p := by
  unfold place
  rw [h.locate_eq]
  cases t.locate .write p with
  | error e => rfl
  | ok k =>
    simp only [bind, Except.bind]
    by_cases arrived : k = l
    · rw [arrived, h.before, h.after]
    · rw [h.off.at?_eq k arrived]

theorem modeAt_eq (h : Swapped l m old new t t') (k : Location) : t'.modeAt k = t.modeAt k := by
  unfold modeAt
  by_cases arrived : k = l
  · rw [arrived, h.before, h.after]
  · rw [h.off.at?_eq k arrived]

/-- Once the file is overwritten, nothing tells the trees apart. -/
theorem alike_put (h : Swapped l m old new t t') (e : Entry) : (t.put l e).Alike (t'.put l e) where
  here_eq := h.off.here_eq
  at?_eq k := by
    have inner : l ≠ [] := Room.ne_nil (Or.inr ⟨m, old, h.before⟩)
    by_cases arrived : k = l
    · rw [arrived, at?_put_self t inner, at?_put_self t' inner]
    · rw [at?_put_of_ne t arrived, at?_put_of_ne t' arrived, h.off.at?_eq k arrived]

/-- A path to the file reads the octets that are there. -/
theorem read_eq (h : Swapped l m old new t t') {p : String} (leads : t.locate .reach p = .ok l) :
    t.read p = .ok old ∧ t'.read p = .ok new := by
  have leads' : t'.locate .reach p = .ok l := (h.locate_eq .reach p).trans leads
  exact ⟨read_of_entry (entry_of_locate leads h.before),
    read_of_entry (entry_of_locate leads' h.after)⟩

end Swapped

end Tree

/-! ## 2. The two courses -/

namespace Run

section Swap

variable {l : Location} {m : Mode} {old new : Bytes} {t t' : Tree} {c : Config}
  {h : Collaborators}

/-- **What is found is the same** when the artefact is not read, or has one digest in both trees. -/
theorem find_swapped (swapped : t.Swapped l m old new t')
    (leads : t.locate .reach c.path = .ok l)
    (same : c.verifyExisting = true →
      Version.ofResult c.path (h.run (versionCall c.path)) = .ok c.release.version →
        Digest.of new = Digest.of old) :
    find t' c h = find t c h := by
  obtain ⟨read, read'⟩ := swapped.read_eq leads
  unfold find
  rw [swapped.isThere_eq, read, read']
  split
  · cases answer : Version.ofResult c.path (h.run (versionCall c.path)) with
    | error f => rfl
    | ok found =>
      simp only
      by_cases version : found = c.release.version
      · cases asked : c.verifyExisting with
        | false => simp only [Bool.false_eq_true, if_false]
        | true =>
          have digest := same asked (by rw [answer, version])
          simp only [digest]
      · rw [if_pos version, if_pos version]
  · rfl

/-- Where the delivery goes does not depend on what it replaces. -/
theorem deliver_swapped (swapped : t.Swapped l m old new t') :
    deliver t' c h = deliver t c h := by
  unfold deliver
  rw [swapped.place_eq]

theorem Delivery.events_swapped (swapped : t.Swapped l m old new t') (d : Delivery) :
    d.events t' c = d.events t c := by
  cases d with
  | placed bytes k => rw [events, events, swapped.modeAt_eq]
  | _ => rfl

/-- **The courses end in the same way and by the same events.** -/
theorem course_swapped (swapped : t.Swapped l m old new t') (found : find t' c h = find t c h) :
    (course t' c h).result = (course t c h).result ∧
      (course t' c h).events = (course t c h).events := by
  cases e : (find t c h).verdict with
  | error f =>
    have e' : (find t' c h).verdict = .error f := by rw [found, e]
    rw [course_of_error e, course_of_error e', found]
    exact ⟨rfl, rfl⟩
  | ok stays =>
    cases stays with
    | true =>
      have e' : (find t' c h).verdict = .ok true := by rw [found, e]
      rw [course_of_stays e, course_of_stays e', found]
      exact ⟨rfl, rfl⟩
    | false =>
      have e' : (find t' c h).verdict = .ok false := by rw [found, e]
      rw [course_of_goes e, course_of_goes e', found, deliver_swapped swapped,
        Delivery.events_swapped swapped]
      exact ⟨rfl, rfl⟩

/-- **An installation makes the trees alike; any other end leaves them as they are.** -/
theorem course_tree_swapped (swapped : t.Swapped l m old new t')
    (leads : t.locate .reach c.path = .ok l) (found : find t' c h = find t c h) :
    ((∃ path, (course t c h).result = .ok (.installed path)) →
      (course t c h).tree.Alike (course t' c h).tree) ∧
    ((¬ ∃ path, (course t c h).result = .ok (.installed path)) →
      (course t c h).tree.Swapped l m old new (course t' c h).tree) := by
  obtain ⟨result, -⟩ := course_swapped swapped found
  rcases course_installs t c h with ⟨other, kept⟩ | ⟨bytes, k, goes, placed, ends, tree⟩
  · rcases course_installs t' c h with ⟨-, kept'⟩ | ⟨_, _, -, -, ends', -⟩
    · rw [kept, kept']
      exact ⟨fun ⟨path, e⟩ => absurd e (other path), fun _ => swapped⟩
    · exact absurd (result.symm.trans ends') (other c.path)
  · obtain ⟨-, -, place⟩ := deliver_eq_placed_iff.mp placed
    have arrived : k = l := Except.ok.inj ((Tree.locate_of_place place).symm.trans leads)
    subst arrived
    have goes' : (find t' c h).verdict = .ok false := by rw [found, goes]
    have tree' : (course t' c h).tree = (Delivery.placed bytes k).tree t' := by
      rw [course_of_goes goes', deliver_swapped swapped, placed]
    refine ⟨fun _ => ?_, fun none => absurd ⟨c.path, ends⟩ none⟩
    rw [tree, tree', Delivery.tree, Delivery.tree, swapped.modeAt_eq]
    exact swapped.alike_put _

/-! ## 3. The two runs -/

/-- **The octets of the artefact are not looked at.**  The same run is made in two trees that differ
in the octets of the file at the artefact's path and in nothing else.  Let the run trust an artefact
of the right version; or let the artefact not report that version; or let both files have the digest
of the release, or both another one and the same.

Then the results are the same, and what was written, and all that happened.  The trees are alike if
the run installs; if it does not, they differ still in the octets of that file and in nothing
else. -/
theorem octets_unseen {σ : Type} (w : Writer σ) (o : σ) (swapped : t.Swapped l m old new t')
    (leads : t.locate .reach c.path = .ok l)
    (unseen : c.verifyExisting = false ∨
      Version.ofResult c.path (h.run (versionCall c.path)) ≠ .ok c.release.version ∨
      (Digest.of old = c.release.sha256 ∧ Digest.of new = c.release.sha256) ∨
      (Digest.of old ≠ c.release.sha256 ∧ Digest.of new ≠ c.release.sha256 ∧
        Digest.of old = Digest.of new)) :
    let run := perform w c h { tree := t, out := o }
    let other := perform w c h { tree := t', out := o }
    run.1 = other.1 ∧ run.2.out = other.2.out ∧ run.2.events = other.2.events ∧
      run.2.records = other.2.records ∧ run.2.calls = other.2.calls ∧
      run.2.urls = other.2.urls ∧
      ((∃ path, run.1 = .ok (.installed path)) → run.2.tree.Alike other.2.tree) ∧
      ((¬ ∃ path, run.1 = .ok (.installed path)) →
        run.2.tree.Swapped l m old new other.2.tree) := by
  intro run other
  have found : find t' c h = find t c h := by
    refine find_swapped swapped leads fun asked answer => ?_
    rcases unseen with trusts | silent | ⟨right, right'⟩ | ⟨-, -, one⟩
    · exact absurd asked (by simp [trusts])
    · exact absurd answer silent
    · exact right'.trans right.symm
    · exact one.symm
  obtain ⟨result, happened⟩ := course_swapped swapped found
  have events : run.2.events = other.2.events := by
    rw [perform_events, perform_events, happened]
  refine ⟨?_, ?_, events, ?_, ?_, ?_, ?_⟩
  · rw [perform_result, perform_result, result]
  · rw [perform_out, perform_out, happened]
  · rw [Scene.records, events, Scene.records]
  · rw [Scene.calls, events, Scene.calls]
  · rw [Scene.urls, events, Scene.urls]
  · rw [perform_result, perform_tree, perform_tree]
    exact course_tree_swapped swapped leads found

end Swap

/-- Two octets that pass themselves off as the pinned script are one to a run that trusts. -/
theorem octets_unseen_oneOctet :
    let other := oneOctetThere.put ["waf"] (.file 0o755 [2])
    oneOctetThere.Swapped ["waf"] 0o755 [1] [2] other ∧
      oneOctetThere.locate .reach (Config.path {}) = .ok ["waf"] ∧
      (perform .unbounded {} saysPinned { tree := oneOctetThere, out := [] }).1 =
        (perform .unbounded {} saysPinned { tree := other, out := [] }).1 := by
  intro other
  have swapped : oneOctetThere.Swapped ["waf"] 0o755 [1] [2] other :=
    ⟨Tree.agreeOff_put _ _ _, rfl, Tree.at?_put_self _ (by simp) _⟩
  have leads : oneOctetThere.locate .reach (Config.path {}) = .ok ["waf"] := rfl
  exact ⟨swapped, leads,
    (octets_unseen (c := {}) (h := saysPinned) .unbounded [] swapped leads (Or.inl rfl)).1⟩

end Run

end PinnedFetch
