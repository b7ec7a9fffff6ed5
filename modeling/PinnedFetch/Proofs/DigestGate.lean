/-
# The digest gate

The one change that a run makes to the tree comes after every way in which it can end early: no
answer from the artefact, no permission to read it, no download, octets with another digest, no
place to write to.  So a run that does not say it installed something has changed nothing, and one
that says so has written octets with the digest of the release (`digest_gate`).
-/
import PinnedFetch.Proofs.Verdict

namespace PinnedFetch.Run

variable {t : Tree} {c : Config} {h : Collaborators}

/-! ## 1. When a run installs -/

/-- What a download comes to, by the answer to it, the digest of the octets and the place for
them. -/
inductive Delivers (t : Tree) (c : Config) (h : Collaborators) : Delivery → Prop where
  | failed {cause : DownloadFailure} (answer : (h.fetch c.release.url).result = .error cause) :
      Delivers t c h (.failed cause)
  | refused {bytes : Bytes} (answer : (h.fetch c.release.url).result = .ok bytes)
      (wrong : Digest.of bytes ≠ c.release.sha256) : Delivers t c h (.refused (Digest.of bytes))
  | unplaced {bytes : Bytes} {cause : IoError}
      (answer : (h.fetch c.release.url).result = .ok bytes)
      (right : Digest.of bytes = c.release.sha256) (full : t.place c.path = .error cause) :
      Delivers t c h (.unplaced cause)
  | placed {bytes : Bytes} {l : Location} (answer : (h.fetch c.release.url).result = .ok bytes)
      (right : Digest.of bytes = c.release.sha256) (place : t.place c.path = .ok l) :
      Delivers t c h (.placed bytes l)

/-- Every download comes to one of these. -/
theorem delivers_deliver (t : Tree) (c : Config) (h : Collaborators) :
    Delivers t c h (deliver t c h) := by
  unfold deliver
  split
  · rename_i cause answer
    exact .failed answer
  · rename_i bytes answer
    split
    · rename_i right
      split
      · rename_i cause full
        exact .unplaced answer right full
      · rename_i l place
        exact .placed answer right place
    · rename_i wrong
      exact .refused answer wrong

/-- A delivery is placed when all three of download, digest and place are right. -/
theorem deliver_eq_placed_iff {bytes : Bytes} {l : Location} :
    deliver t c h = .placed bytes l ↔
      (h.fetch c.release.url).result = .ok bytes ∧ Digest.of bytes = c.release.sha256 ∧
        t.place c.path = .ok l := by
  constructor
  · intro e
    have ds := delivers_deliver t c h
    rw [e] at ds
    cases ds with
    | placed answer right place => exact ⟨answer, right, place⟩
  · rintro ⟨fetched, right, placed⟩
    simp [deliver, fetched, right, placed]

/-- A delivery that is not placed is reported as something else than an installation. -/
theorem result_ne_installed {d : Delivery} (e : ∀ bytes l, d ≠ .placed bytes l) (path : String) :
    d.result c ≠ .ok (.installed path) := by
  cases d with
  | placed bytes l => exact absurd rfl (e bytes l)
  | _ => simp [Delivery.result]

/-- A delivery that is not placed leaves the tree alone. -/
theorem tree_of_not_placed {d : Delivery} (e : ∀ bytes l, d ≠ .placed bytes l) : d.tree t = t := by
  cases d with
  | placed bytes l => exact absurd rfl (e bytes l)
  | _ => rfl

/-- **A run installs when nothing that may stay is found and the delivery is placed; else it leaves
the tree as it was.** -/
theorem course_installs (t : Tree) (c : Config) (h : Collaborators) :
    ((∀ path, (course t c h).result ≠ .ok (.installed path)) ∧ (course t c h).tree = t) ∨
    ∃ bytes l, (find t c h).verdict = .ok false ∧ deliver t c h = .placed bytes l ∧
      (course t c h).result = .ok (.installed c.path) ∧
      (course t c h).tree = (Delivery.placed bytes l).tree t := by
  cases e : (find t c h).verdict with
  | error f =>
    left
    rw [course_of_error e]
    exact ⟨by simp, rfl⟩
  | ok stays =>
    cases stays with
    | true =>
      left
      rw [course_of_stays e]
      exact ⟨by simp, rfl⟩
    | false =>
      rw [course_of_goes e]
      by_cases placed : ∃ bytes l, deliver t c h = .placed bytes l
      · obtain ⟨bytes, l, d⟩ := placed
        right
        exact ⟨bytes, l, rfl, d, by rw [d]; rfl, by rw [d]⟩
      · left
        simp only [not_exists] at placed
        exact ⟨result_ne_installed placed, tree_of_not_placed placed⟩

/-! ## 2. The gate -/

/-- **The gate.**  A run that ends in anything else than an installation, be it an outcome or a
failure, leaves the tree as it was.  A run that installs has asked for the release once and got
octets with its digest, and has put them where the artefact's path leads, with the owner's right
to execute and with no other change to the tree. -/
theorem digest_gate {σ : Type} (w : Writer σ) (c : Config) (h : Collaborators) (s : Scene σ) :
    ((∀ path, (perform w c h s).1 ≠ .ok (.installed path)) →
      (perform w c h s).2.tree = s.tree) ∧
    ∀ path, (perform w c h s).1 = .ok (.installed path) →
      path = c.path ∧ (perform w c h s).2.urls = s.urls ++ [c.release.url] ∧
      ∃ bytes l, (h.fetch c.release.url).result = .ok bytes ∧
        Digest.of bytes = c.release.sha256 ∧
        Installed l c.path bytes s.tree (perform w c h s).2.tree := by
  rw [urls_perform, perform_eq]
  simp only [Scene.tree_after]
  rcases course_installs s.tree c h with ⟨other, kept⟩ | ⟨bytes, l, goes, placed, result, tree⟩
  · exact ⟨fun _ => kept, fun path e => absurd e (other path)⟩
  · obtain ⟨fetched, right, place⟩ := deliver_eq_placed_iff.mp placed
    rw [result, tree]
    refine ⟨fun other => absurd rfl (other c.path), ?_⟩
    intro path e
    cases e
    exact ⟨rfl, by rw [goes], bytes, l, fetched, right, installed_of_place place bytes⟩

end PinnedFetch.Run
