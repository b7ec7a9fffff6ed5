/-
# The verdict on what a run finds

What a run finds where the artefact is kept decides all the rest: the artefact stays, or the
release is asked for, or the run ends there.  This module says which findings lead to which
verdict, in terms of what the artefact reports and of its octets, and how the verdict can be seen
from outside: in the outcome (`result_eq_satisfied_iff`) and in the URLs (`urls_perform`).
-/
import PinnedFetch.Proofs.Course

namespace PinnedFetch.Run

/-! ## 1. Who may stay -/

section Reported

variable {t : Tree} {c : Config} {h : Collaborators} {found : String}

/-- **An artefact that reports a version may stay** when that is the version of the release and,
where its octets are asked for, they are there and have the digest of the release.  **It has to go**
when it reports another version or, where its octets are asked for, they have another digest.
Octets that cannot be read are no reason to go, but to end the run. -/
theorem verdict_of_reports (there : t.isThere c.path = true)
    (reports : Version.ofResult c.path (h.run (versionCall c.path)) = .ok found) :
    ((find t c h).verdict = .ok true ↔
      found = c.release.version ∧ (c.verifyExisting = true →
        ∃ bytes, t.read c.path = .ok bytes ∧ Digest.of bytes = c.release.sha256)) ∧
    ((find t c h).verdict = .ok false ↔
      found ≠ c.release.version ∨ (c.verifyExisting = true ∧
        ∃ bytes, t.read c.path = .ok bytes ∧ Digest.of bytes ≠ c.release.sha256)) := by
  unfold find
  rw [if_pos there, reports]
  by_cases same : found = c.release.version
  · by_cases asked : c.verifyExisting = true
    · cases read : t.read c.path with
      | error e => simp [same, asked, Finding.verdict]
      | ok bytes =>
        by_cases right : Digest.of bytes = c.release.sha256
        · simp [same, asked, right, Finding.verdict]
        · simp [same, asked, right, Finding.verdict]
    · simp [same, asked, Finding.verdict]
  · simp [same, Finding.verdict]

end Reported

/-! ## 2. The outcome -/

/-- A delivery is never reported as an artefact that may stay. -/
theorem Delivery.result_ne_satisfied (c : Config) (d : Delivery) :
    d.result c ≠ .ok .satisfied := by
  cases d with
  | _ => simp [result]

theorem course_satisfied_iff {t : Tree} {c : Config} {h : Collaborators} :
    (course t c h).result = .ok .satisfied ↔ (find t c h).verdict = .ok true := by
  cases e : (find t c h).verdict with
  | error f =>
    rw [course_of_error e]
    simp
  | ok stays =>
    cases stays with
    | true =>
      rw [course_of_stays e]
      simp
    | false =>
      rw [course_of_goes e]
      simp [Delivery.result_ne_satisfied]

/-- **A run is satisfied when what it finds may stay.** -/
theorem result_eq_satisfied_iff {σ : Type} (w : Writer σ) (c : Config) (h : Collaborators)
    (s : Scene σ) :
    (perform w c h s).1 = .ok .satisfied ↔ (find s.tree c h).verdict = .ok true := by
  rw [perform_eq]
  exact course_satisfied_iff

/-! ## 3. The URLs -/

theorem url?_progressEvents (quiet : Bool) (n : Notice) :
    (progressEvents quiet n).filterMap Event.url? = [] := by
  cases quiet <;> rfl

theorem Finding.url?_events (c : Config) (f : Finding) :
    (f.events c).filterMap Event.url? = [] := by
  cases f with
  | otherOctets found actual =>
    rw [events, List.filterMap_append]
    exact url?_progressEvents _ _
  | _ => rfl

theorem Delivery.url?_events (t : Tree) (c : Config) (d : Delivery) :
    (d.events t c).filterMap Event.url? = [] := by
  cases d with
  | placed bytes l =>
    rw [events, List.filterMap_append]
    exact url?_progressEvents _ _
  | _ => rfl

theorem url?_requested (c : Config) (h : Collaborators) :
    (requested c h).filterMap Event.url? = [c.release.url] := by
  have logged : ((h.fetch c.release.url).records.map Event.logged).filterMap Event.url? = [] := by
    simp [List.filterMap_map, Function.comp_def, Event.url?]
  have asks : Event.url? (.fetched c.release.url) = some c.release.url := rfl
  rw [requested, List.filterMap_append, url?_progressEvents, List.nil_append,
    List.filterMap_cons_some asks, logged]

theorem url?_course (t : Tree) (c : Config) (h : Collaborators) :
    (course t c h).events.filterMap Event.url? =
      match (find t c h).verdict with
      | .ok false => [c.release.url]
      | _ => [] := by
  cases e : (find t c h).verdict with
  | error f =>
    rw [course_of_error e]
    exact Finding.url?_events c _
  | ok stays =>
    cases stays with
    | true =>
      rw [course_of_stays e, List.filterMap_append, Finding.url?_events, url?_progressEvents]
      rfl
    | false =>
      rw [course_of_goes e, List.filterMap_append, List.filterMap_append, Finding.url?_events,
        url?_requested, Delivery.url?_events]
      rfl

/-- **A run asks for one URL, that of the release, or for none.** -/
theorem urls_perform {σ : Type} (w : Writer σ) (c : Config) (h : Collaborators) (s : Scene σ) :
    (perform w c h s).2.urls = s.urls ++
      match (find s.tree c h).verdict with
      | .ok false => [c.release.url]
      | _ => [] := by
  rw [perform_eq, Scene.urls, Scene.after, List.filterMap_append, url?_course]
  rfl

/-! ## 4. The run that a verdict leads to -/

section Led

variable {σ : Type} (w : Writer σ) {c : Config} {h : Collaborators} {s : Scene σ}

/-- A run that lets the artefact stay does nothing else. -/
theorem perform_of_stays (e : (find s.tree c h).verdict = .ok true) :
    (perform w c h s).1 = .ok .satisfied ∧ (perform w c h s).2.urls = s.urls ∧
      (perform w c h s).2.tree = s.tree := by
  refine ⟨(result_eq_satisfied_iff w c h s).mpr e, ?_, ?_⟩
  · rw [urls_perform, e, List.append_nil]
  · rw [perform_eq, course_of_stays e]
    rfl

/-- **A run does not take the artefact as it is, and asks for the release,** when the artefact has
to go. -/
theorem asks_iff :
    (perform w c h s).1 ≠ .ok .satisfied ∧
      (perform w c h s).2.urls = s.urls ++ [c.release.url] ↔
        (find s.tree c h).verdict = .ok false := by
  rw [ne_eq, result_eq_satisfied_iff, urls_perform]
  cases (find s.tree c h).verdict with
  | error f => simp
  | ok stays => cases stays <;> simp

end Led

end PinnedFetch.Run
