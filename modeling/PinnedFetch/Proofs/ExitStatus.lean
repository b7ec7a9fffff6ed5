/-
# The exit status of a run

Three statuses tell three kinds of end apart.  The status is decided in two steps, from the run to
its result (`course_satisfied_iff`, `course_mismatch_iff`, `course_installed_iff`) and from the
result to the number (`conclude_eq_zero_iff` and its neighbours).  `exit_status` joins them: one is
kept for octets with another digest than the release and stands for no failure, two stands for every
failure and for nothing else, and zero is given only for an artefact that was accepted or installed.
-/
import PinnedFetch.Program
import PinnedFetch.Proofs.Acceptance
import PinnedFetch.Proofs.DigestGate

namespace PinnedFetch

/-! ## 1. From the result to the status -/

namespace Program

variable {τ : Type} (v : Writer τ) (e : τ) (r : Except Failure Outcome)

theorem conclude_eq_zero_iff :
    (conclude v e r).1 = 0 ↔ r = .ok .satisfied ∨ ∃ path, r = .ok (.installed path) := by
  cases r with
  | error f => simp [conclude, failureStatus]
  | ok outcome => cases outcome <;> simp [conclude, Outcome.exitStatus]

theorem conclude_eq_one_iff :
    (conclude v e r).1 = 1 ↔ ∃ actual expected, r = .ok (.mismatch actual expected) := by
  cases r with
  | error f => simp [conclude, failureStatus]
  | ok outcome => cases outcome <;> simp [conclude, Outcome.exitStatus]

theorem conclude_eq_two_iff : (conclude v e r).1 = 2 ↔ ∃ f, r = .error f := by
  cases r with
  | error f => simp [conclude, failureStatus]
  | ok outcome => cases outcome <;> simp [conclude, Outcome.exitStatus]

end Program

namespace Run

/-! ## 2. From the run to the result -/

section Result

variable {t : Tree} {c : Config} {h : Collaborators}

/-- A run that does not ask for the release neither refuses octets nor installs any. -/
theorem asks_of_result {outcome : Outcome} (e : (course t c h).result = .ok outcome)
    (other : outcome ≠ .satisfied) :
    (find t c h).verdict = .ok false ∧ (deliver t c h).result c = .ok outcome := by
  cases verdict : (find t c h).verdict with
  | error f =>
    rw [course_of_error verdict] at e
    exact absurd e (by simp)
  | ok stays =>
    cases stays with
    | true =>
      rw [course_of_stays verdict] at e
      exact absurd (Except.ok.inj e).symm other
    | false =>
      rw [course_of_goes verdict] at e
      exact ⟨rfl, e⟩

/-- **A checksum does not match when the octets given have another digest.** -/
theorem course_mismatch_iff {actual expected : Digest} :
    (course t c h).result = .ok (.mismatch actual expected) ↔
      (find t c h).verdict = .ok false ∧ expected = c.release.sha256 ∧
        ∃ bytes, (h.fetch c.release.url).result = .ok bytes ∧ Digest.of bytes = actual ∧
          actual ≠ c.release.sha256 := by
  constructor
  · intro e
    obtain ⟨goes, result⟩ := asks_of_result e (by simp)
    refine ⟨goes, ?_⟩
    have ds := delivers_deliver t c h
    generalize deliver t c h = d at ds result
    cases ds with
    | refused answer wrong =>
      cases result
      exact ⟨rfl, _, answer, rfl, wrong⟩
    | _ => exact absurd result (by simp [Delivery.result])
  · rintro ⟨goes, rfl, bytes, answer, rfl, wrong⟩
    rw [course_of_goes goes]
    simp [deliver, answer, wrong, Delivery.result]

/-- **A run installs when the octets given have the right digest and there is a place for them.** -/
theorem course_installed_iff {path : String} :
    (course t c h).result = .ok (.installed path) ↔
      (find t c h).verdict = .ok false ∧ path = c.path ∧
        ∃ bytes l, (h.fetch c.release.url).result = .ok bytes ∧
          Digest.of bytes = c.release.sha256 ∧ t.place c.path = .ok l := by
  constructor
  · intro e
    obtain ⟨goes, result⟩ := asks_of_result e (by simp)
    refine ⟨goes, ?_⟩
    have ds := delivers_deliver t c h
    generalize deliver t c h = d at ds result
    cases ds with
    | placed answer right place =>
      cases result
      exact ⟨rfl, _, _, answer, right, place⟩
    | _ => exact absurd result (by simp [Delivery.result])
  · rintro ⟨goes, rfl, bytes, l, answer, right, place⟩
    rw [course_of_goes goes, deliver_eq_placed_iff.mpr ⟨answer, right, place⟩]
    rfl

end Result

/-! ## 3. What a run was given, and what it wrote -/

/-- A run asked for a URL and was given octets. -/
def Given {σ : Type} (run : Except Failure Outcome × Scene σ) (h : Collaborators)
    (bytes : Bytes) : Prop :=
  ∃ url ∈ run.2.urls, (h.fetch url).result = .ok bytes

/-- A run in a tree wrote octets to the artefact's path: there was a place for them, and there they
stand, in a file that its owner may execute; nothing else has changed. -/
def Wrote {σ : Type} (run : Except Failure Outcome × Scene σ) (t : Tree) (c : Config)
    (bytes : Bytes) : Prop :=
  ∃ l, t.place c.path = .ok l ∧ Installed l c.path bytes t run.2.tree

section Ends

variable {σ : Type} (w : Writer σ) (o : σ) (t : Tree) (c : Config) (h : Collaborators)

/-- A run is given octets when the artefact has to go and the release's URL gives them. -/
theorem given_iff (bytes : Bytes) :
    Given (perform w c h { tree := t, out := o }) h bytes ↔
      (find t c h).verdict = .ok false ∧ (h.fetch c.release.url).result = .ok bytes := by
  unfold Given
  rw [urls_perform]
  cases (find t c h).verdict with
  | error f => simp [Scene.urls]
  | ok stays => cases stays <;> simp [Scene.urls]

/-- Octets of the release that a run was given are written when there is a place for them. -/
theorem wrote_iff {bytes : Bytes} (goes : (find t c h).verdict = .ok false)
    (answer : (h.fetch c.release.url).result = .ok bytes)
    (right : Digest.of bytes = c.release.sha256) :
    Wrote (perform w c h { tree := t, out := o }) t c bytes ↔ ∃ l, t.place c.path = .ok l := by
  constructor
  · rintro ⟨l, place, -⟩
    exact ⟨l, place⟩
  · rintro ⟨l, place⟩
    refine ⟨l, place, ?_⟩
    rw [perform_eq, Scene.tree_after, course_of_goes goes,
      deliver_eq_placed_iff.mpr ⟨answer, right, place⟩]
    exact installed_of_place place bytes

/-! ## 4. The contract -/

/-- **The exit status.**  A run is made in a tree, and concluded with a second stream that takes
everything.

* The status is one exactly when octets were given that have another digest than the release.
* It is two exactly when the run failed.  The second stream then holds the failure's message behind
  `error: `, and a line end.
* It is zero exactly when the artefact was accepted, or octets of the release were given and
  written.
* The second stream is empty when the status is zero or one.
* With any other second stream, also one that fails, the status is the same. -/
theorem exit_status {τ : Type} (v : Writer τ) (e : τ) :
    let run := perform w c h { tree := t, out := o }
    let told := Program.conclude .unbounded [] run.1
    (told.1 = 1 ↔ ∃ bytes, Given run h bytes ∧ Digest.of bytes ≠ c.release.sha256) ∧
    (told.1 = 2 ↔ ∃ f, run.1 = .error f) ∧
    (∀ f, run.1 = .error f → told.2 = Bytes.ofText ("error: " ++ f.message) ++ [0x0A]) ∧
    (told.1 = 0 ↔ Accepted t c h ∨
      ∃ bytes, Given run h bytes ∧ Digest.of bytes = c.release.sha256 ∧ Wrote run t c bytes) ∧
    (told.1 = 0 ∨ told.1 = 1 → told.2 = []) ∧
    (Program.conclude v e run.1).1 = told.1 := by
  intro run told
  have result : run.1 = (course t c h).result := by
    show (perform w c h { tree := t, out := o }).1 = _
    rw [perform_eq]
  refine ⟨?_, Program.conclude_eq_two_iff _ _ _, ?_, ?_, ?_, Program.conclude_status _ _ _ _ _⟩
  · rw [Program.conclude_eq_one_iff, result]
    simp only [course_mismatch_iff, run, given_iff]
    constructor
    · rintro ⟨_, _, goes, rfl, bytes, answer, rfl, wrong⟩
      exact ⟨bytes, ⟨goes, answer⟩, wrong⟩
    · rintro ⟨bytes, ⟨goes, answer⟩, wrong⟩
      exact ⟨_, _, goes, rfl, bytes, answer, rfl, wrong⟩
  · intro f failed
    simp only [told, failed, Program.conclude, Program.failureLine, Writer.line_unbounded,
      List.nil_append]
  · rw [Program.conclude_eq_zero_iff, result, course_satisfied_iff, verdict_eq_true_iff]
    simp only [course_installed_iff, run, given_iff]
    refine or_congr_right ⟨?_, ?_⟩
    · rintro ⟨_, goes, -, bytes, l, answer, right, place⟩
      exact ⟨bytes, ⟨goes, answer⟩, right, (wrote_iff w o t c h goes answer right).mpr ⟨l, place⟩⟩
    · rintro ⟨bytes, ⟨goes, answer⟩, right, wrote⟩
      obtain ⟨l, place⟩ := (wrote_iff w o t c h goes answer right).mp wrote
      exact ⟨_, goes, rfl, bytes, l, answer, right, place⟩
  · intro ended
    cases r : run.1 with
    | ok outcome => simp only [told, r, Program.conclude]
    | error f => exact absurd ended (by simp [told, r, Program.conclude, Program.failureStatus])

end Ends

end Run

end PinnedFetch
