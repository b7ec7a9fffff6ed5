/-
# A second run

After a run has installed the artefact, a second run for the same release and directory meets the
file that the first one wrote.  It is there, it has the digest of the release, and it says whatever
it says of its version: so the version alone decides whether the second run has anything to do.

An artefact that prints the line of its version is believed exactly when the version is plain
(`second_run`).  A version with a space in it, or with a blank at an end, is cut short on its way
through the line; every further run asks for the release again.
-/
import PinnedFetch.Proofs.History
import PinnedFetch.Proofs.VersionToken

namespace PinnedFetch

/-! ## 1. The file that a run left -/

section Left

variable {r : Release} {p : String} {l : Location} {t t' : Tree}

theorem Replaced.entry (h : Replaced r p l t t') :
    ∃ m bytes, t'.entry p = .ok (.file m bytes) ∧ Digest.of bytes = r.sha256 := by
  obtain ⟨m, bytes, e, right, -⟩ := h.file
  exact ⟨m, bytes, Tree.entry_of_place h.place' e, right⟩

theorem Replaced.isThere (h : Replaced r p l t t') : t'.isThere p = true := by
  obtain ⟨m, bytes, e, -⟩ := h.entry
  exact Tree.isThere_of_entry e

theorem Replaced.read (h : Replaced r p l t t') :
    ∃ bytes, t'.read p = .ok bytes ∧ Digest.of bytes = r.sha256 := by
  obtain ⟨m, bytes, e, right⟩ := h.entry
  exact ⟨bytes, Tree.read_of_entry e, right⟩

end Left

variable {σ τ : Type}

/-- What an artefact that was installed reports decides whether it may stay, whatever the settings:
its octets have the right digest. -/
theorem Replaced.verdict {r : Release} {dir : String} {l : Location} {t t' : Tree}
    {a : Attempt σ} {found : String} (left : Replaced r (artefact r dir) l t t')
    (reports : Version.ofResult (artefact r dir)
      (a.collaborators.run (Run.versionCall (artefact r dir))) = .ok found) :
    (found = r.version → (Run.find t' (a.config r dir) a.collaborators).verdict = .ok true) ∧
      (found ≠ r.version → (Run.find t' (a.config r dir) a.collaborators).verdict = .ok false) := by
  have there : t'.isThere (a.config r dir).path = true := left.isThere
  obtain ⟨bytes, read, right⟩ := left.read
  obtain ⟨stays, goes⟩ := Run.verdict_of_reports there reports
  constructor
  · intro same
    exact stays.mpr ⟨same, fun _ => ⟨bytes, read, right⟩⟩
  · intro other
    exact goes.mpr (Or.inl other)

/-! ## 2. The second run -/

/-- An artefact that prints the line of its version reports it if it is plain, else another. -/
theorem Version.ofResult_ofVersion (path v : String) :
    ∃ found, ofResult path (.ok (.ofVersion v)) = .ok found ∧ (found = v ↔ Plain v) := by
  refine ⟨String.ofList (Text.trim (Text.firstField ' ' v.toList)), ?_, ?_⟩
  · rw [ofResult, ofOutput_ofVersion]
  · rw [← ofOutput_ofVersion_eq_ok_iff, ofOutput_ofVersion, Except.ok.injEq]

/-- **The second run.**  A run installs the artefact.  The artefact is then asked by a second run,
with settings, downloader and writer of its own, and answers with the line of its version.

The second run is satisfied, asks for no URL and leaves the tree alone if and only if the version
is plain.  If it is not, the release is asked for once more. -/
theorem second_run (r : Release) (dir : String) (t : Tree) (first : Attempt σ)
    (second : Attempt τ) (installs : first.Installs r dir t)
    (answers : second.collaborators.run (Run.versionCall (artefact r dir)) =
      .ok (.ofVersion r.version)) :
    let left := (first.perform r dir t).2.tree
    let again := second.perform r dir left
    (again.1 = .ok .satisfied ∧ again.2.urls = [] ∧ again.2.tree = left ↔
      Version.Plain r.version) ∧
    (¬ Version.Plain r.version → again.2.urls = [r.url]) := by
  intro left again
  obtain ⟨l, h⟩ : ∃ l, Replaced r (artefact r dir) l t left := by
    rcases standing_perform first r dir t with ⟨other, -⟩ | ⟨-, replaced⟩
    · exact absurd installs other
    · exact replaced
  obtain ⟨found, reports, plain⟩ := Version.ofResult_ofVersion (artefact r dir) r.version
  rw [← answers] at reports
  obtain ⟨keeps, drops⟩ := h.verdict reports
  by_cases same : found = r.version
  · have stays := Run.perform_of_stays (s := { tree := left, out := second.out }) second.writer
      (keeps same)
    exact ⟨iff_of_true stays (plain.mp same), fun other => absurd (plain.mp same) other⟩
  · obtain ⟨unsatisfied, asks⟩ := (Run.asks_iff
      (s := { tree := left, out := second.out }) second.writer).mpr (drops same)
    exact ⟨iff_of_false (fun all => unsatisfied all.1) (fun is => same (plain.mpr is)),
      fun _ => asks⟩

/-- A release whose script is one octet. -/
def oneOctet : Release where
  tag := "waf-1.8.6"
  url := "http://waf.io/pub/release/waf-1.8.6"
  sha256 := Digest.of [1]
  fileName := "waf"

/-- A run that is given this octet; the artefact prints the line of its version. -/
def oneOctetRun : Attempt Bytes where
  quiet := false
  verifyExisting := true
  collaborators :=
    { run := fun _ => .ok (.ofVersion oneOctet.version), fetch := fun _ => { result := .ok [1] } }
  writer := .unbounded
  out := []

/-- The run installs the octet where the link points. -/
theorem oneOctetRun_installs : oneOctetRun.Installs oneOctet "." dangling := by
  have absent : ¬ dangling.isThere (oneOctetRun.config oneOctet ".").path = true := by
    decide
  have place : dangling.place (oneOctetRun.config oneOctet ".").path = .ok ["bin", "waf-1.8.6"] :=
    rfl
  have missing : Run.find dangling (oneOctetRun.config oneOctet ".")
      oneOctetRun.collaborators = .missing := if_neg absent
  refine Attempt.installs_of_placed ?_ (Run.deliver_eq_placed_iff.mpr ⟨rfl, rfl, place⟩)
  rw [missing]
  rfl

/-- Made twice, it downloads once. -/
theorem second_run_oneOctet :
    let left := (oneOctetRun.perform oneOctet "." dangling).2.tree
    oneOctetRun.Installs oneOctet "." dangling ∧
      oneOctetRun.collaborators.run (Run.versionCall (artefact oneOctet ".")) =
        .ok (.ofVersion oneOctet.version) ∧
      (oneOctetRun.perform oneOctet "." left).1 = .ok .satisfied ∧
      (oneOctetRun.perform oneOctet "." left).2.urls = [] ∧
      (oneOctetRun.perform oneOctet "." left).2.tree = left := by
  have plain : Version.Plain oneOctet.version := by decide
  exact ⟨oneOctetRun_installs, rfl,
    (second_run oneOctet "." dangling oneOctetRun oneOctetRun oneOctetRun_installs rfl).1.mpr
      plain⟩

end PinnedFetch
