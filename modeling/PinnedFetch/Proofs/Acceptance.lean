/-
# What the artefact has to show for itself

Four questions decide what a run does with an artefact: whether it is there, which version it
reports, whether its octets can be read, and what they hash to.  `Finds` says each finding by the
answers to them.  What a run finds is one of these (`finds_find`), and the answers leave no other
(`Finds.find_eq`).  From there:

* the artefact may stay exactly when it is accepted (`verdict_eq_true_iff`): it reports the version
  of the release and, where the settings ask for its octets, these have the right digest;
* a run fails before it asks for the release exactly when the artefact did not answer, or its octets
  were asked for and could not be read (`verdict_eq_error_iff`).
-/
import PinnedFetch.Proofs.Verdict
import PinnedFetch.Proofs.VersionToken

namespace PinnedFetch.Run

/-! ## 1. The answers -/

section Answers

variable (t : Tree) (c : Config) (h : Collaborators)

/-- There is an artefact, and it reports a version. -/
structure Reports (found : String) : Prop where
  there : t.isThere c.path = true
  answer : Version.ofResult c.path (h.run (versionCall c.path)) = .ok found

/-- There is an artefact, and asking it for its version fails. -/
structure Unanswered (cause : Failure) : Prop where
  there : t.isThere c.path = true
  answer : Version.ofResult c.path (h.run (versionCall c.path)) = .error cause

/-- The artefact reports the version of the release; its octets are asked for, and reading them
fails. -/
structure Unread (cause : IoError) : Prop where
  reports : Reports t c h c.release.version
  asked : c.verifyExisting = true
  read : t.read c.path = .error cause

/-- The octets of the artefact can be read and have the digest of the release. -/
def Genuine : Prop := ∃ bytes, t.read c.path = .ok bytes ∧ Digest.of bytes = c.release.sha256

/-- The artefact is all that the settings ask of it. -/
structure Accepted : Prop where
  reports : Reports t c h c.release.version
  genuine : c.verifyExisting = true → Genuine t c

/-! ## 2. The findings -/

/-- A finding, by the answers that lead to it. -/
inductive Finds : Finding → Prop where
  | missing (gone : t.isThere c.path = false) : Finds .missing
  | unanswered {cause : Failure} (silent : Unanswered t c h cause) : Finds (.unanswered cause)
  | otherVersion {found : String} (reports : Reports t c h found)
      (other : found ≠ c.release.version) : Finds (.otherVersion found)
  | trusted (reports : Reports t c h c.release.version) (unasked : c.verifyExisting = false) :
      Finds .trusted
  | unreadable {cause : IoError} (unread : Unread t c h cause) : Finds (.unreadable cause)
  | otherOctets {bytes : Bytes} (reports : Reports t c h c.release.version)
      (asked : c.verifyExisting = true) (read : t.read c.path = .ok bytes)
      (wrong : Digest.of bytes ≠ c.release.sha256) :
      Finds (.otherOctets c.release.version (Digest.of bytes))
  | intact (reports : Reports t c h c.release.version) (asked : c.verifyExisting = true)
      (genuine : Genuine t c) : Finds .intact

end Answers

variable {t : Tree} {c : Config} {h : Collaborators} {f : Finding}

/-- Every run finds one of these. -/
theorem finds_find (t : Tree) (c : Config) (h : Collaborators) : Finds t c h (find t c h) := by
  unfold find
  split
  · rename_i there
    split
    · rename_i cause answer
      exact .unanswered ⟨there, answer⟩
    · rename_i found answer
      split
      · rename_i other
        exact .otherVersion ⟨there, answer⟩ other
      · rename_i same
        obtain rfl : found = c.release.version := Decidable.not_not.mp same
        split
        · rename_i asked
          split
          · rename_i cause read
            exact .unreadable ⟨⟨there, answer⟩, asked, read⟩
          · rename_i bytes read
            split
            · rename_i right
              exact .intact ⟨there, answer⟩ asked ⟨bytes, read, right⟩
            · rename_i wrong
              exact .otherOctets ⟨there, answer⟩ asked read wrong
        · rename_i unasked
          exact .trusted ⟨there, answer⟩ (Bool.eq_false_iff.mpr unasked)
  · rename_i gone
    exact .missing (Bool.eq_false_iff.mpr gone)

/-- The answers leave one finding only. -/
theorem Finds.find_eq (fs : Finds t c h f) : find t c h = f := by
  unfold find
  cases fs with
  | missing gone => simp [gone]
  | unanswered silent => simp [silent.there, silent.answer]
  | otherVersion reports other => simp [reports.there, reports.answer, other]
  | trusted reports unasked => simp [reports.there, reports.answer, unasked]
  | unreadable unread =>
    simp [unread.reports.there, unread.reports.answer, unread.asked, unread.read]
  | otherOctets reports asked read wrong =>
    simp [reports.there, reports.answer, asked, read, wrong]
  | intact reports asked genuine =>
    obtain ⟨bytes, read, right⟩ := genuine
    simp [reports.there, reports.answer, asked, read, right]

/-! ## 3. The verdicts -/

/-- **The artefact may stay when it is accepted, and only then.** -/
theorem verdict_eq_true_iff : (find t c h).verdict = .ok true ↔ Accepted t c h := by
  constructor
  · intro stays
    have fs := finds_find t c h
    generalize find t c h = f at fs stays
    cases fs with
    | trusted reports unasked => exact ⟨reports, fun asked => by simp [unasked] at asked⟩
    | intact reports asked genuine => exact ⟨reports, fun _ => genuine⟩
    | _ => exact absurd stays (by simp [Finding.verdict])
  · rintro ⟨reports, genuine⟩
    cases asked : c.verifyExisting with
    | false => rw [(Finds.trusted reports asked).find_eq, Finding.verdict]
    | true => rw [(Finds.intact reports asked (genuine asked)).find_eq, Finding.verdict]

/-- **A run fails over the artefact when it does not answer or cannot be read, and only then.** -/
theorem verdict_eq_error_iff {cause : Failure} :
    (find t c h).verdict = .error cause ↔
      Unanswered t c h cause ∨ ∃ e, Unread t c h e ∧ cause = .io e := by
  constructor
  · intro fails
    have fs := finds_find t c h
    generalize find t c h = f at fs fails
    cases fs with
    | unanswered silent =>
      cases fails
      exact Or.inl silent
    | unreadable unread =>
      cases fails
      exact Or.inr ⟨_, unread, rfl⟩
    | _ => exact absurd fails (by simp [Finding.verdict])
  · rintro (silent | ⟨e, unread, rfl⟩)
    · rw [(Finds.unanswered silent).find_eq, Finding.verdict]
    · rw [(Finds.unreadable unread).find_eq, Finding.verdict]

/-! ## 4. An artefact that says it is the pinned script -/

/-- A tree in which one octet stands where the pinned script is kept. -/
def oneOctetThere : Tree := (Tree.emptyAt []).put ["waf"] (.file 0o755 [1])

/-- An artefact that prints the version of the pinned script, and a server that does not have it. -/
def saysPinned : Collaborators where
  run _ := .ok (.ofVersion Release.pinned.version)
  fetch url := { result := .error (.notFound url) }

theorem entry_oneOctetThere : oneOctetThere.entry (Config.path {}) = .ok (.file 0o755 [1]) := rfl

theorem reports_oneOctetThere : Reports oneOctetThere {} saysPinned Release.pinned.version where
  there := Tree.isThere_of_entry entry_oneOctetThere
  answer := Version.ofResult_of_plain (by decide) _

end PinnedFetch.Run
