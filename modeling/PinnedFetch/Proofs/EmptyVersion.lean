/-
# An empty version

Two spaces in a row make the second field of an output empty.  An artefact that prints them has not
said its version, and is meant to go.  But the comparison that sends it away is one of texts, and
the version of a release can be empty too: when its tag is, when the tag ends in its first dash, or
when a second dash follows the first one at once (`Release.version_eq_empty_iff`).

For these tags the empty field is taken for the right version, and only the digest can still send
the artefact away.  `empty_field_iff` says exactly when it goes and when it stays;
`empty_field_stays` is a run in which it stays.
-/
import PinnedFetch.Proofs.Verdict
import PinnedFetch.Proofs.VersionToken

namespace PinnedFetch

/-! ## 1. Releases without a version -/

namespace Release

/-- Nothing follows the first dash of the tag, or a second one; or there is no tag. -/
def Versionless (r : Release) : Prop :=
  r.tag = "" ∨ ∃ p rest, '-' ∉ p ∧ r.tag.toList = p ++ '-' :: rest ∧
    (rest = [] ∨ rest.head? = some '-')

theorem version_eq_empty_iff (r : Release) : r.version = "" ↔ r.Versionless := by
  unfold version Versionless
  cases h : Text.secondField? '-' r.tag.toList with
  | none =>
    constructor
    · exact Or.inl
    · rintro (e | ⟨p, rest, before, tag, -⟩)
      · exact e
      · rw [tag, Text.secondField?_append_sep before] at h
        exact absurd h (by simp)
  | some field =>
    have nil : String.ofList field = "" ↔ field = [] := by
      rw [← String.toList_inj, String.toList_ofList]
      rfl
    simp only [nil]
    obtain ⟨p, rest, before, tag, first⟩ := Text.secondField?_eq_some_iff.mp h
    constructor
    · rintro rfl
      exact Or.inr ⟨p, rest, before, tag, Text.firstField_eq_nil_iff.mp first⟩
    · rintro (e | ⟨q, more, before', tag', ends⟩)
      · rw [e] at tag
        exact absurd tag (by simp)
      · rw [tag', Text.secondField?_append_sep before', Text.firstField_eq_nil_iff.mpr ends] at h
        exact (Option.some.inj h).symm

end Release

/-! ## 2. Artefacts that print an empty field -/

theorem Version.ofResult_of_token {output : CommandOutput} {cs token : List Char}
    (success : output.status = ⟨0⟩) (text : Utf8.decode output.stdout = .ok cs)
    (cut : Version.token? cs = some token) (path : String) :
    ofResult path (.ok output) = .ok (String.ofList token) := by
  have done : output.status.isSuccess = true := (WaitStatus.isSuccess_iff _).mpr success
  simp only [ofResult, ofOutput, done, text, cut, if_true]

namespace Run

/-- **An empty version field.**  The artefact is there, is asked, and succeeds with an output whose
second field is empty.

It is not taken as it is, and the release is asked for, if and only if the release has a version,
or the octets of the artefact were asked for and have another digest.  The run is satisfied with it
if and only if the release has no version, and the octets have the right digest or were not asked
for. -/
theorem empty_field_iff {σ : Type} (w : Writer σ) (c : Config) (h : Collaborators) (s : Scene σ)
    (there : s.tree.isThere c.path = true) {output : CommandOutput} {cs : List Char}
    (ran : h.run (versionCall c.path) = .ok output) (success : output.status = ⟨0⟩)
    (text : Utf8.decode output.stdout = .ok cs) (empty : Version.token? cs = some []) :
    ((perform w c h s).1 ≠ .ok .satisfied ∧
      (perform w c h s).2.urls = s.urls ++ [c.release.url] ↔
        ¬ c.release.Versionless ∨ (c.verifyExisting = true ∧
          ∃ bytes, s.tree.read c.path = .ok bytes ∧ Digest.of bytes ≠ c.release.sha256)) ∧
    ((perform w c h s).1 = .ok .satisfied ↔
      c.release.Versionless ∧ (c.verifyExisting = true →
        ∃ bytes, s.tree.read c.path = .ok bytes ∧ Digest.of bytes = c.release.sha256)) := by
  have reports : Version.ofResult c.path (h.run (versionCall c.path)) = .ok "" := by
    rw [ran]
    exact Version.ofResult_of_token success text empty c.path
  obtain ⟨stays, goes⟩ := verdict_of_reports there reports
  have versionless : "" = c.release.version ↔ c.release.Versionless :=
    eq_comm.trans c.release.version_eq_empty_iff
  constructor
  · rw [asks_iff, goes, ne_eq, versionless]
  · rw [result_eq_satisfied_iff, stays, versionless]

/-- An artefact of one octet, where the pinned script is kept. -/
def octetThere : Scene Bytes where
  tree := (Tree.emptyAt []).put ["waf"] (.file 0o755 [1])
  out := []

/-- The settings for the pinned script under another tag. -/
def retagged (tag : String) : Config where
  release := { Release.pinned with tag := tag }

/-- Two spaces stand before the version that the artefact prints; downloads give nothing. -/
def twoSpaces : Collaborators where
  run _ := .ok ⟨⟨0⟩, Bytes.ofText "waf  1.8.6\n", []⟩
  fetch _ := { result := .ok [] }

/-- With a version in the tag, the artefact has to go. -/
theorem empty_field_goes :
    octetThere.tree.isThere (retagged "waf-1.8.6").path = true ∧
      (perform .unbounded (retagged "waf-1.8.6") twoSpaces octetThere).1 ≠ .ok .satisfied ∧
      (perform .unbounded (retagged "waf-1.8.6") twoSpaces octetThere).2.urls =
        [Release.pinned.url] := by
  have there : octetThere.tree.isThere (retagged "waf-1.8.6").path = true := by decide
  have versioned : ¬ (retagged "waf-1.8.6").release.Versionless := by
    rw [← Release.version_eq_empty_iff]
    decide
  exact ⟨there, (empty_field_iff .unbounded (retagged "waf-1.8.6") twoSpaces octetThere there rfl
    rfl (Utf8.decode_ofText _) (by decide)).1.mpr (Or.inl versioned)⟩

/-- **Without one, it stays:** the empty field passes for the empty version. -/
theorem empty_field_stays :
    octetThere.tree.isThere (retagged "waf-").path = true ∧
      Version.token? "waf  1.8.6\n".toList = some [] ∧
      twoSpaces.run (versionCall (retagged "waf-").path) =
        .ok ⟨⟨0⟩, Bytes.ofText "waf  1.8.6\n", []⟩ ∧
      (perform .unbounded (retagged "waf-") twoSpaces octetThere).1 = .ok .satisfied ∧
      (perform .unbounded (retagged "waf-") twoSpaces octetThere).2.urls = [] := by
  have there : octetThere.tree.isThere (retagged "waf-").path = true := by decide
  have token : Version.token? "waf  1.8.6\n".toList = some [] := by decide
  have reports : Version.ofResult (retagged "waf-").path
      (twoSpaces.run (versionCall (retagged "waf-").path)) = .ok "" :=
    Version.ofResult_of_token rfl (Utf8.decode_ofText _) token _
  have version : "" = (retagged "waf-").release.version := by decide
  have stays : (find octetThere.tree (retagged "waf-") twoSpaces).verdict = .ok true :=
    (verdict_of_reports there reports).1.mpr ⟨version, fun asked => absurd asked (by decide)⟩
  obtain ⟨satisfied, urls, -⟩ := perform_of_stays .unbounded stays
  exact ⟨there, token, rfl, satisfied, urls⟩

end Run

end PinnedFetch
