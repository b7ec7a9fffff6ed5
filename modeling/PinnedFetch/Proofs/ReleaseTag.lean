/-
# The version in a tag

A tag is put together with dashes, and the version of a release is taken out of it again.  `Spells`
says how a tag spells a version without cutting it; `version_eq_iff` says that the version taken out
is the one that was put in, and that every tag spells one.

Two things follow for the artefact that a run finds.  The version is the last of the first two
fields of the tag (`getLast?_leadingFields`), so tags that agree in these two make no difference to
the run.  And no version has a dash in it, while what an artefact prints is cut at spaces: an
artefact that reports a dash, as one of a pre-release may do, is not accepted under any tag, nor
under its own (`asks_of_dash`), and any other can be, under some tag (`exists_tag_iff`).
-/
import PinnedFetch.Proofs.Acceptance
import PinnedFetch.Proofs.VersionQuery

namespace PinnedFetch

/-! ## 1. Tags and the versions they spell -/

namespace Release

/-- How a tag spells a version. -/
inductive Spells : String → String → Prop
  /-- A tag without a dash is the version. -/
  | bare {v : String} (solid : '-' ∉ v.toList) : Spells v v
  /-- The version stands behind the first dash, and nothing follows it but another dash. -/
  | dashed {p v rest : String} (before : '-' ∉ p.toList) (solid : '-' ∉ v.toList)
      (ends : rest = "" ∨ rest.toList.head? = some '-') : Spells (p ++ "-" ++ v ++ rest) v

theorem Spells.solid {tag v : String} (h : Spells tag v) : '-' ∉ v.toList := by
  cases h with
  | bare solid => exact solid
  | dashed before solid ends => exact solid

/-- Every tag spells the version that is taken out of it. -/
theorem spells_version (r : Release) : Spells r.tag r.version := by
  unfold version
  cases cut : Text.secondField? '-' r.tag.toList with
  | none => exact .bare (Text.secondField?_eq_none_iff.mp cut)
  | some field =>
    obtain ⟨front, tail, tag, before, solid, ends⟩ := Text.secondField?_eq_some_iff_between.mp cut
    have spelled : r.tag =
        String.ofList front ++ "-" ++ String.ofList field ++ String.ofList tail := by
      rw [← String.toList_inj, tag]
      simp
    rw [spelled]
    refine .dashed ?_ ?_ ?_
    · rwa [String.toList_ofList]
    · rwa [String.toList_ofList]
    · rw [String.toList_ofList]
      exact ends.imp_left fun nothing => congrArg String.ofList nothing

/-- The version that a tag spells is taken out of it. -/
theorem Spells.version_eq {r : Release} {tag v : String} (h : Spells tag v) (is : r.tag = tag) :
    r.version = v := by
  unfold version
  rw [is]
  cases h with
  | bare solid => rw [Text.secondField?_of_not_mem solid]
  | @dashed p v rest before solid ends =>
    have between : Text.Between '-' (p ++ "-" ++ v ++ rest).toList v.toList := by
      refine ⟨p.toList, rest.toList, ?_, before, solid, ?_⟩
      · simp
      · exact ends.imp_left fun nothing => congrArg String.toList nothing
    rw [Text.secondField?_eq_some_iff_between.mpr between]
    exact String.ofList_toList

/-- **A version is taken out of a tag if and only if the tag spells it.** -/
theorem version_eq_iff {r : Release} {v : String} : r.version = v ↔ Spells r.tag v := by
  constructor
  · rintro rfl
    exact r.spells_version
  · intro h
    exact h.version_eq rfl

/-- The first two fields of a tag, cut at dashes; a tag without a dash has one only. -/
def leadingFields (tag : String) : List (List Char) := (Text.fields '-' tag.toList).take 2

/-- **The version is the last of the first two fields.** -/
theorem getLast?_leadingFields (r : Release) :
    (leadingFields r.tag).getLast? = some r.version.toList := by
  have whole := Text.intercalate_fields '-' r.tag.toList
  unfold version leadingFields
  rw [Text.secondField?_eq_getElem?]
  match split : Text.fields '-' r.tag.toList with
  | [] => exact absurd split (Text.fields_ne_nil _ _)
  | [field] =>
    rw [split, List.intercalate_singleton] at whole
    simp [whole]
  | first :: second :: more => simp

theorem version_eq_of_leadingFields {r s : Release}
    (same : leadingFields r.tag = leadingFields s.tag) : r.version = s.version := by
  have last := r.getLast?_leadingFields
  rw [same, s.getLast?_leadingFields, Option.some.injEq, String.toList_inj] at last
  exact last.symm

end Release

/-! ## 2. Runs under one tag and another -/

/-- The settings for a release under another tag. -/
def Config.tagged (c : Config) (tag : String) : Config :=
  { c with release := { c.release with tag := tag } }

namespace Run

variable {σ : Type}

section Tagged

variable {c : Config} {a b : String}

/-- What a run makes of the artefact it finds depends on the tag by way of the version only. -/
theorem canStay_tagged (same : (c.tagged a).release.version = (c.tagged b).release.version)
    (w : Writer σ) (h : Collaborators) (s : Scene σ) :
    canStay w (c.tagged a) h s = canStay w (c.tagged b) h s := by
  unfold canStay
  rw [same]
  rfl

/-- So does the end of the run, and the tree it leaves. -/
theorem course_tagged (same : (c.tagged a).release.version = (c.tagged b).release.version)
    (t : Tree) (h : Collaborators) :
    (course t (c.tagged a) h).result = (course t (c.tagged b) h).result ∧
      (course t (c.tagged a) h).tree = (course t (c.tagged b) h).tree := by
  have found : find t (c.tagged a) h = find t (c.tagged b) h := by
    unfold find
    rw [same]
    rfl
  unfold course
  rw [found]
  cases (find t (c.tagged b) h).verdict with
  | error f => exact ⟨rfl, rfl⟩
  | ok stays => cases stays <;> exact ⟨rfl, rfl⟩

/-- No tag has the version of an artefact that reports a dash. -/
theorem asks_of_dash (w : Writer σ) {h : Collaborators} {s : Scene σ} {found : String}
    (reports : Reports s.tree c h found) (dash : '-' ∈ found.toList) (tag : String) :
    (perform w (c.tagged tag) h s).1 ≠ .ok .satisfied ∧
      (perform w (c.tagged tag) h s).2.urls = s.urls ++ [c.release.url] := by
  have other : found ≠ (c.tagged tag).release.version := by
    rintro rfl
    exact (c.tagged tag).release.spells_version.solid dash
  have finds : Finds s.tree (c.tagged tag) h (.otherVersion found) :=
    .otherVersion ⟨reports.there, reports.answer⟩ other
  have goes : (find s.tree (c.tagged tag) h).verdict = .ok false := by
    rw [finds.find_eq, Finding.verdict]
  exact (asks_iff w).mpr goes

/-- An artefact is accepted under some tag when it reports a version that tags can spell: under the
tag that is this version. -/
theorem exists_tag_iff (w : Writer σ) {h : Collaborators} {s : Scene σ} {found : String}
    (reports : Reports s.tree c h found) :
    (∃ tag, (perform w (c.tagged tag) h s).1 = .ok .satisfied) ↔
      '-' ∉ found.toList ∧ (c.verifyExisting = true → Genuine s.tree c) := by
  constructor
  · rintro ⟨tag, stays⟩
    rw [result_eq_satisfied_iff, verdict_eq_true_iff] at stays
    have same : found = (c.tagged tag).release.version :=
      Except.ok.inj (reports.answer.symm.trans stays.reports.answer)
    refine ⟨?_, stays.genuine⟩
    rw [same]
    exact (c.tagged tag).release.spells_version.solid
  · rintro ⟨solid, genuine⟩
    have own : (c.tagged found).release.version = found := Release.version_eq_iff.mpr (.bare solid)
    refine ⟨found, ?_⟩
    rw [result_eq_satisfied_iff, verdict_eq_true_iff]
    refine ⟨?_, genuine⟩
    rw [own]
    exact ⟨reports.there, reports.answer⟩

end Tagged

/-- **The version is what the tag was put together from.**

* It has no dash in it, and it is the one text that the tag spells.
* Two tags with the same first two fields are the same to a run, whatever it finds: the artefact may
  stay under both or under neither, and the run ends in the same way, with the same tree.
* There is a tag under which an artefact is accepted exactly when there is no dash in what it
  reports, and its octets are right or not asked for.  If there is a dash, the artefact is not taken
  as it is under any tag, and the release is asked for. -/
theorem version_inverts_tag (w : Writer σ) (c : Config) (h : Collaborators) (s : Scene σ) :
    (∀ r : Release, '-' ∉ r.version.toList ∧ ∀ v, r.version = v ↔ Release.Spells r.tag v) ∧
    (∀ a b, Release.leadingFields a = Release.leadingFields b →
      canStay w (c.tagged a) h s = canStay w (c.tagged b) h s ∧
        (perform w (c.tagged a) h s).1 = (perform w (c.tagged b) h s).1 ∧
        (perform w (c.tagged a) h s).2.tree = (perform w (c.tagged b) h s).2.tree) ∧
    (∀ found, Reports s.tree c h found →
      ((∃ tag, (perform w (c.tagged tag) h s).1 = .ok .satisfied) ↔
        '-' ∉ found.toList ∧ (c.verifyExisting = true → Genuine s.tree c)) ∧
      ('-' ∈ found.toList → ∀ tag, (perform w (c.tagged tag) h s).1 ≠ .ok .satisfied ∧
        (perform w (c.tagged tag) h s).2.urls = s.urls ++ [c.release.url])) := by
  refine ⟨?_, ?_, ?_⟩
  · intro r
    exact ⟨r.spells_version.solid, fun v => Release.version_eq_iff⟩
  · intro a b fields
    have same : (c.tagged a).release.version = (c.tagged b).release.version :=
      Release.version_eq_of_leadingFields fields
    obtain ⟨result, tree⟩ := course_tagged same s.tree h
    refine ⟨canStay_tagged same w h s, ?_, ?_⟩
    · rw [perform_eq, perform_eq, result]
    · rw [perform_eq, perform_eq, Scene.tree_after, Scene.tree_after, tree]
  · intro found reports
    exact ⟨exists_tag_iff w reports, fun dash tag => asks_of_dash w reports dash tag⟩

/-- An artefact of a pre-release, and a server that does not have it. -/
def saysPrerelease : Collaborators where
  run _ := .ok (.ofVersion "2.0.0-rc1")
  fetch url := { result := .error (.notFound url) }

/-- The pre-release is not accepted under its own tag, which spells the version without its end. -/
theorem version_inverts_prerelease :
    Release.leadingFields "waf-2.0.0-rc1" = Release.leadingFields "waf-2.0.0" ∧
      Reports oneOctetThere {} saysPrerelease "2.0.0-rc1" ∧ '-' ∈ "2.0.0-rc1".toList ∧
      (perform .unbounded (Config.tagged {} "waf-2.0.0-rc1") saysPrerelease
        { tree := oneOctetThere, out := [] }).1 ≠ .ok .satisfied ∧
      (perform .unbounded (Config.tagged {} "waf-2.0.0-rc1") saysPrerelease
        { tree := oneOctetThere, out := [] }).2.urls = [Release.pinned.url] := by
  have fields : Release.leadingFields "waf-2.0.0-rc1" = Release.leadingFields "waf-2.0.0" := by
    decide
  have dash : '-' ∈ "2.0.0-rc1".toList := by decide
  have reports : Reports oneOctetThere {} saysPrerelease "2.0.0-rc1" :=
    ⟨Tree.isThere_of_entry entry_oneOctetThere, Version.ofResult_of_plain (by decide) _⟩
  obtain ⟨-, -, never⟩ := version_inverts_tag .unbounded {} saysPrerelease
    { tree := oneOctetThere, out := [] }
  exact ⟨fields, reports, dash, (never "2.0.0-rc1" reports).2 dash "waf-2.0.0-rc1"⟩

end Run

end PinnedFetch
