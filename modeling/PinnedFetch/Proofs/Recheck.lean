/-
# Hashing an artefact before it is trusted

A run can be told to hash an artefact that reports the right version before it lets it stay.  Where
the artefact's path leads to a file or to nothing, this makes no difference to anything that can be
observed, but in one case: the artefact reports the version of the release and its octets have
another digest (`Stale`).  Then the run that trusts is satisfied and changes nothing, and the run
that hashes says so and asks for the release (`recheck_refines`).

The findings carry the argument.  The two runs find the same wherever the version is not that of
the release; where it is, one finds something to trust, and the other something intact or other
octets.
-/
import PinnedFetch.Proofs.Acceptance
import PinnedFetch.Proofs.DigestGate
import PinnedFetch.Proofs.Observed

namespace PinnedFetch

namespace Config

/-- The settings of a run that trusts an artefact of the right version. -/
def trusting (c : Config) : Config := { c with verifyExisting := false }

/-- The settings of a run that hashes it first. -/
def checking (c : Config) : Config := { c with verifyExisting := true }

end Config

/-- A path leads to a regular file, or to nothing. -/
def Tree.FileOrNothing (t : Tree) (p : String) : Prop :=
  t.isThere p = false ∨ ∃ m bytes, t.entry p = .ok (.file m bytes)

namespace Run

/-- The artefact reports the version of the release, and its octets have another digest. -/
structure Stale (t : Tree) (c : Config) (h : Collaborators) : Prop where
  reports : Reports t c h c.release.version
  altered : ∃ bytes, t.read c.path = .ok bytes ∧ Digest.of bytes ≠ c.release.sha256

variable {t : Tree} {c : Config} {h : Collaborators}

/-! ## 1. Where the two runs agree -/

/-- An artefact that is a file can be read. -/
theorem not_unread (plain : t.FileOrNothing c.path) (e : IoError) : ¬ Unread t c h e := by
  intro unread
  rcases plain with gone | ⟨m, bytes, file⟩
  · exact absurd unread.reports.there (by simp [gone])
  · have read := Tree.read_of_entry file
    exact absurd unread.read (by simp [read])

/-- Nothing but the finding depends on whether an artefact is hashed. -/
theorem course_checking_eq (same : find t c.checking h = find t c.trusting h) :
    course t c.checking h = course t c.trusting h := by
  unfold course
  rw [same]
  rfl

/-- **But for a stale artefact, hashing changes nothing.** -/
theorem course_checking_of_not_stale (plain : t.FileOrNothing c.path) (fresh : ¬ Stale t c h) :
    course t c.checking h = course t c.trusting h := by
  have fs := finds_find t c.checking h
  generalize e : find t c.checking h = f at fs
  cases fs with
  | missing gone =>
    have found := (Finds.missing (c := c.trusting) (h := h) gone).find_eq
    exact course_checking_eq (e.trans found.symm)
  | unanswered silent =>
    have found := (Finds.unanswered (c := c.trusting) ⟨silent.there, silent.answer⟩).find_eq
    exact course_checking_eq (e.trans found.symm)
  | otherVersion reports other =>
    have found := (Finds.otherVersion (c := c.trusting) ⟨reports.there, reports.answer⟩
      other).find_eq
    exact course_checking_eq (e.trans found.symm)
  | trusted reports unasked => exact absurd unasked (by simp [Config.checking])
  | unreadable unread => exact absurd unread (not_unread (c := c.checking) plain _)
  | otherOctets reports asked read wrong =>
    exact absurd ⟨⟨reports.there, reports.answer⟩, _, read, wrong⟩ fresh
  | intact reports asked genuine =>
    -- The findings differ, and both may stay after the same events.
    have found := (Finds.trusted (c := c.trusting) ⟨reports.there, reports.answer⟩ rfl).find_eq
    rw [course_of_stays (by rw [e]; rfl), course_of_stays (by rw [found]; rfl), e, found]
    rfl

/-! ## 2. Where they do not -/

/-- A run that trusts takes a stale artefact. -/
theorem Stale.find_trusting (stale : Stale t c h) : find t c.trusting h = .trusted :=
  (Finds.trusted (c := c.trusting) ⟨stale.reports.there, stale.reports.answer⟩ rfl).find_eq

/-- A run that hashes finds other octets. -/
theorem Stale.find_checking (stale : Stale t c h) :
    ∃ actual, find t c.checking h = .otherOctets c.release.version actual := by
  obtain ⟨reports, bytes, read, wrong⟩ := stale
  exact ⟨_, (Finds.otherOctets (c := c.checking) ⟨reports.there, reports.answer⟩ rfl read
    wrong).find_eq⟩

/-- **After other octets, the artefact is called stale and the download is announced.** -/
theorem lines_of_otherOctets {found : String} {actual : Digest}
    (other : find t c h = .otherOctets found actual) (loud : c.quiet = false) :
    ∃ more, Event.lines (course t c h).events =
      (Notice.stale c.release.fileName).lines ++ (Notice.downloading c.release.url).lines ++
        more := by
  have goes : (find t c h).verdict = .ok false := by
    rw [other]
    rfl
  rw [course_of_goes goes, other]
  simp only [Finding.events, requested, progressEvents, loud]
  exact ⟨_, rfl⟩

/-! ## 3. What a run that hashes can promise -/

/-- **When a run that hashes ends well, the octets at the artefact's path have the right digest:**
those that were there and stayed, or those that were installed. -/
theorem genuine_of_exitStatus (asked : c.verifyExisting = true) {outcome : Outcome}
    (ends : (course t c h).result = .ok outcome) (well : outcome.exitStatus = 0) :
    Genuine (course t c h).tree c := by
  rcases course_installs t c h with ⟨other, kept⟩ | ⟨bytes, l, -, placed, -, tree⟩
  · cases outcome with
    | satisfied =>
      rw [kept]
      exact (verdict_eq_true_iff.mp (course_satisfied_iff.mp ends)).genuine asked
    | installed path => exact absurd ends (other path)
    | mismatch actual expected => exact absurd well (by simp [Outcome.exitStatus])
  · obtain ⟨-, right, place⟩ := deliver_eq_placed_iff.mp placed
    rw [tree]
    exact ⟨bytes, Tree.read_of_entry (Tree.entry_put_place place _ bytes), right⟩

/-! ## 4. The two runs compared -/

/-- **Hashing refines trust.**  The same run is made twice, once trusting an artefact of the right
version and once hashing it first.

Where the artefact's path leads to a file or to nothing, all that is observed of the two is the
same, unless the artefact is stale.  If it is, the run that trusts is satisfied, asks for nothing
and leaves the tree alone; the run that hashes is not, asks for the release once and, unless it is
quiet, first writes that the artefact is stale and then that it downloads.

In any tree, when the run that hashes ends with the status zero, the octets at the artefact's path
have the digest of the release. -/
theorem recheck_refines (t : Tree) (c : Config) (h : Collaborators) :
    let trusting := observed t c.trusting h
    let checking := observed t c.checking h
    (t.FileOrNothing c.path →
      (¬ Stale t c h → checking = trusting) ∧
      (Stale t c h →
        trusting.1 = .ok .satisfied ∧ trusting.2.urls = [] ∧ trusting.2.tree = t ∧
        checking.1 ≠ .ok .satisfied ∧ checking.2.urls = [c.release.url] ∧
        (c.quiet = false → ∃ more, checking.2.out = Writer.lineOctets
          ((Notice.stale c.release.fileName).lines ++ (Notice.downloading c.release.url).lines ++
            more)))) ∧
    ∀ outcome, checking.1 = .ok outcome → outcome.exitStatus = 0 →
      ∃ bytes, checking.2.tree.read c.path = .ok bytes ∧ Digest.of bytes = c.release.sha256 := by
  intro trusting checking
  refine ⟨fun plain => ⟨fun fresh => ?_, fun stale => ?_⟩, fun outcome ends well => ?_⟩
  · simp only [checking, trusting, observed_eq, course_checking_of_not_stale plain fresh]
  · have stays : (find t c.trusting h).verdict = .ok true := by
      rw [stale.find_trusting]
      rfl
    obtain ⟨actual, other⟩ := stale.find_checking
    have goes : (find t c.checking h).verdict = .ok false := by
      rw [other]
      rfl
    obtain ⟨satisfied, none, kept⟩ := perform_of_stays (s := { tree := t, out := [] }) .unbounded
      stays
    obtain ⟨unsatisfied, asks⟩ := (asks_iff (s := { tree := t, out := [] }) .unbounded).mpr goes
    refine ⟨satisfied, none, kept, unsatisfied, asks, fun loud => ?_⟩
    obtain ⟨more, lines⟩ := lines_of_otherOctets other loud
    refine ⟨more, ?_⟩
    rw [out_observed, lines]
    rfl
  · rw [result_observed] at ends
    rw [tree_observed]
    exact genuine_of_exitStatus (c := c.checking) rfl ends well

/-- **There are stale artefacts.**  One octet that passes itself off as the pinned script is taken
by a run that trusts, and found out by one that hashes. -/
theorem recheck_oneOctet :
    oneOctetThere.FileOrNothing (Config.path {}) ∧ Stale oneOctetThere {} saysPinned ∧
      (observed oneOctetThere (Config.trusting {}) saysPinned).1 = .ok .satisfied ∧
      (observed oneOctetThere (Config.checking {}) saysPinned).2.urls = [Release.pinned.url] := by
  have plain : oneOctetThere.FileOrNothing (Config.path {}) := Or.inr ⟨_, _, entry_oneOctetThere⟩
  have wrong : Digest.of [1] ≠ Release.pinned.sha256 := by decide +kernel
  have stale : Stale oneOctetThere {} saysPinned :=
    ⟨reports_oneOctetThere, [1], Tree.read_of_entry entry_oneOctetThere, wrong⟩
  obtain ⟨satisfied, -, -, -, asks, -⟩ :=
    ((recheck_refines oneOctetThere {} saysPinned).1 plain).2 stale
  exact ⟨plain, stale, satisfied, asks⟩

end Run

end PinnedFetch
