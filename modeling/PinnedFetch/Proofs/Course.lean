/-
# The course of a run

What a run decides depends on the tree, the settings and the two collaborators, never on the
writer.  This module takes the decisions out of the run: what it finds where the artefact is kept
(`Finding`, seven cases) and what its download comes to (`Delivery`, four).  Each case says at once
how the run goes on, which events it adds and what it makes of the tree.

`perform_eq` puts them together again: a run is its `course`, told to a writer.  So whatever is to
be said of all runs is said of the eleven cases, and no branch of the run itself is opened again.
-/
import PinnedFetch.Proofs.Installation
import PinnedFetch.Run

namespace PinnedFetch

/-! ## 1. Events on a scene -/

/-- The lines of the notices among some events, in order. -/
def Event.lines (es : List Event) : List String :=
  (es.filterMap Event.notice?).flatMap Notice.lines

namespace Scene

variable {σ : Type}

/-- The scene after some events: the notices among them are written, and the tree is what it is
said to be. -/
def after (s : Scene σ) (w : Writer σ) (t : Tree) (es : List Event) : Scene σ where
  tree := t
  out := w.lines s.out (Event.lines es)
  events := s.events ++ es

@[simp] theorem tree_after (s : Scene σ) (w : Writer σ) (t : Tree) (es : List Event) :
    (s.after w t es).tree = t := rfl

theorem after_after (s : Scene σ) (w : Writer σ) (t u : Tree) (es fs : List Event) :
    (s.after w t es).after w u fs = s.after w u (es ++ fs) := by
  simp [after, Event.lines, Writer.lines, List.foldl_append]

theorem after_nil (s : Scene σ) (w : Writer σ) : s.after w s.tree [] = s := by
  simp [after, Event.lines, Writer.lines]

/-- An event that is no notice leaves the writer alone. -/
theorem note_eq_after (s : Scene σ) (w : Writer σ) {e : Event} (h : e.notice? = none) :
    s.note e = s.after w s.tree [e] := by
  simp [note, after, Event.lines, Writer.lines, h]

theorem log_eq_after (s : Scene σ) (w : Writer σ) (r : Log.Record) :
    s.log r = s.after w s.tree [.logged r] :=
  note_eq_after s w rfl

theorem logAll_eq_after (s : Scene σ) (w : Writer σ) (rs : List Log.Record) :
    s.logAll rs = s.after w s.tree (rs.map .logged) := by
  have silent : (rs.map Event.logged).filterMap Event.notice? = [] := by
    simp [List.filterMap_map, Function.comp_def, Event.notice?]
  simp [logAll, after, Event.lines, Writer.lines, silent]

theorem tell_eq_after (s : Scene σ) (w : Writer σ) (n : Notice) :
    s.tell w n = s.after w s.tree [.told n] := by
  simp [tell, after, Event.lines, Event.notice?]

end Scene

namespace Run

/-- The event of a notice of progress, unless the run is quiet. -/
def progressEvents (quiet : Bool) (n : Notice) : List Event := if quiet then [] else [.told n]

theorem progress_eq_after {σ : Type} (s : Scene σ) (w : Writer σ) (quiet : Bool) (n : Notice) :
    s.progress w quiet n = s.after w s.tree (progressEvents quiet n) := by
  cases quiet with
  | false => exact s.tell_eq_after w n
  | true => exact (s.after_nil w).symm

/-! ## 2. What a run finds -/

/-- What stands where the artefact is kept, as far as a run finds out. -/
inductive Finding where
  /-- Nothing. -/
  | missing
  /-- Something that did not say its version. -/
  | unanswered (cause : Failure)
  /-- Something of another version. -/
  | otherVersion (found : String)
  /-- Something of the right version, whose octets were not asked for. -/
  | trusted
  /-- Something of the right version that could not be read. -/
  | unreadable (cause : IoError)
  /-- Something of the right version with other octets. -/
  | otherOctets (found : String) (actual : Digest)
  /-- The artefact. -/
  | intact
  deriving DecidableEq, Repr

/-- Looks for the artefact. -/
def find (t : Tree) (c : Config) (h : Collaborators) : Finding :=
  if t.isThere c.path then
    match Version.ofResult c.path (h.run (versionCall c.path)) with
    | .error f => .unanswered f
    | .ok found =>
      if found ≠ c.release.version then .otherVersion found
      else if c.verifyExisting then
        match t.read c.path with
        | .error e => .unreadable e
        | .ok bytes =>
          if Digest.of bytes = c.release.sha256 then .intact
          else .otherOctets found (Digest.of bytes)
      else .trusted
  else .missing

namespace Finding

/-- Whether what was found can stay. -/
def verdict : Finding → Except Failure Bool
  | missing => .ok false
  | unanswered cause => .error cause
  | otherVersion _ => .ok false
  | trusted => .ok true
  | unreadable cause => .error (.io cause)
  | otherOctets _ _ => .ok false
  | intact => .ok true

/-- The artefact is asked for its version. -/
def asked (path : String) : List Event := [.logged (asking path), .ran (versionCall path)]

/-- What happens until it was found. -/
def events (c : Config) : Finding → List Event
  | missing => [.logged (absent c.path)]
  | otherVersion found =>
    asked c.path ++ [.logged (outdated c.path found c.release.version)]
  | otherOctets found actual =>
    asked c.path ++ (.logged (altered c.path found actual) ::
      progressEvents c.quiet (.stale c.release.fileName))
  | unanswered _ => asked c.path
  | trusted => asked c.path
  | unreadable _ => asked c.path
  | intact => asked c.path

end Finding

/-! ## 3. What a download comes to -/

/-- What a run makes of its download. -/
inductive Delivery where
  /-- There were no octets. -/
  | failed (cause : DownloadFailure)
  /-- The octets are not those of the release. -/
  | refused (actual : Digest)
  /-- The octets are those of the release, and there is no place for them. -/
  | unplaced (cause : IoError)
  /-- The octets are those of the release, and stand at a location. -/
  | placed (bytes : Bytes) (l : Location)
  deriving DecidableEq, Repr

/-- Downloads the release, and installs it if it has the right digest. -/
def deliver (t : Tree) (c : Config) (h : Collaborators) : Delivery :=
  match (h.fetch c.release.url).result with
  | .error cause => .failed cause
  | .ok bytes =>
    if Digest.of bytes = c.release.sha256 then
      match t.place c.path with
      | .error cause => .unplaced cause
      | .ok l => .placed bytes l
    else .refused (Digest.of bytes)

namespace Delivery

open Install (ownerExecute modeChanged)

/-- How the run ends. -/
def result (c : Config) : Delivery → Except Failure Outcome
  | failed cause => .error (.download cause)
  | refused actual => .ok (.mismatch actual c.release.sha256)
  | unplaced cause => .error (.io cause)
  | placed _ _ => .ok (.installed c.path)

/-- The tree that the run leaves. -/
def tree (t : Tree) : Delivery → Tree
  | placed bytes l => t.put l (.file (t.modeAt l ||| ownerExecute) bytes)
  | _ => t

/-- What happens once the octets are there, or fail to be. -/
def events (t : Tree) (c : Config) : Delivery → List Event
  | failed _ => []
  | refused actual =>
    [.logged (rejected c.release.url actual c.release.sha256),
      .told (.mismatch actual c.release.sha256)]
  | unplaced _ => [.opened c.path]
  | placed bytes l =>
    [.opened c.path, .logged (modeChanged c.path (t.modeAt l) (t.modeAt l ||| ownerExecute)),
      .logged (written c.release.tag bytes.length c.path)] ++ progressEvents c.quiet .verified

end Delivery

/-- The events of the request for the release. -/
def requested (c : Config) (h : Collaborators) : List Event :=
  progressEvents c.quiet (.downloading c.release.url) ++
    (.fetched c.release.url :: (h.fetch c.release.url).records.map .logged)

/-! ## 4. The course, and the run -/

/-- How a run ends, the tree it leaves and what happens on the way. -/
structure Course where
  result : Except Failure Outcome
  tree : Tree
  events : List Event

/-- The course of a run in a tree. -/
def course (t : Tree) (c : Config) (h : Collaborators) : Course :=
  let found := (find t c h).events c
  match (find t c h).verdict with
  | .error f => ⟨.error f, t, found⟩
  | .ok true => ⟨.ok .satisfied, t, found ++ progressEvents c.quiet (.kept c.release.fileName)⟩
  | .ok false =>
    let given := deliver t c h
    ⟨given.result c, given.tree t, found ++ (requested c h ++ given.events t c)⟩

theorem course_of_error {t : Tree} {c : Config} {h : Collaborators} {f : Failure}
    (e : (find t c h).verdict = .error f) :
    course t c h = ⟨.error f, t, (find t c h).events c⟩ := by
  unfold course
  rw [e]

theorem course_of_stays {t : Tree} {c : Config} {h : Collaborators}
    (e : (find t c h).verdict = .ok true) :
    course t c h = ⟨.ok .satisfied, t,
      (find t c h).events c ++ progressEvents c.quiet (.kept c.release.fileName)⟩ := by
  unfold course
  rw [e]

theorem course_of_goes {t : Tree} {c : Config} {h : Collaborators}
    (e : (find t c h).verdict = .ok false) :
    course t c h = ⟨(deliver t c h).result c, (deliver t c h).tree t,
      (find t c h).events c ++ (requested c h ++ (deliver t c h).events t c)⟩ := by
  unfold course
  rw [e]

section Told

variable {σ : Type} (w : Writer σ) (c : Config) (h : Collaborators) (s : Scene σ)

theorem rehash_eq (found : String) : rehash w c found s =
    match s.tree.read c.path with
    | .error e => (.error (.io e), s)
    | .ok bytes =>
      if Digest.of bytes = c.release.sha256 then (.ok true, s)
      else (.ok false, s.after w s.tree (.logged (altered c.path found (Digest.of bytes)) ::
        progressEvents c.quiet (.stale c.release.fileName))) := by
  unfold rehash
  cases s.tree.read c.path with
  | error e => rfl
  | ok bytes =>
    simp only [Scene.log_eq_after _ w, progress_eq_after, Scene.after_after]
    rfl

theorem canStay_eq :
    canStay w c h s =
      ((find s.tree c h).verdict, s.after w s.tree ((find s.tree c h).events c)) := by
  have ran : (s.log (asking c.path)).note (.ran (versionCall c.path)) =
      s.after w s.tree (Finding.asked c.path) := by
    rw [Scene.log_eq_after _ w, Scene.note_eq_after _ w rfl, Scene.after_after]
    rfl
  unfold canStay find askVersion
  rw [ran]
  split
  · cases Version.ofResult c.path (h.run (versionCall c.path)) with
    | error f => rfl
    | ok found =>
      simp only
      split
      · rw [Scene.log_eq_after _ w, Scene.after_after]
        rfl
      · split
        · rw [rehash_eq, Scene.tree_after]
          cases s.tree.read c.path with
          | error e => rfl
          | ok bytes =>
            simp only
            split
            · rfl
            · rw [Scene.after_after]
              rfl
        · rfl
  · rw [Scene.log_eq_after _ w]
    rfl

theorem keep_eq (bytes : Bytes) : keep w c bytes s =
    match s.tree.place c.path with
    | .error e => (.error (.io e), s.after w s.tree [.opened c.path])
    | .ok l => (.ok (.installed c.path),
        s.after w ((Delivery.placed bytes l).tree s.tree)
          ((Delivery.placed bytes l).events s.tree c)) := by
  have opened (t : Tree) :
      { s.note (.opened c.path) with tree := t } = s.after w t [.opened c.path] := by
    rw [Scene.note_eq_after s w rfl]
    rfl
  unfold keep
  rw [install_eq]
  cases s.tree.place c.path with
  | error e =>
    simp only [opened, Scene.logAll_eq_after _ w, Scene.after_after]
    rfl
  | ok l =>
    simp only [opened, Scene.logAll_eq_after _ w, Scene.log_eq_after _ w, progress_eq_after,
      Scene.after_after]
    rfl

theorem download_eq :
    download w c h s =
      ((deliver s.tree c h).result c,
        s.after w ((deliver s.tree c h).tree s.tree)
          (requested c h ++ (deliver s.tree c h).events s.tree c)) := by
  have asked : ((s.progress w c.quiet (.downloading c.release.url)).note
      (.fetched c.release.url)).logAll (h.fetch c.release.url).records =
        s.after w s.tree (requested c h) := by
    rw [progress_eq_after, Scene.note_eq_after _ w rfl, Scene.logAll_eq_after _ w]
    simp only [Scene.after_after, requested, List.append_assoc]
    rfl
  unfold download deliver
  simp only [asked]
  cases (h.fetch c.release.url).result with
  | error cause => simp [Delivery.result, Delivery.tree, Delivery.events]
  | ok bytes =>
    simp only
    split
    · rw [keep_eq, Scene.tree_after]
      cases s.tree.place c.path with
      | error e =>
        simp only [Scene.after_after]
        rfl
      | ok l =>
        simp only [Scene.after_after]
        rfl
    · rw [Scene.log_eq_after _ w, Scene.tell_eq_after, Scene.after_after, Scene.after_after]
      rfl

/-- **A run is its course, told to a writer.** -/
theorem perform_eq :
    perform w c h s =
      ((course s.tree c h).result, s.after w (course s.tree c h).tree (course s.tree c h).events) := by
  unfold perform course
  rw [canStay_eq]
  cases (find s.tree c h).verdict with
  | error f => rfl
  | ok stays =>
    cases stays with
    | true =>
      simp only
      rw [progress_eq_after, Scene.after_after]
      rfl
    | false =>
      simp only
      rw [download_eq, Scene.after_after]
      rfl

end Told

end Run

end PinnedFetch
