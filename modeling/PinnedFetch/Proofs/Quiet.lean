/-
# Quiet runs

A quiet run keeps its progress to itself, and nothing else.  It happens as the same run made aloud:
the events are those of the loud run with the notices of progress left out (`course_hushed`), the
result and the tree are the same.

For the output this is said of its lines (`quiet_drops_progress`).  The lines of progress are those
of four notices about the release (`Release.progressLines`), and they cannot be taken for one of
the lines about a checksum, whatever the release is called and wherever it is served.
-/
import PinnedFetch.Proofs.Observed

namespace PinnedFetch

namespace Config

/-- The settings of a run that shows its progress. -/
def loud (c : Config) : Config := { c with quiet := false }

/-- The settings of a run that does not. -/
def hushed (c : Config) : Config := { c with quiet := true }

end Config

/-! ## 1. Events that a quiet run has too -/

/-- The event is more than a notice of progress. -/
def Event.audible : Event → Bool
  | told n => !n.isProgress
  | _ => true

theorem Event.filter_audible_logged (rs : List Log.Record) :
    (rs.map Event.logged).filter Event.audible = rs.map Event.logged := by
  simp [List.filter_eq_self, Event.audible]

/-- A view that notices have no part in is not touched. -/
theorem Event.filterMap_filter_audible {α : Type} {view : Event → Option α}
    (deaf : ∀ n, view (.told n) = none) (es : List Event) :
    (es.filter Event.audible).filterMap view = es.filterMap view := by
  have same : (fun e => if Event.audible e = true then view e else none) = view := by
    funext e
    cases e with
    | told n => simp [deaf]
    | _ => simp [Event.audible]
  rw [List.filterMap_filter, same]

namespace Run

theorem Finding.events_hushed (c : Config) (f : Finding) :
    f.events c.hushed = (f.events c.loud).filter Event.audible := by
  cases f <;> rfl

theorem Delivery.events_hushed (t : Tree) (c : Config) (d : Delivery) :
    d.events t c.hushed = (d.events t c.loud).filter Event.audible := by
  cases d <;> rfl

theorem requested_hushed (c : Config) (h : Collaborators) :
    requested c.hushed h = (requested c.loud h).filter Event.audible := by
  simp only [requested, List.filter_append, List.filter_cons, Event.filter_audible_logged]
  rfl

/-- **A quiet run is the loud run without its progress.** -/
theorem course_hushed (t : Tree) (c : Config) (h : Collaborators) :
    course t c.hushed h =
      { result := (course t c.loud h).result
        tree := (course t c.loud h).tree
        events := (course t c.loud h).events.filter Event.audible } := by
  have found : find t c.hushed h = find t c.loud h := rfl
  cases e : (find t c.loud h).verdict with
  | error f => rw [course_of_error e, course_of_error (found ▸ e), found, Finding.events_hushed]
  | ok stays =>
    cases stays with
    | true =>
      rw [course_of_stays e, course_of_stays (found ▸ e), found, Finding.events_hushed,
        List.filter_append]
      rfl
    | false =>
      rw [course_of_goes e, course_of_goes (found ▸ e), found, Finding.events_hushed,
        requested_hushed, Delivery.events_hushed, List.filter_append, List.filter_append]
      rfl

end Run

/-! ## 2. Lines of progress -/

/-- The notices of progress that a run for a release can give. -/
def Release.progress (r : Release) : List Notice :=
  [.stale r.fileName, .downloading r.url, .kept r.fileName, .verified]

/-- Their lines. -/
def Release.progressLines (r : Release) : List String := r.progress.flatMap Notice.lines

/-- The progress among some events is about a release. -/
def Event.Concerns (r : Release) (es : List Event) : Prop :=
  ∀ n, .told n ∈ es → n.isProgress = true → n ∈ r.progress

theorem Event.Concerns.append {r : Release} {es fs : List Event} (h : Concerns r es)
    (h' : Concerns r fs) : Concerns r (es ++ fs) := by
  intro n told
  rcases List.mem_append.mp told with told | told
  · exact h n told
  · exact h' n told

/-- **Lines about a checksum are no lines of progress.** -/
theorem Release.mismatch_not_mem_progressLines (r : Release) {actual expected : Digest}
    {l : String} (h : l ∈ (Notice.mismatch actual expected).lines) : l ∉ r.progressLines := by
  intro h'
  obtain ⟨n, hn, hl⟩ := List.mem_flatMap.mp h'
  refine Notice.not_mem_lines ?_ h hl
  simp only [progress, List.mem_cons, List.not_mem_nil, or_false] at hn
  rcases hn with rfl | rfl | rfl | rfl <;> simp

/-- To leave out the notices of progress is to leave out their lines. -/
theorem Event.lines_filter_audible {r : Release} {es : List Event} (about : Concerns r es) :
    Event.lines (es.filter Event.audible) =
      (Event.lines es).filter (fun l => l ∉ r.progressLines) := by
  induction es with
  | nil => rfl
  | cons e es ih =>
    have rest := ih fun n told => about n (List.mem_cons_of_mem e told)
    cases e with
    | told n =>
      cases progress : n.isProgress with
      | true =>
        have gone : n.lines.filter (fun l => l ∉ r.progressLines) = [] := by
          rw [List.filter_eq_nil_iff]
          intro l hl
          have : l ∈ r.progressLines :=
            List.mem_flatMap.mpr ⟨n, about n List.mem_cons_self progress, hl⟩
          simp [this]
        rw [List.filter_cons_of_neg (by simp [audible, progress]), lines_told, List.filter_append,
          gone, List.nil_append, rest]
      | false =>
        obtain ⟨actual, expected, rfl⟩ : ∃ actual expected, n = .mismatch actual expected := by
          cases n with
          | mismatch actual expected => exact ⟨actual, expected, rfl⟩
          | _ => exact absurd progress (by simp [Notice.isProgress])
        have stays : (Notice.mismatch actual expected).lines.filter
            (fun l => l ∉ r.progressLines) = (Notice.mismatch actual expected).lines := by
          rw [List.filter_eq_self]
          intro l hl
          simp [r.mismatch_not_mem_progressLines hl]
        rw [List.filter_cons_of_pos (by simp [audible, progress]), lines_told, lines_told,
          List.filter_append, stays, rest]
    | _ =>
      rw [List.filter_cons_of_pos rfl, lines_cons rfl, lines_cons rfl, rest]

namespace Run

/-! ## 3. What a run says -/

theorem concerns_progressEvents {r : Release} {n : Notice} (h : n ∈ r.progress) (quiet : Bool) :
    Event.Concerns r (progressEvents quiet n) := by
  intro m told _
  cases quiet with
  | true => simp [progressEvents] at told
  | false =>
    simp only [progressEvents, Bool.false_eq_true, if_false, List.mem_singleton,
      Event.told.injEq] at told
    exact told ▸ h

theorem Finding.concerns_events (c : Config) (f : Finding) :
    Event.Concerns c.release (f.events c) := by
  cases f with
  | otherOctets found actual =>
    rw [events, ← List.singleton_append, ← List.append_assoc]
    refine Event.Concerns.append ?_ (concerns_progressEvents (by simp [Release.progress]) _)
    intro n told
    simp [asked] at told
  | _ =>
    intro n told
    simp [events, asked] at told

theorem concerns_requested (c : Config) (h : Collaborators) :
    Event.Concerns c.release (requested c h) := by
  refine Event.Concerns.append (concerns_progressEvents (by simp [Release.progress]) _) ?_
  intro n told
  simp at told

theorem Delivery.concerns_events (t : Tree) (c : Config) (d : Delivery) :
    Event.Concerns c.release (d.events t c) := by
  cases d with
  | placed bytes l =>
    refine Event.Concerns.append ?_ (concerns_progressEvents (by simp [Release.progress]) _)
    intro n told
    simp at told
  | refused actual =>
    intro n told progress
    simp only [events, List.mem_cons, List.not_mem_nil, or_false, reduceCtorEq, false_or,
      Event.told.injEq] at told
    simp [told, Notice.isProgress] at progress
  | _ =>
    intro n told
    simp [events] at told

/-- The progress of a run is about its release. -/
theorem concerns_course (t : Tree) (c : Config) (h : Collaborators) :
    Event.Concerns c.release (course t c h).events := by
  cases e : (find t c h).verdict with
  | error f =>
    rw [course_of_error e]
    exact Finding.concerns_events c _
  | ok stays =>
    cases stays with
    | true =>
      rw [course_of_stays e]
      exact (Finding.concerns_events c _).append
        (concerns_progressEvents (by simp [Release.progress]) _)
    | false =>
      rw [course_of_goes e]
      exact (Finding.concerns_events c _).append
        ((concerns_requested c h).append (Delivery.concerns_events t c _))

/-- What a run says even when it is quiet. -/
def alwaysSaid : Except Failure Outcome → List String
  | .ok (.mismatch actual expected) => (Notice.mismatch actual expected).lines
  | _ => []

/-- **A quiet run says nothing but that a checksum does not match.** -/
theorem lines_hushed (t : Tree) (c : Config) (h : Collaborators) :
    Event.lines (course t c.hushed h).events = alwaysSaid (course t c.hushed h).result := by
  have found : Event.lines ((find t c.hushed h).events c.hushed) = [] := by
    cases find t c.hushed h <;> rfl
  cases e : (find t c.hushed h).verdict with
  | error f =>
    rw [course_of_error e]
    exact found
  | ok stays =>
    cases stays with
    | true =>
      rw [course_of_stays e, Event.lines_append, found]
      rfl
    | false =>
      have asked : Event.lines (requested c.hushed h) = [] := by
        rw [requested, Event.lines_append, Event.lines_cons rfl, Event.lines_map_logged]
        rfl
      rw [course_of_goes e, Event.lines_append, Event.lines_append, found, asked]
      cases deliver t c.hushed h <;> rfl

/-! ## 4. The two runs compared -/

/-- **Quiet changes nothing but progress.**  The same run is made twice, once loud and once quiet.

Results, trees, records, commands and URLs are the same.  The lines of the quiet run are those of
the loud run, in order, without the lines of progress; and that leaves the four lines about the
checksum when the outcome is that it does not match, and else nothing. -/
theorem quiet_drops_progress (t : Tree) (c : Config) (h : Collaborators) :
    let loud := observed t c.loud h
    let hushed := observed t c.hushed h
    let rest := loud.2.lines.filter fun l => l ∉ c.release.progressLines
    hushed.1 = loud.1 ∧ hushed.2.tree = loud.2.tree ∧ hushed.2.records = loud.2.records ∧
      hushed.2.calls = loud.2.calls ∧ hushed.2.urls = loud.2.urls ∧
      loud.2.out = Writer.lineOctets loud.2.lines ∧ hushed.2.out = Writer.lineOctets rest ∧
      rest = alwaysSaid loud.1 := by
  intro loud hushed rest
  have same : course t c.hushed h = _ := course_hushed t c h
  have lines : rest = Event.lines (course t c.hushed h).events := by
    rw [same, Event.lines_filter_audible (concerns_course t c.loud h), ← lines_observed]
    rfl
  have events : hushed.2.events = loud.2.events.filter Event.audible := by
    rw [events_observed, events_observed, same]
  refine ⟨?_, ?_, ?_, ?_, ?_, ?_, ?_, ?_⟩
  · rw [result_observed, result_observed, same]
  · rw [tree_observed, tree_observed, same]
  · rw [Scene.records, events, Event.filterMap_filter_audible fun _ => rfl, Scene.records]
  · rw [Scene.calls, events, Event.filterMap_filter_audible fun _ => rfl, Scene.calls]
  · rw [Scene.urls, events, Event.filterMap_filter_audible fun _ => rfl, Scene.urls]
  · rw [out_observed, lines_observed]
  · rw [out_observed, lines]
  · rw [lines, lines_hushed, result_observed, same]

end Run

end PinnedFetch
