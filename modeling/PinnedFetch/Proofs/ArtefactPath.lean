/-
# Where the artefact is kept

The artefact's path is a name put behind a directory, and two things are asked of it: running it
must never search for a command, and it must say which directory was meant.  Both come from one
fact about `join` (`exists_stem`): behind a directory that is not empty stands exactly one slash,
the directory's own or the one that is put there.  So the steps of the directory are followed by
those of the name (`components_join`).  The steps of the name are a common end, and cancelling it
leaves the directories (`same_join_iff`).

An empty directory has no steps and is the only path without any (`components_eq_nil_iff`), so it
stands apart from all the others until a dot takes its place.
-/
import PinnedFetch.Proofs.Acceptance

namespace PinnedFetch

namespace Path

/-! ## 1. Steps

The steps of a path are those of its segments, behind what its first segment alone decides. -/

/-- The step that only the start of a path can be: the root, or a dot. -/
def lead (p : String) : List Component :=
  if isAbsolute p then [.root] else if (segments p).head? = some ['.'] then [.here] else []

/-- The steps of the segments. -/
def steps (p : String) : List Component := (segments p).filterMap step?

theorem components_eq (p : String) : components p = lead p ++ steps p := by
  unfold components lead
  split
  · rfl
  · split <;> rfl

theorem same_iff {p q : String} : same p q = true ↔ components p = components q :=
  decide_eq_true_iff

theorem step?_eq_none_iff {segment : List Char} :
    step? segment = none ↔ segment = [] ∨ segment = ['.'] := by
  unfold step?
  split
  · rename_i silent
    exact iff_of_true rfl silent
  · rename_i speaks
    refine iff_of_false ?_ speaks
    split <;> simp

/-- **The empty path is the only one without steps.** -/
theorem components_eq_nil_iff {p : String} : components p = [] ↔ p = "" := by
  constructor
  · intro none
    rw [components_eq, List.append_eq_nil_iff] at none
    obtain ⟨unled, unstepped⟩ := none
    cases chars : p.toList with
    | nil => exact String.toList_eq_nil_iff.mp chars
    | cons c cs =>
      have relative : c ≠ '/' := by
        rintro rfl
        simp [lead, isAbsolute, chars] at unled
      obtain ⟨f, fs, -, cut⟩ := Text.fields_cons_of_ne relative cs
      have first : segments p = (c :: f) :: fs := by rw [segments, chars, cut]
      -- A segment with a character in it is a step, or it is the dot that leads.
      have silent : step? (c :: f) = none :=
        List.filterMap_eq_nil_iff.mp unstepped (c :: f) (first ▸ List.mem_cons_self)
      rcases step?_eq_none_iff.mp silent with empty | dot
      · exact absurd empty (List.cons_ne_nil c f)
      · simp [lead, isAbsolute, chars, relative, first, dot] at unled
  · rintro rfl
    rfl

/-! ## 2. A name behind a directory -/

section Join

variable {dir name : String}

theorem join_of_isAbsolute (absolute : isAbsolute name = true) : join dir name = name :=
  if_pos absolute

/-- **Behind a directory stands one slash**, its own or the one put there. -/
theorem exists_stem (given : dir ≠ "") :
    ∃ stem, (dir.toList = stem ∧ stem ≠ [] ∨ dir.toList = stem ++ ['/']) ∧
      ∀ name, isAbsolute name = false → (join dir name).toList = stem ++ '/' :: name.toList := by
  by_cases closed : endsInSlash dir = true
  · obtain ⟨stem, chars⟩ := List.getLast?_eq_some_iff.mp (of_decide_eq_true closed)
    refine ⟨stem, .inr chars, ?_⟩
    intro name relative
    simp [join, relative, closed, String.toList_append, chars]
  · have nonempty : dir.toList ≠ [] := mt String.toList_eq_nil_iff.mp given
    refine ⟨dir.toList, .inl ⟨rfl, nonempty⟩, ?_⟩
    intro name relative
    simp [join, relative, closed, given, String.toList_append]

theorem slash_mem_join (given : dir ≠ "") : '/' ∈ (join dir name).toList := by
  by_cases absolute : isAbsolute name = true
  · rw [join_of_isAbsolute absolute]
    exact List.mem_of_head? (of_decide_eq_true absolute)
  · obtain ⟨stem, -, written⟩ := exists_stem given
    rw [written name (Bool.eq_false_iff.mpr absolute)]
    exact List.mem_append_right stem List.mem_cons_self

variable (given : dir ≠ "") (relative : isAbsolute name = false)
include given relative

theorem isAbsolute_join : isAbsolute (join dir name) = isAbsolute dir := by
  obtain ⟨stem, shape, written⟩ := exists_stem given
  rw [isAbsolute, isAbsolute, written name relative]
  rcases shape with ⟨chars, named⟩ | chars
  · rw [chars, List.head?_append_of_ne_nil _ named]
  · rw [chars, List.head?_append, List.head?_append]
    rfl

/-- The segments of the directory stay, up to an empty one that ends them. -/
theorem exists_segments : ∃ front, front ≠ [] ∧ segments (join dir name) = front ++ segments name ∧
    (segments dir = front ∨ segments dir = front ++ [[]]) := by
  obtain ⟨stem, shape, written⟩ := exists_stem given
  refine ⟨Text.fields '/' stem, Text.fields_ne_nil '/' stem, ?_, ?_⟩
  · rw [segments, written name relative, Text.fields_append_sep]
    rfl
  · rcases shape with ⟨chars, -⟩ | chars
    · exact .inl (congrArg (Text.fields '/') chars)
    · right
      rw [segments, chars, Text.fields_append_sep]
      rfl

theorem lead_join : lead (join dir name) = lead dir := by
  obtain ⟨front, nonempty, both, alone⟩ := exists_segments given relative
  have first : (segments (join dir name)).head? = (segments dir).head? := by
    rw [both, List.head?_append_of_ne_nil _ nonempty]
    rcases alone with alone | alone
    · rw [alone]
    · rw [alone, List.head?_append_of_ne_nil _ nonempty]
  rw [lead, lead, isAbsolute_join given relative, first]

/-- What the segments give, one after another, when an empty segment gives nothing. -/
theorem filterMap_segments_join {α : Type} {f : List Char → Option α} (silent : f [] = none) :
    (segments (join dir name)).filterMap f =
      (segments dir).filterMap f ++ (segments name).filterMap f := by
  obtain ⟨front, -, both, alone⟩ := exists_segments given relative
  have same : (segments dir).filterMap f = front.filterMap f := by
    rcases alone with alone | alone
    · rw [alone]
    · rw [alone, List.filterMap_append, List.filterMap_cons_none silent]
      exact List.append_nil _
  rw [both, List.filterMap_append, same]

theorem steps_join : steps (join dir name) = steps dir ++ steps name :=
  filterMap_segments_join given relative rfl

/-- **The steps of a directory, then those of the name behind it.** -/
theorem components_join : components (join dir name) = components dir ++ steps name := by
  rw [components_eq, lead_join given relative, steps_join given relative, components_eq,
    List.append_assoc]

end Join

/-- **Directories with one name behind them are the same when they were before.** -/
theorem same_join_iff {a b name : String} (ha : a ≠ "") (hb : b ≠ "")
    (relative : isAbsolute name = false) :
    same (join a name) (join b name) = true ↔ same a b = true := by
  rw [same_iff, same_iff, components_join ha relative, components_join hb relative]
  exact List.append_left_inj (steps name)

end Path

/-! ## 3. The commands of a run -/

namespace Run

variable {t : Tree} {c : Config} {h : Collaborators}

theorem call?_progressEvents (quiet : Bool) (n : Notice) :
    (progressEvents quiet n).filterMap Event.call? = [] := by
  cases quiet <;> rfl

theorem Finding.call?_events {f : Finding} (fs : Finds t c h f) :
    (f.events c).filterMap Event.call? =
      if t.isThere c.path then [versionCall c.path] else [] := by
  have once (there : t.isThere c.path = true) : (asked c.path).filterMap Event.call? =
      if t.isThere c.path then [versionCall c.path] else [] := (if_pos there).symm
  cases fs with
  | missing gone => simp [events, Event.call?, gone]
  | unanswered silent => exact once silent.there
  | unreadable unread => exact once unread.reports.there
  | otherVersion reports | trusted reports | intact reports => exact once reports.there
  | otherOctets reports =>
    have stale : (progressEvents c.quiet (.stale c.release.fileName)).filterMap Event.call? = [] :=
      call?_progressEvents c.quiet _
    rw [events, List.filterMap_append, once reports.there, List.filterMap_cons_none rfl, stale,
      List.append_nil]

theorem Delivery.call?_events (d : Delivery) : (d.events t c).filterMap Event.call? = [] := by
  cases d with
  | placed bytes l => exact call?_progressEvents c.quiet .verified
  | _ => rfl

theorem call?_requested : (requested c h).filterMap Event.call? = [] := by
  have records : ((h.fetch c.release.url).records.map Event.logged).filterMap Event.call? = [] := by
    simp [List.filterMap_map, Function.comp_def, Event.call?]
  rw [requested, List.filterMap_append, call?_progressEvents, List.filterMap_cons_none rfl, records,
    List.append_nil]

/-- **A run executes the artefact, once, if there is one, and nothing else.** -/
theorem calls_perform {σ : Type} (w : Writer σ) (c : Config) (h : Collaborators) (s : Scene σ) :
    (perform w c h s).2.calls =
      s.calls ++ if s.tree.isThere c.path then [versionCall c.path] else [] := by
  have found := Finding.call?_events (finds_find s.tree c h)
  have course : (course s.tree c h).events.filterMap Event.call? =
      if s.tree.isThere c.path then [versionCall c.path] else [] := by
    cases verdict : (find s.tree c h).verdict with
    | error f => rw [course_of_error verdict, found]
    | ok stays =>
      cases stays with
      | true =>
        rw [course_of_stays verdict, List.filterMap_append, found, call?_progressEvents,
          List.append_nil]
      | false =>
        rw [course_of_goes verdict, List.filterMap_append, List.filterMap_append, found,
          call?_requested, Delivery.call?_events, List.append_nil, List.append_nil]
  rw [perform_eq, Scene.calls, Scene.after, List.filterMap_append, course, Scene.calls]

end Run

/-! ## 4. The path of a configuration -/

namespace Config

/-- The directory that the artefact's name is put behind: a dot stands in for an empty one. -/
def base (c : Config) : String := if c.dir.isEmpty then "." else c.dir

theorem path_eq (c : Config) : c.path = Path.join c.base c.release.fileName := rfl

theorem base_ne_empty (c : Config) : c.base ≠ "" := by
  by_cases empty : c.dir = "" <;> simp [base, empty]

/-- Directories that are the same stay so when a dot stands in for an empty one. -/
theorem same_base {a b : Config} (dirs : Path.same a.dir b.dir = true) :
    Path.same a.base b.base = true := by
  have empty : a.dir = "" ↔ b.dir = "" := by
    rw [← Path.components_eq_nil_iff, ← Path.components_eq_nil_iff, Path.same_iff.mp dirs]
  unfold base
  by_cases ea : a.dir = ""
  · simp [ea, empty.mp ea, Path.same]
  · simpa [ea, mt empty.mpr ea] using dirs

/-- **The path of the artefact says where it is.**  It has a slash in it, and is all that a run
executes, so no command is searched for.  Behind a relative name's paths stand the same directories
exactly when the paths are the same; directories that are the same give the same path, and so do
the empty one and the dot.  A name that starts at the root is the path, whatever the directory. -/
theorem path_tells_dir :
    (∀ c : Config, '/' ∈ c.path.toList ∧
      ∀ {σ : Type} (w : Writer σ) (h : Collaborators) (s : Scene σ),
        (Run.perform w c h s).2.calls =
          s.calls ++ if s.tree.isThere c.path then [⟨c.path, ["--version"]⟩] else []) ∧
    (∀ a b : Config, a.release.fileName = b.release.fileName →
      Path.isAbsolute a.release.fileName = false →
      (Path.same a.path b.path = true ↔ Path.same a.base b.base = true)) ∧
    (∀ a b : Config, a.release.fileName = b.release.fileName →
      Path.same a.dir b.dir = true → Path.same a.path b.path = true) ∧
    (∀ c : Config, ({ c with dir := "" } : Config).path = ({ c with dir := "." } : Config).path) ∧
    ∀ c : Config, Path.isAbsolute c.release.fileName = true → c.path = c.release.fileName := by
  have behind : ∀ a b : Config, a.release.fileName = b.release.fileName →
      Path.isAbsolute a.release.fileName = false →
      (Path.same a.path b.path = true ↔ Path.same a.base b.base = true) := by
    intro a b names relative
    rw [path_eq, path_eq, ← names]
    exact Path.same_join_iff a.base_ne_empty b.base_ne_empty relative
  have alone : ∀ c : Config, Path.isAbsolute c.release.fileName = true →
      c.path = c.release.fileName := by
    intro c absolute
    exact Path.join_of_isAbsolute absolute
  refine ⟨?_, behind, ?_, fun c => rfl, alone⟩
  · intro c
    refine ⟨Path.slash_mem_join c.base_ne_empty, ?_⟩
    intro σ w h s
    exact Run.calls_perform w c h s
  · intro a b names dirs
    cases absolute : Path.isAbsolute a.release.fileName with
    | true => rw [alone a absolute, alone b (names ▸ absolute), names, Path.same_iff]
    | false => exact (behind a b names absolute).mpr (same_base dirs)

/-- Behind a directory, more slashes and a dot say nothing; two dots do, and so does a dot at the
start. -/
example : Path.same "tools/./waf" "tools//waf" = true ∧ Path.same "tools/../waf" "waf" = false ∧
    Path.same "./waf" "waf" = false := by decide

end Config

end PinnedFetch
