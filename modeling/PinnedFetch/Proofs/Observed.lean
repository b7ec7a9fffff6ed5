/-
# A run, observed

A run is observed by making it in a tree with a writer that takes everything: `observed`.  The
output is then the lines of the notices, in order, and nothing else (`observed_eq`), so what holds
of the notices of a course holds of the octets that a person sees.

The lines can be told apart as texts.  Each kind of notice begins in its own way
(`Notice.initials`), whatever the name, the URL or the digests in it are, so no line of one kind is
a line of another (`Notice.not_mem_lines`).
-/
import PinnedFetch.Proofs.Verdict

namespace PinnedFetch

/-! ## 1. Lines -/

theorem Event.lines_append (es fs : List Event) :
    Event.lines (es ++ fs) = Event.lines es ++ Event.lines fs := by
  simp [Event.lines]

@[simp] theorem Event.lines_told (n : Notice) (es : List Event) :
    Event.lines (.told n :: es) = n.lines ++ Event.lines es := rfl

/-- An event that is no notice has no line. -/
theorem Event.lines_cons {e : Event} (h : e.notice? = none) (es : List Event) :
    Event.lines (e :: es) = Event.lines es := by
  simp [Event.lines, h]

theorem Event.lines_map_logged (rs : List Log.Record) : Event.lines (rs.map .logged) = [] := by
  simp [Event.lines, List.filterMap_map, Function.comp_def, Event.notice?]

namespace Notice

/-- The first letters of the lines of a notice. -/
@[simp] def initials : Notice → List Char
  | downloading _ => ['D']
  | kept _ => ['F']
  | stale _ => ['E']
  | verified => ['C']
  | mismatch _ _ => ['T', ' ', 'P']

/-- A line begins with a letter of its notice. -/
theorem head?_of_mem_lines {n : Notice} {l : String} (h : l ∈ n.lines) :
    ∃ i ∈ n.initials, l.toList.head? = some i := by
  cases n with
  | mismatch actual expected =>
    simp only [lines, List.mem_cons, List.not_mem_nil, or_false] at h
    rcases h with rfl | rfl | rfl | rfl
    · exact ⟨'T', by simp, by simp⟩
    · exact ⟨' ', by simp, by simp⟩
    · exact ⟨' ', by simp, by simp⟩
    · exact ⟨'P', by simp, by simp⟩
  | _ =>
    simp only [lines, List.mem_singleton] at h
    subst h
    exact ⟨_, List.mem_singleton_self _, by simp [toString]⟩

/-- No line of the one begins like a line of the other. -/
@[simp] def Apart (n m : Notice) : Prop := ∀ i ∈ n.initials, i ∉ m.initials

/-- **A line of one kind is no line of another.** -/
theorem not_mem_lines {n m : Notice} (apart : n.Apart m) {l : String} (h : l ∈ n.lines) :
    l ∉ m.lines := by
  intro h'
  obtain ⟨i, hi, e⟩ := head?_of_mem_lines h
  obtain ⟨j, hj, e'⟩ := head?_of_mem_lines h'
  have same : i = j := Option.some.inj (e.symm.trans e')
  exact apart i hi (same ▸ hj)

/-- Four lines about two digests are about no other two. -/
theorem mismatch_lines_inj {actual expected actual' expected' : Digest}
    (e : (mismatch actual expected).lines = (mismatch actual' expected').lines) :
    actual = actual' ∧ expected = expected' := by
  simp only [lines, List.cons.injEq, String.append_right_inj] at e
  exact ⟨Digest.text_inj e.2.1, Digest.text_inj e.2.2.1⟩

end Notice

namespace Run

/-! ## 2. The observed run -/

/-- A run in a tree, with a writer that takes everything. -/
def observed (t : Tree) (c : Config) (h : Collaborators) : Except Failure Outcome × Scene Bytes :=
  perform .unbounded c h { tree := t, out := [] }

/-- **What is observed of a run is its course,** and the lines of its notices as output. -/
theorem observed_eq (t : Tree) (c : Config) (h : Collaborators) :
    observed t c h =
      ((course t c h).result,
        { tree := (course t c h).tree
          out := Writer.lineOctets (Event.lines (course t c h).events)
          events := (course t c h).events }) := by
  simp only [observed, perform_eq, Scene.after, Writer.lines_unbounded, List.nil_append]

section Views

variable (t : Tree) (c : Config) (h : Collaborators)

@[simp] theorem result_observed : (observed t c h).1 = (course t c h).result := by
  rw [observed_eq]

@[simp] theorem tree_observed : (observed t c h).2.tree = (course t c h).tree := by
  rw [observed_eq]

@[simp] theorem events_observed : (observed t c h).2.events = (course t c h).events := by
  rw [observed_eq]

@[simp] theorem out_observed :
    (observed t c h).2.out = Writer.lineOctets (Event.lines (course t c h).events) := by
  rw [observed_eq]

theorem lines_observed : (observed t c h).2.lines = Event.lines (course t c h).events := by
  rw [observed_eq]
  rfl

end Views

end Run

end PinnedFetch
