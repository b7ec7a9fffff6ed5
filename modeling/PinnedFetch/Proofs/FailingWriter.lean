/-
# Writers that fail

A run hands its notices to a writer and never hears what became of them.  All else that it does is
its course, in which no writer has a part: the result, the tree and the events of two runs are the
same whatever the writers are (`perform_events` and its neighbours), and be it that one of them
fails at the first octet.

What a writer holds after a run is settled by the lines of the run.  If it has room for `n` octets
and fails from there on, it holds the first `n` octets of what a writer without bounds would hold,
by `Writer.Fills.held_lines`: a line that is cut, and all the lines that are tried after it, add
nothing behind the cut.
-/
import PinnedFetch.Proofs.Acceptance
import PinnedFetch.Proofs.Observed

namespace PinnedFetch

/-! ## 1. Room for some octets -/

/-- A writer that is empty at first holds the first octets of its lines, as many as it has room for
or as there are. -/
theorem Writer.Fills.held_lines_fresh {σ : Type} {w : Writer σ} {held : σ → Bytes} {n : Nat}
    (fills : w.Fills held n) {o : σ} (fresh : held o = []) (ts : List String) :
    held (w.lines o ts) = (lineOctets ts).take (min n (lineOctets ts).length) := by
  rw [fills.held_lines o ts (by simp [fresh]), fresh, List.nil_append, ← List.take_eq_take_min]

namespace Run

/-! ## 2. Runs that differ in their writers -/

section Told

variable {σ : Type} (w : Writer σ) (c : Config) (h : Collaborators) (s : Scene σ)

theorem perform_result : (perform w c h s).1 = (course s.tree c h).result := by
  rw [perform_eq]

theorem perform_tree : (perform w c h s).2.tree = (course s.tree c h).tree := by
  rw [perform_eq, Scene.tree_after]

theorem perform_events :
    (perform w c h s).2.events = s.events ++ (course s.tree c h).events := by
  rw [perform_eq]
  rfl

/-- The writer is given the lines of the course, and nothing else. -/
theorem perform_out :
    (perform w c h s).2.out = w.lines s.out (Event.lines (course s.tree c h).events) := by
  rw [perform_eq]
  rfl

end Told

/-- **Writers that fail do no harm, and what they hold is a beginning.**  The same run is made with
two writers, of which nothing is known.  Its result, the tree it leaves and all that happens are
the same, and so are the records, the commands and the URLs.

If the first writer is empty and has room for `n` octets in all, then after the first `k` of any
lines it holds the first `n` octets of these lines with their ends, or all of them if they are
fewer; and after the run, as much of what a writer holds that takes everything. -/
theorem writer_inert {σ τ : Type} (w : Writer σ) (o : σ) (v : Writer τ) (u : τ) (t : Tree)
    (c : Config) (h : Collaborators) :
    let run := perform w c h { tree := t, out := o }
    let other := perform v c h { tree := t, out := u }
    let whole := (perform .unbounded c h { tree := t, out := [] }).2.out
    (run.1 = other.1 ∧ run.2.tree = other.2.tree ∧ run.2.events = other.2.events ∧
      run.2.records = other.2.records ∧ run.2.calls = other.2.calls ∧
      run.2.urls = other.2.urls) ∧
    ∀ (held : σ → Bytes) (n : Nat), w.Fills held n → held o = [] →
      (∀ (ts : List String) (k : Nat), held (w.lines o (ts.take k)) =
        (Writer.lineOctets (ts.take k)).take (min n (Writer.lineOctets (ts.take k)).length)) ∧
      held run.2.out = whole.take (min n whole.length) := by
  intro run other whole
  have events : run.2.events = other.2.events := by
    rw [perform_events, perform_events]
  refine ⟨⟨?_, ?_, events, ?_, ?_, ?_⟩, ?_⟩
  · rw [perform_result, perform_result]
  · rw [perform_tree, perform_tree]
  · rw [Scene.records, events, Scene.records]
  · rw [Scene.calls, events, Scene.calls]
  · rw [Scene.urls, events, Scene.urls]
  · intro held n fills fresh
    have all : whole = Writer.lineOctets (Event.lines (course t c h).events) :=
      out_observed t c h
    refine ⟨fun ts k => fills.held_lines_fresh fresh (ts.take k), ?_⟩
    rw [all, perform_out]
    exact fills.held_lines_fresh fresh _

/-- A writer with room for twelve octets is cut off inside the one line of a run. -/
theorem writer_inert_twelve :
    (Writer.bounded 12).Fills id 12 ∧
      (perform (.bounded 12) {} saysPinned { tree := oneOctetThere, out := [] }).2.out =
        Bytes.ofText "Found 'waf'," := by
  have fills := Writer.fills_bounded 12
  obtain ⟨-, holds⟩ := writer_inert (.bounded 12) [] .unbounded [] oneOctetThere {} saysPinned
  have out := (holds id 12 fills rfl).2
  refine ⟨fills, out.trans ?_⟩
  decide +kernel

end Run

end PinnedFetch
