/-
# The command line and its grammar

Settings are obeyed one after another, and each is refused that may be set once and is set already
(`Amounts.obey`).  What is left when none was refused depends on which settings there are and how
often, and not on their order (`Allowed.ofSettings_eq`).  With the arguments read as the grammar
spells them the command line accepts its grammar and nothing else, and the same settings mean the
same in any order and in any spelling (`read_grammar`).
-/
import PinnedFetch.Proofs.Spelling

namespace PinnedFetch.Args

/-! ## 1. What is set in the end -/

/-- What has been read is what the settings amount to. -/
structure Amounts (r : Reading) (ss : List Setting) : Prop where
  dir : r.dir = (dirs ss).head?
  quiet : r.quiet = decide (.quiet ∈ ss)
  verbosity : r.verbosity = min 255 (ss.count .verbose)
  verifyExisting : r.verifyExisting = decide (.verifyExisting ∈ ss)
  settled : r.pending = .nothing

theorem amounts_nil : Amounts {} [] where
  dir := rfl
  quiet := rfl
  verbosity := rfl
  verifyExisting := rfl
  settled := rfl

theorem Once.of_append {ss ts : List Setting} (once : Once (ss ++ ts)) : Once ss where
  dir := by
    have h := once.dir
    rw [dirs, List.filterMap_append, List.length_append] at h
    exact Nat.le_of_add_right_le h
  quiet := by
    have h := once.quiet
    rw [List.count_append] at h
    exact Nat.le_of_add_right_le h
  verifyExisting := by
    have h := once.verifyExisting
    rw [List.count_append] at h
    exact Nat.le_of_add_right_le h

@[simp] theorem dirs_append (ss ts : List Setting) : dirs (ss ++ ts) = dirs ss ++ dirs ts :=
  List.filterMap_append

@[simp] theorem dirs_singleton (s : Setting) : dirs [s] = s.dir?.toList := by
  cases s <;> rfl

/-- Whether a setting may stand behind others is seen from the setting. -/
theorem once_append_singleton {ss : List Setting} (once : Once ss) (x : Setting) :
    Once (ss ++ [x]) ↔ match x with
      | .dir _ => dirs ss = []
      | .quiet => .quiet ∉ ss
      | .verbose => True
      | .verifyExisting => .verifyExisting ∉ ss := by
  obtain ⟨dir, quiet, verifyExisting⟩ := once
  cases x with
  | dir v =>
    constructor
    · intro h
      simpa using h.dir
    · intro fresh
      exact ⟨by simp [fresh], by simpa [List.count_append] using quiet,
        by simpa [List.count_append] using verifyExisting⟩
  | quiet =>
    constructor
    · intro h
      simpa [List.count_append, List.count_eq_zero] using h.quiet
    · intro fresh
      exact ⟨by simpa using dir, by simp [List.count_append, List.count_eq_zero.mpr fresh],
        by simpa [List.count_append] using verifyExisting⟩
  | verbose =>
    exact iff_of_true ⟨by simpa using dir, by simpa [List.count_append] using quiet,
      by simpa [List.count_append] using verifyExisting⟩ trivial
  | verifyExisting =>
    constructor
    · intro h
      simpa [List.count_append, List.count_eq_zero] using h.verifyExisting
    · intro fresh
      exact ⟨by simpa using dir, by simpa [List.count_append] using quiet,
        by simp [List.count_append, List.count_eq_zero.mpr fresh]⟩

/-- **One setting.**  It is refused when it may be set once and is set already. -/
theorem Amounts.obey {r : Reading} {ss : List Setting} (amounts : Amounts r ss) (once : Once ss)
    (x : Setting) :
    (Once (ss ++ [x]) ∧ ∃ s, r.obey x = .ok s ∧ Amounts s (ss ++ [x])) ∨
      (¬Once (ss ++ [x]) ∧ ∃ stop, r.obey x = .error stop) := by
  have settled (f : Reading → Except Stop Reading) : r.settle >>= f = f r :=
    congrArg (· >>= f) (Reading.settle_of_nothing amounts.settled)
  obtain ⟨dir, quiet, verbosity, verifyExisting, idle⟩ := amounts
  rw [once_append_singleton once]
  cases x with
  | dir v =>
    have act : r.obey (.dir v) = if r.dir.isSome then r.refuse (.repeated .dir) else
        .ok { r with dir := some v, seen := r.seen ++ [.dir], pending := .nothing } := by
      rw [Reading.obey, Reading.setAttached, settled, Reading.setDir,
        Utf8.text_eq_ok_iff.mpr rfl]
    cases set : dirs ss with
    | nil =>
      refine Or.inl ⟨rfl, _, act.trans (if_neg (by simp [dir, set])), ?_⟩
      exact ⟨by simp [set], by simp [quiet], by simp [verbosity, List.count_append],
        by simp [verifyExisting], rfl⟩
    | cons w ws => exact Or.inr ⟨by simp, _, act.trans (if_pos (by simp [dir, set]))⟩
  | quiet =>
    have act : r.obey .quiet = if r.quiet then r.refuse (.repeated .quiet) else
        .ok { r with quiet := true, seen := r.seen ++ [.quiet] } := settled _
    by_cases set : .quiet ∈ ss
    · exact Or.inr ⟨by simpa using set, _, act.trans (if_pos (by simp [quiet, set]))⟩
    · refine Or.inl ⟨set, _, act.trans (if_neg (by simp [quiet, set])), ?_⟩
      exact ⟨by simp [dir], by simp, by simp [verbosity, List.count_append],
        by simp [verifyExisting], idle⟩
  | verbose =>
    have act : r.obey .verbose = .ok { r with
        verbosity := min 255 (r.verbosity + 1)
        seen := r.seen.filter (· ≠ .verbose) ++ [.verbose] } := settled _
    refine Or.inl ⟨trivial, _, act, ?_⟩
    refine ⟨by simp [dir], by simp [quiet], ?_, by simp [verifyExisting], idle⟩
    simp only [verbosity, List.count_append, List.count_singleton_self]
    omega
  | verifyExisting =>
    have act : r.obey .verifyExisting =
        if r.verifyExisting then r.refuse (.repeated .verifyExisting) else
        .ok { r with verifyExisting := true, seen := r.seen ++ [.verifyExisting] } := settled _
    by_cases set : .verifyExisting ∈ ss
    · exact Or.inr ⟨by simpa using set, _, act.trans (if_pos (by simp [verifyExisting, set]))⟩
    · refine Or.inl ⟨set, _, act.trans (if_neg (by simp [verifyExisting, set])), ?_⟩
      exact ⟨by simp [dir], by simp [quiet], by simp [verbosity, List.count_append],
        by simp, idle⟩

/-- **All settings.**  The induction is on those to come, `ss` are those that have been read. -/
theorem Amounts.obeyAll {r : Reading} {ss : List Setting} (amounts : Amounts r ss) (once : Once ss)
    (ts : List Setting) :
    (Once (ss ++ ts) ∧ ∃ s, r.obeyAll ts = .ok s ∧ Amounts s (ss ++ ts)) ∨
      (¬Once (ss ++ ts) ∧ ∃ stop, r.obeyAll ts = .error stop) := by
  induction ts generalizing r ss with
  | nil =>
    rw [List.append_nil]
    exact Or.inl ⟨once, r, rfl, amounts⟩
  | cons x ts ih =>
    have step : r.obeyAll (x :: ts) = r.obey x >>= Reading.obeyAll ts := rfl
    rw [List.append_cons, step]
    obtain ⟨once, s, act, amounts⟩ | ⟨again, stop, act⟩ := amounts.obey once x
    · rw [act]
      exact ih amounts once
    · rw [act]
      exact Or.inr ⟨fun once => again once.of_append, stop, rfl⟩

/-! ## 2. What is accepted -/

theorem once_nil : Once [] where
  dir := Nat.zero_le 1
  quiet := Nat.zero_le 1
  verifyExisting := Nat.zero_le 1

/-- Settings are refused when one of them is set too often; otherwise the reading has what they
amount to. -/
theorem finish_cases (ss : List Setting) :
    (Once ss ∧ ∃ s, Reading.finish ss {} = .ok s ∧ Amounts s ss) ∨
      (¬Once ss ∧ ∃ stop, Reading.finish ss {} = .error stop) := by
  obtain ⟨once, s, act, amounts⟩ | ⟨again, stop, act⟩ := amounts_nil.obeyAll once_nil ss
  · refine Or.inl ⟨once, s, ?_, amounts⟩
    rw [Reading.finish, act]
    exact Reading.settle_of_nothing amounts.settled
  · exact Or.inr ⟨again, stop, by rw [Reading.finish, act]; rfl⟩

/-- Quiet and verbose exclude each other, and nothing else does. -/
theorem Amounts.conflict {r : Reading} {ss : List Setting} (amounts : Amounts r ss) :
    conflict? r = none ↔ ¬(.quiet ∈ ss ∧ .verbose ∈ ss) := by
  have loud : 0 < r.verbosity ↔ .verbose ∈ ss := by
    rw [amounts.verbosity, ← List.count_pos_iff]
    omega
  have both : (r.quiet = true ∧ 0 < r.verbosity) ↔ .quiet ∈ ss ∧ .verbose ∈ ss := by
    rw [loud, amounts.quiet, decide_eq_true_iff]
  rw [← both, conflict?]
  split
  · rename_i clash
    refine iff_of_false ?_ (not_not_intro clash)
    split <;> simp
  · rename_i clear
    exact iff_of_true rfl clear

/-- **A command line of the grammar is accepted when its settings may stand together, and gives what
they amount to.** -/
theorem read_commandLine {items : List Item} {ended : Bool} {a : Args} :
    read (commandLine items ended) = .ok a ↔
      Allowed (settings items) ∧ a = ofSettings (settings items) := by
  rw [read, readAll_commandLine]
  obtain ⟨once, s, act, amounts⟩ | ⟨again, stop, stopped⟩ := finish_cases (settings items)
  · have whole : ofSettings (settings items) =
        ⟨s.dir.getD ".", s.quiet, s.verbosity, s.verifyExisting⟩ := by
      rw [ofSettings, amounts.dir, amounts.quiet, amounts.verbosity, amounts.verifyExisting]
    rw [act, whole]
    cases clash : conflict? s with
    | none =>
      have exclusive := amounts.conflict.mp clash
      simp only [bind, Except.bind, clash, Except.ok.injEq]
      exact ⟨fun same => ⟨⟨once, exclusive⟩, same.symm⟩, fun h => h.2.symm⟩
    | some pair =>
      refine iff_of_false ?_ fun h => ?_
      · simp [bind, Except.bind, clash, Reading.refuse]
      · rw [amounts.conflict.mpr h.1.exclusive] at clash
        exact absurd clash (by simp)
  · refine iff_of_false ?_ fun h => again h.1.toOnce
    rw [stopped]
    simp [bind, Except.bind]

/-- Whatever is accepted is a command line of the grammar. -/
theorem commandLine_of_read {args : List Bytes} {a : Args} (h : read args = .ok a) :
    ∃ items ended, args = commandLine items ended := by
  obtain ⟨r, whole, -⟩ := bind_eq_ok h
  exact (commandLine_of_readAll whole).1 (by simp)

/-! ## 3. Order and spelling -/

section Order

variable {ss ts : List Setting}

theorem Allowed.perm (order : ss.Perm ts) (allowed : Allowed ss) : Allowed ts where
  dir := (order.filterMap Setting.dir?).length_eq ▸ allowed.dir
  quiet := order.count_eq _ ▸ allowed.quiet
  verifyExisting := order.count_eq _ ▸ allowed.verifyExisting
  exclusive := by
    rw [← order.mem_iff, ← order.mem_iff]
    exact allowed.exclusive

/-- One directory at most is the same in any order. -/
theorem Allowed.dirs_eq (allowed : Allowed ss) (order : ss.Perm ts) : dirs ss = dirs ts := by
  have moved : (dirs ss).Perm (dirs ts) := order.filterMap Setting.dir?
  have few := allowed.dir
  cases set : dirs ss with
  | nil => exact (List.nil_perm.mp (set ▸ moved)).symm
  | cons v vs =>
    rw [set] at moved few
    obtain rfl : vs = [] := List.length_eq_zero_iff.mp (by simpa using few)
    exact List.singleton_perm.mp moved

theorem Allowed.ofSettings_eq (allowed : Allowed ss) (order : ss.Perm ts) :
    ofSettings ss = ofSettings ts := by
  simp only [ofSettings, allowed.dirs_eq order, order.mem_iff, order.count_eq]

end Order

/-- The log filter by how often it was asked to say more. -/
theorem logSpec_ofSettings (ss : List Setting) :
    (ofSettings ss).logSpec = ["warn", "info", "debug"].getD (ss.count .verbose) "trace" := by
  have capped : (ofSettings ss).verbosity = min 255 (ss.count .verbose) := rfl
  rw [logSpec, capped]
  generalize ss.count .verbose = n
  match n with
  | 0 => rfl
  | 1 => rfl
  | 2 => rfl
  | n + 3 =>
    obtain ⟨m, more⟩ : ∃ m, min 255 (n + 3) = m + 3 := ⟨min 252 n, by omega⟩
    rw [more]
    rfl

/-- **The command line accepts its grammar and nothing else, and means by it what is set.**  What is
set counts alone: the same settings in another order, or spelled in another way, give the same.  The
configuration is that of the pinned release, and the log tells more the more often it was asked. -/
theorem read_grammar :
    (∀ args a, read args = .ok a ↔ ∃ items ended, args = commandLine items ended ∧
      Allowed (settings items) ∧ a = ofSettings (settings items)) ∧
    (∀ items ended items' ended' a, (settings items).Perm (settings items') →
      (read (commandLine items ended) = .ok a ↔ read (commandLine items' ended') = .ok a)) ∧
    ∀ items ended a, read (commandLine items ended) = .ok a →
      a.config = { release := .pinned, dir := (dirs (settings items)).head?.getD "."
                   quiet := decide (.quiet ∈ settings items)
                   verifyExisting := decide (.verifyExisting ∈ settings items) } ∧
      a.logSpec = ["warn", "info", "debug"].getD ((settings items).count .verbose) "trace" := by
  refine ⟨fun args a => ⟨fun h => ?_, ?_⟩, ?_, fun items ended a h => ?_⟩
  · obtain ⟨items, ended, rfl⟩ := commandLine_of_read h
    exact ⟨items, ended, rfl, read_commandLine.mp h⟩
  · rintro ⟨items, ended, rfl, h⟩
    exact read_commandLine.mpr h
  · intro items ended items' ended' a order
    rw [read_commandLine, read_commandLine]
    constructor
    · rintro ⟨allowed, rfl⟩
      exact ⟨allowed.perm order, allowed.ofSettings_eq order⟩
    · rintro ⟨allowed, rfl⟩
      exact ⟨allowed.perm order.symm, allowed.ofSettings_eq order.symm⟩
  · obtain ⟨-, rfl⟩ := read_commandLine.mp h
    exact ⟨rfl, logSpec_ofSettings _⟩

/-- A directory in a cluster, and the same directory in an argument of its own. -/
theorem read_grammar_tools :
    read (["-qdtools", "--verify-existing"].map Bytes.ofText) =
        .ok ⟨"tools", true, 0, true⟩ ∧
      read (["--verify-existing", "--dir", "tools", "--quiet", "--"].map Bytes.ofText) =
        .ok ⟨"tools", true, 0, true⟩ ∧
      logSpec ⟨"tools", true, 0, true⟩ = "warn" := by
  let items : List Item :=
    [.whole (.clusterDir [.q] ⟨"tools", by decide⟩), .whole .verifyExisting]
  let items' : List Item :=
    [.whole .verifyExisting, .pair .dir ⟨"tools", by decide⟩, .whole .quiet]
  have order : (settings items).Perm (settings items') := by decide
  have allowed : Allowed (settings items) := by decide
  have front := (read_grammar.1 _ _).mpr ⟨items, false, rfl, allowed, rfl⟩
  have back := (read_grammar.2.1 items false items' true _ order).mp front
  exact ⟨front, back, (read_grammar.2.2 items false _ front).2⟩

end PinnedFetch.Args
