/-
# The order of a run

`Lawful` says which acts a run shows and in which order, and what each of them tells about the
result and the tree.  It is read from the acts alone: every request, announcement, opening or closing
line that is found among them has to stand in its place, and a tree that has changed shows that the
artefact was opened.

Every run that shows its progress is lawful (`lawful_observed`).  There are two kinds of run, those
that end before the release is asked for (`lawful_of_ends`) and those that ask for it
(`lawful_of_goes`).
-/
import PinnedFetch.Proofs.Acts

namespace PinnedFetch.Run

/-! ## 1. The law -/

/-- A result that comes before the release is asked for: the artefact may stay, or it did not say
its version, or its octets were asked for and could not be read. -/
def EndsEarly (t : Tree) (c : Config) (h : Collaborators) (r : Except Failure Outcome) : Prop :=
  r = .ok .satisfied ∨ ∃ f, r = .error f ∧
    (Unanswered t c h f ∨ ∃ e, Unread t c h e ∧ f = .io e)

/-- The acts of a run, its result and the tree that it leaves are as they should be. -/
structure Lawful (t : Tree) (c : Config) (h : Collaborators) (r : Except Failure Outcome)
    (left : Tree) (acts : List Act) : Prop where
  /-- The artefact is run once if there is one, by its path and to say its version; and nothing
  else is run. -/
  calls : acts.filterMap Act.call? = if t.isThere c.path then [⟨c.path, ["--version"]⟩] else []
  /-- A run that ends early asks for no URL. -/
  no_url : EndsEarly t c h r → acts.filterMap Act.url? = []
  /-- Any other asks for that of the release, once. -/
  one_url : ¬ EndsEarly t c h r → acts.filterMap Act.url? = [c.release.url]
  /-- After a request nothing is run. -/
  ran_before : ∀ {pre url post}, acts = pre ++ .fetched url :: post → ∀ call, .ran call ∉ post
  /-- A request is announced just before. -/
  announced : ∀ {pre url post}, acts = pre ++ .fetched url :: post →
    pre.getLast? = some (.wrote c.release.downloadingLine)
  /-- The announcement is followed by a request. -/
  requested : ∀ {pre post}, acts = pre ++ .wrote c.release.downloadingLine :: post →
    post.head? = some (.fetched c.release.url)
  /-- What is opened is the artefact, and that only after octets of the release were given. -/
  opened : ∀ {pre path post}, acts = pre ++ .opened path :: post →
    path = c.path ∧ .fetched c.release.url ∈ pre ∧
      ∃ bytes, (h.fetch c.release.url).result = .ok bytes ∧ Digest.of bytes = c.release.sha256
  /-- Unless it is opened, the tree is left as it was. -/
  unopened : .opened c.path ∉ acts → left = t
  /-- The output ends in the line that the artefact may stay when it does, and only then. -/
  kept : [c.release.keptLine] <:+ acts.filterMap Act.line? ↔ r = .ok .satisfied
  /-- The artefact is called verified when it was installed, and only then. -/
  verified : .wrote verifiedLine ∈ acts ↔ ∃ path, r = .ok (.installed path)
  /-- It is so called after it was opened. -/
  verified_last : ∀ {pre post}, acts = pre ++ .wrote verifiedLine :: post → .opened c.path ∈ pre
  /-- The output ends in the four lines about two digests when these do not match, and only
  then. -/
  mismatch : ∀ actual expected, (Notice.mismatch actual expected).lines <:+
    acts.filterMap Act.line? ↔ r = .ok (.mismatch actual expected)

variable {t : Tree} {c : Config} {h : Collaborators}

/-! ## 2. Lawful runs -/

/-- A run ends early when the artefact does not have to go. -/
theorem endsEarly_iff :
    EndsEarly t c h (course t c h).result ↔ (find t c h).verdict ≠ .ok false := by
  unfold EndsEarly
  rw [course_satisfied_iff]
  simp only [← verdict_eq_error_iff]
  cases e : (find t c h).verdict with
  | error f => simp [course_of_error e]
  | ok stays => cases stays <;> simp

/-- **A run that asks for the release is lawful.** -/
theorem lawful_of_goes (goes : (find t c h).verdict = .ok false) :
    Lawful t c h (course t c h).result (course t c h).tree
      (askingActs c (find t c h) (deliver t c h)) := by
  have late : ¬ EndsEarly t c h (course t c h).result := by
    rw [endsEarly_iff, goes]
    simp
  have result : (course t c h).result = (deliver t c h).result c := by rw [course_of_goes goes]
  have ds := delivers_deliver t c h
  constructor
  case calls =>
    rw [askingActs, List.filterMap_append, List.filterMap_append,
      Finding.call?_acts (finds_find t c h), Delivery.call?_acts, List.append_nil]
    exact List.append_nil _
  case no_url => exact fun early => absurd early late
  case one_url =>
    intro _
    rw [askingActs, List.filterMap_append, List.filterMap_append, Finding.url?_acts,
      Delivery.url?_acts, List.append_nil]
    rfl
  case ran_before =>
    intro pre url post e call
    rw [← (eq_of_fetched e).2]
    exact Delivery.ran_not_mem_acts _ call
  case announced =>
    intro pre url post e
    rw [← (eq_of_fetched e).1, List.getLast?_concat]
  case requested =>
    intro pre post e
    rw [← eq_of_downloadingLine e, List.head?_cons]
  case opened =>
    intro pre path post e
    obtain ⟨asked, mem⟩ := eq_of_opened e
    obtain ⟨same, given⟩ := ds.of_opened mem
    exact ⟨same, asked, given⟩
  case unopened =>
    intro unopened
    have closed : .opened c.path ∉ (deliver t c h).acts c := fun mem =>
      unopened (List.mem_append_right _ mem)
    rw [course_of_goes goes]
    exact Delivery.tree_of_unopened closed
  case kept =>
    refine iff_of_false (fun suffix => ?_) (result ▸ Delivery.result_ne_satisfied c _)
    have mem := Act.mem_filterMap_line?.mp (suffix.subset List.mem_cons_self)
    rcases List.mem_append.mp mem with mem | mem
    · exact wrote_not_mem_before c.release.keptLine_mem (by simp) (by simp) _ mem
    · exact Delivery.wrote_not_mem_acts c.release.keptLine_mem (by simp) (by simp) _ mem
  case verified =>
    rw [result, ← Delivery.wrote_verifiedLine_iff, askingActs, List.mem_append]
    exact or_iff_right (wrote_not_mem_before verifiedLine_mem (by simp) (by simp) _)
  case verified_last =>
    intro pre post e
    obtain ⟨between, rfl, delivered⟩ := split_of_not_mem
      (wrote_not_mem_before verifiedLine_mem (by simp) (by simp) _) e
    exact List.mem_append_right _ (Delivery.opened_before_verifiedLine delivered)
  case mismatch =>
    intro actual expected
    rw [result, askingActs, List.filterMap_append]
    refine Delivery.mismatch_suffix_iff _ (fun a e l hl mem => ?_) actual expected
    exact wrote_not_mem_before hl (by simp) (by simp) _
      (Act.mem_filterMap_line?.mp mem)

/-- A run that ends early has asked the artefact, and may have said that it can stay. -/
theorem acts_of_ends (loud : c.quiet = false) (ends : (find t c h).verdict ≠ .ok false) :
    t.isThere c.path = true ∧
      (((course t c h).result = .ok .satisfied ∧ Event.allActs (course t c h).events =
          [.ran (versionCall c.path), .wrote c.release.keptLine]) ∨
        ((∃ f, (course t c h).result = .error f) ∧ Event.allActs (course t c h).events =
          [.ran (versionCall c.path)])) := by
  have fs := finds_find t c h
  cases e : (find t c h).verdict with
  | error f =>
    rw [acts_course_of_error loud e, course_of_error e]
    generalize find t c h = found at fs e
    cases fs with
    | unanswered silent => exact ⟨silent.there, Or.inr ⟨⟨_, rfl⟩, rfl⟩⟩
    | unreadable unread => exact ⟨unread.reports.there, Or.inr ⟨⟨_, rfl⟩, rfl⟩⟩
    | _ => simp [Finding.verdict] at e
  | ok stays =>
    cases stays with
    | false => exact absurd e ends
    | true =>
      rw [acts_course_of_stays loud e, course_of_stays e]
      generalize find t c h = found at fs e
      cases fs with
      | trusted reports => exact ⟨reports.there, Or.inl ⟨rfl, rfl⟩⟩
      | intact reports => exact ⟨reports.there, Or.inl ⟨rfl, rfl⟩⟩
      | _ => simp [Finding.verdict] at e

/-- A run that ends early leaves the tree as it was. -/
theorem tree_of_ends (ends : (find t c h).verdict ≠ .ok false) : (course t c h).tree = t := by
  rcases course_installs t c h with ⟨-, kept⟩ | ⟨bytes, l, goes, -⟩
  · exact kept
  · exact absurd goes ends

/-- What only asks the artefact, and writes at most that it can stay, is lawful. -/
theorem lawful_of_acts {r : Except Failure Outcome} {acts : List Act}
    (there : t.isThere c.path = true) (early : EndsEarly t c h r)
    (shape : (r = .ok .satisfied ∧
        acts = [.ran (versionCall c.path), .wrote c.release.keptLine]) ∨
      ((∃ f, r = .error f) ∧ acts = [.ran (versionCall c.path)])) :
    Lawful t c h r t acts := by
  have only : ∀ a ∈ acts, a = .ran (versionCall c.path) ∨ a = .wrote c.release.keptLine := by
    rcases shape with ⟨-, rfl⟩ | ⟨-, rfl⟩ <;> simp
  have announces : c.release.keptLine ≠ c.release.downloadingLine := fun e =>
    Notice.not_mem_lines (by simp) c.release.keptLine_mem
      (e ▸ c.release.downloadingLine_mem)
  have verifies : c.release.keptLine ≠ verifiedLine := fun e =>
    Notice.not_mem_lines (by simp) c.release.keptLine_mem
      (e ▸ verifiedLine_mem)
  have short : (acts.filterMap Act.line?).length ≤ 1 := by
    rcases shape with ⟨-, rfl⟩ | ⟨-, rfl⟩
    · exact Nat.le_refl 1
    · exact Nat.zero_le 1
  constructor
  case calls => rcases shape with ⟨-, rfl⟩ | ⟨-, rfl⟩ <;> rw [if_pos there] <;> rfl
  case no_url => rcases shape with ⟨-, rfl⟩ | ⟨-, rfl⟩ <;> exact fun _ => rfl
  case one_url => exact fun late => absurd early late
  case ran_before =>
    intro pre url post e
    exact absurd (only _ (e ▸ List.mem_append_cons_self)) (by simp)
  case announced =>
    intro pre url post e
    exact absurd (only _ (e ▸ List.mem_append_cons_self)) (by simp)
  case requested =>
    intro pre post e
    exact absurd (only _ (e ▸ List.mem_append_cons_self)) (by simp [announces.symm])
  case opened =>
    intro pre path post e
    exact absurd (only _ (e ▸ List.mem_append_cons_self)) (by simp)
  case unopened => exact fun _ => rfl
  case kept =>
    rcases shape with ⟨rfl, rfl⟩ | ⟨⟨f, rfl⟩, rfl⟩
    · exact iff_of_true (List.suffix_refl _) rfl
    · exact iff_of_false (fun suffix => absurd suffix.length_le (Nat.not_succ_le_zero 0)) (by simp)
  case verified =>
    refine iff_of_false (fun mem => absurd (only _ mem) (by simp [verifies.symm])) ?_
    rcases shape with ⟨rfl, -⟩ | ⟨⟨f, rfl⟩, -⟩ <;> simp
  case verified_last =>
    intro pre post e
    exact absurd (only _ (e ▸ List.mem_append_cons_self)) (by simp [verifies.symm])
  case mismatch =>
    intro actual expected
    refine iff_of_false (fun suffix => ?_) ?_
    · have four : 4 ≤ (acts.filterMap Act.line?).length := suffix.length_le
      omega
    · rcases shape with ⟨rfl, -⟩ | ⟨⟨f, rfl⟩, -⟩ <;> simp

/-- **A run that ends early is lawful.** -/
theorem lawful_of_ends (loud : c.quiet = false) (ends : (find t c h).verdict ≠ .ok false) :
    Lawful t c h (course t c h).result (course t c h).tree
      (Event.allActs (course t c h).events) := by
  obtain ⟨there, shape⟩ := acts_of_ends loud ends
  rw [tree_of_ends ends]
  exact lawful_of_acts there (endsEarly_iff.mpr ends) shape

/-- **Every run that shows its progress is lawful,** and the output is the lines that it writes. -/
theorem lawful_observed (t : Tree) (c : Config) (h : Collaborators) (loud : c.quiet = false) :
    Lawful t c h (observed t c h).1 (observed t c h).2.tree (observed t c h).2.acts ∧
      (observed t c h).2.out =
        Writer.lineOctets ((observed t c h).2.acts.filterMap Act.line?) := by
  constructor
  · rw [result_observed, tree_observed, Scene.acts, events_observed]
    by_cases goes : (find t c h).verdict = .ok false
    · rw [acts_course_of_goes loud goes]
      exact lawful_of_goes goes
    · exact lawful_of_ends loud goes
  · rw [out_observed, Scene.acts, events_observed, Event.filterMap_line?_allActs]

/-- An artefact that says it is the pinned script is kept, and that is the end of the output. -/
theorem lawful_oneOctetThere :
    Config.quiet {} = false ∧ (observed oneOctetThere {} saysPinned).1 = .ok .satisfied ∧
      Lawful oneOctetThere {} saysPinned (observed oneOctetThere {} saysPinned).1
        (observed oneOctetThere {} saysPinned).2.tree
        (observed oneOctetThere {} saysPinned).2.acts ∧
      [Release.pinned.keptLine] <:+
        (observed oneOctetThere {} saysPinned).2.acts.filterMap Act.line? := by
  have stays : (find oneOctetThere {} saysPinned).verdict = .ok true :=
    verdict_eq_true_iff.mpr ⟨reports_oneOctetThere, fun asked => absurd asked (by decide)⟩
  have satisfied : (observed oneOctetThere {} saysPinned).1 = .ok .satisfied := by
    rw [result_observed, course_satisfied_iff]
    exact stays
  obtain ⟨lawful, -⟩ := lawful_observed oneOctetThere {} saysPinned rfl
  exact ⟨rfl, satisfied, lawful, lawful.kept.mpr satisfied⟩

end PinnedFetch.Run
