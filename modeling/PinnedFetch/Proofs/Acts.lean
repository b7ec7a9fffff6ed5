/-
# The acts of a run

A run acts in four ways: it runs a command, writes a line, asks for a URL, opens the artefact for
writing.  Its acts are its events without the records of the log, and with each notice as the lines
that it has.

The acts of a loud run are those that go with what it finds and then, if the artefact has to go,
the announcement of the download, the request, and the acts that go with the delivery
(`askingActs`).  No line of one kind is a line of another, so an act can be looked up in this list
by its text: the request stands in one place, and so does the announcement (`eq_of_fetched`,
`eq_of_downloadingLine`); whatever is opened, and whatever is said about digests, comes behind them.
-/
import Mathlib.Data.List.Basic
import PinnedFetch.Proofs.Acceptance
import PinnedFetch.Proofs.DigestGate
import PinnedFetch.Proofs.Observed

namespace PinnedFetch

/-! ## 1. Acts -/

/-- Something that a run does, records in the log apart. -/
inductive Act where
  /-- A command is run. -/
  | ran (call : Call)
  /-- A line is written. -/
  | wrote (line : String)
  /-- A URL is asked for. -/
  | fetched (url : String)
  /-- A file is opened for writing. -/
  | opened (path : String)
  deriving DecidableEq, Repr

namespace Act

/-- The command of an act, if it is one. -/
def call? : Act → Option Call
  | ran c => some c
  | _ => none

/-- The line of an act, if it is one. -/
def line? : Act → Option String
  | wrote l => some l
  | _ => none

/-- The URL of an act, if it is one. -/
def url? : Act → Option String
  | fetched url => some url
  | _ => none

/-- The acts of a notice. -/
def told (n : Notice) : List Act := n.lines.map wrote

end Act

namespace Event

/-- The acts of an event. -/
def acts : Event → List Act
  | ran c => [.ran c]
  | told n => Act.told n
  | fetched url => [.fetched url]
  | opened path => [.opened path]
  | logged _ => []

/-- The acts of some events, in order. -/
def allActs (es : List Event) : List Act := es.flatMap acts

theorem allActs_append (es fs : List Event) : allActs (es ++ fs) = allActs es ++ allActs fs := by
  simp [allActs]

@[simp] theorem allActs_logged (rs : List Log.Record) : allActs (rs.map .logged) = [] := by
  simp [allActs, acts]

end Event

namespace Act

section Told

variable {n m : Notice}

@[simp] theorem ran_not_mem_told (c : Call) : .ran c ∉ told n := by simp [told]

@[simp] theorem fetched_not_mem_told (url : String) : .fetched url ∉ told n := by simp [told]

@[simp] theorem opened_not_mem_told (path : String) : .opened path ∉ told n := by simp [told]

theorem wrote_mem_told {l : String} : .wrote l ∈ told n ↔ l ∈ n.lines := by simp [told]

@[simp] theorem filterMap_call?_told : (told n).filterMap call? = [] := by
  simp [told, List.filterMap_map, Function.comp_def, call?]

@[simp] theorem filterMap_url?_told : (told n).filterMap url? = [] := by
  simp [told, List.filterMap_map, Function.comp_def, url?]

@[simp] theorem filterMap_line?_told : (told n).filterMap line? = n.lines := by
  simp [told, List.filterMap_map, Function.comp_def, line?]

end Told

theorem mem_filterMap_line? {l : String} {as : List Act} :
    l ∈ as.filterMap line? ↔ .wrote l ∈ as := by
  constructor
  · intro mem
    obtain ⟨a, ha, e⟩ := List.mem_filterMap.mp mem
    cases a with
    | wrote k =>
      cases e
      exact ha
    | _ => exact absurd e (by simp [line?])
  · intro mem
    exact List.mem_filterMap.mpr ⟨_, mem, rfl⟩

end Act

/-- The lines of the acts are the lines of the notices. -/
theorem Event.filterMap_line?_allActs (es : List Event) :
    (allActs es).filterMap Act.line? = Event.lines es := by
  induction es with
  | nil => rfl
  | cons e es ih =>
    have step : allActs (e :: es) = e.acts ++ allActs es := rfl
    rw [step, List.filterMap_append, ih]
    cases e with
    | told n => rw [acts, Act.filterMap_line?_told, lines_told]
    | _ => rw [lines_cons rfl]; rfl

/-- The acts of a scene, in order. -/
def Scene.acts {σ : Type} (s : Scene σ) : List Act := Event.allActs s.events

/-! ## 2. The acts of a course -/

/-- The line that announces the download of a release. -/
def Release.downloadingLine (r : Release) : String := s!"Downloading {r.url}..."

/-- The line that says that the artefact of a release may stay. -/
def Release.keptLine (r : Release) : String := s!"Found '{r.fileName}', skipping download."

/-- The line that says that the artefact was verified and written. -/
def verifiedLine : String := "Checksum verified."

theorem Release.downloadingLine_mem (r : Release) :
    r.downloadingLine ∈ (Notice.downloading r.url).lines := List.mem_singleton_self _

theorem Release.keptLine_mem (r : Release) : r.keptLine ∈ (Notice.kept r.fileName).lines :=
  List.mem_singleton_self _

theorem verifiedLine_mem : verifiedLine ∈ Notice.verified.lines := List.mem_singleton_self _

namespace Run

variable {t : Tree} {c : Config} {h : Collaborators}

/-- The acts that go with a finding. -/
def Finding.acts (c : Config) : Finding → List Act
  | missing => []
  | otherOctets _ _ => .ran (versionCall c.path) :: Act.told (.stale c.release.fileName)
  | _ => [.ran (versionCall c.path)]

/-- The acts that go with a delivery. -/
def Delivery.acts (c : Config) : Delivery → List Act
  | failed _ => []
  | refused actual => Act.told (.mismatch actual c.release.sha256)
  | unplaced _ => [.opened c.path]
  | placed _ _ => .opened c.path :: Act.told .verified

theorem Finding.allActs_events (loud : c.quiet = false) (f : Finding) :
    Event.allActs (f.events c) = f.acts c := by
  cases f with
  | otherOctets found actual =>
    rw [events, loud]
    rfl
  | _ => rfl

theorem Delivery.allActs_events (loud : c.quiet = false) (d : Delivery) :
    Event.allActs (d.events t c) = d.acts c := by
  cases d with
  | refused actual => exact List.append_nil _
  | placed bytes l =>
    rw [events, loud]
    rfl
  | _ => rfl

theorem acts_course_of_error (loud : c.quiet = false) {f : Failure}
    (e : (find t c h).verdict = .error f) :
    Event.allActs (course t c h).events = (find t c h).acts c := by
  rw [course_of_error e, Finding.allActs_events loud]

theorem acts_course_of_stays (loud : c.quiet = false) (e : (find t c h).verdict = .ok true) :
    Event.allActs (course t c h).events =
      (find t c h).acts c ++ [.wrote c.release.keptLine] := by
  rw [course_of_stays e, Event.allActs_append, Finding.allActs_events loud, loud]
  rfl

/-- The acts of a run that asks for the release after a finding, and comes to a delivery. -/
def askingActs (c : Config) (f : Finding) (d : Delivery) : List Act :=
  f.acts c ++ [.wrote c.release.downloadingLine, .fetched c.release.url] ++ d.acts c

theorem acts_course_of_goes (loud : c.quiet = false) (e : (find t c h).verdict = .ok false) :
    Event.allActs (course t c h).events = askingActs c (find t c h) (deliver t c h) := by
  have asked : Event.allActs (Run.requested c h) =
      [.wrote c.release.downloadingLine, .fetched c.release.url] := by
    have logged := Event.allActs_logged (h.fetch c.release.url).records
    rw [Run.requested, loud]
    show .wrote _ :: .fetched _ :: Event.allActs _ = _
    rw [logged]
    rfl
  rw [course_of_goes e, Event.allActs_append, Event.allActs_append, Finding.allActs_events loud,
    Delivery.allActs_events loud, asked, askingActs, List.append_assoc]

/-! ## 3. Where an act stands -/

theorem Finding.call?_acts {f : Finding} (fs : Finds t c h f) : (f.acts c).filterMap Act.call? =
    if t.isThere c.path then [versionCall c.path] else [] := by
  cases fs with
  | missing gone => simp [acts, gone]
  | unanswered silent => simp [acts, Act.call?, silent.there]
  | unreadable unread => simp [acts, Act.call?, unread.reports.there]
  | otherVersion reports | trusted reports | otherOctets reports | intact reports =>
    simp [acts, Act.call?, reports.there]

theorem Finding.url?_acts (f : Finding) : (f.acts c).filterMap Act.url? = [] := by
  cases f with
  | otherOctets found actual => exact Act.filterMap_url?_told
  | _ => rfl

theorem Finding.fetched_not_mem_acts (f : Finding) (url : String) : .fetched url ∉ f.acts c := by
  cases f <;> simp [acts]

theorem Finding.opened_not_mem_acts (f : Finding) (path : String) : .opened path ∉ f.acts c := by
  cases f <;> simp [acts]

/-- Lines that do not stand with a finding: all but the one about a stale artefact. -/
theorem Finding.wrote_not_mem_acts {n : Notice} {l : String} (hl : l ∈ n.lines)
    (stale : n.Apart (.stale c.release.fileName)) (f : Finding) : .wrote l ∉ f.acts c := by
  cases f with
  | otherOctets found actual =>
    have other : l ∉ (Notice.stale c.release.fileName).lines := Notice.not_mem_lines stale hl
    simp [acts, Act.wrote_mem_told, other]
  | _ => simp [acts]

/-- Lines that stand neither with a finding nor with a request. -/
theorem wrote_not_mem_before {n : Notice} {l : String} (hl : l ∈ n.lines)
    (stale : n.Apart (.stale c.release.fileName)) (request : n.Apart (.downloading c.release.url))
    (f : Finding) :
    .wrote l ∉ f.acts c ++ [.wrote c.release.downloadingLine, .fetched c.release.url] := by
  have other : l ∉ (Notice.downloading c.release.url).lines := Notice.not_mem_lines request hl
  have differs : l ≠ c.release.downloadingLine := fun e =>
    other (e ▸ c.release.downloadingLine_mem)
  simp [f.wrote_not_mem_acts hl stale, differs]

theorem Delivery.call?_acts (d : Delivery) : (d.acts c).filterMap Act.call? = [] := by
  cases d with
  | refused actual => exact Act.filterMap_call?_told
  | placed bytes l => exact Act.filterMap_call?_told
  | _ => rfl

theorem Delivery.url?_acts (d : Delivery) : (d.acts c).filterMap Act.url? = [] := by
  cases d with
  | refused actual => exact Act.filterMap_url?_told
  | placed bytes l => exact Act.filterMap_url?_told
  | _ => rfl

theorem Delivery.ran_not_mem_acts (d : Delivery) (call : Call) : .ran call ∉ d.acts c := by
  cases d <;> simp [acts]

theorem Delivery.fetched_not_mem_acts (d : Delivery) (url : String) :
    .fetched url ∉ d.acts c := by
  cases d <;> simp [acts]

/-- Lines that do not stand with a delivery. -/
theorem Delivery.wrote_not_mem_acts {n : Notice} {l : String} (hl : l ∈ n.lines)
    (digests : ∀ actual, n.Apart (.mismatch actual c.release.sha256)) (verified : n.Apart .verified)
    (d : Delivery) : .wrote l ∉ d.acts c := by
  cases d with
  | refused actual =>
    have other : l ∉ (Notice.mismatch actual c.release.sha256).lines :=
      Notice.not_mem_lines (digests actual) hl
    simp [acts, Act.wrote_mem_told, other]
  | placed bytes loc =>
    have other : l ∉ Notice.verified.lines := Notice.not_mem_lines verified hl
    simp [acts, Act.wrote_mem_told, other]
  | _ => simp [acts]

section Places

variable {f : Finding} {d : Delivery} {pre post : List Act}

/-- **A request stands between its announcement and the delivery.** -/
theorem eq_of_fetched {url : String} (e : askingActs c f d = pre ++ .fetched url :: post) :
    f.acts c ++ [.wrote c.release.downloadingLine] = pre ∧ d.acts c = post := by
  have before : .fetched url ∉ f.acts c ++ [.wrote c.release.downloadingLine] := by
    simp [Finding.fetched_not_mem_acts]
  have whole : askingActs c f d = f.acts c ++ [.wrote c.release.downloadingLine] ++
      .fetched c.release.url :: d.acts c := by
    simp [askingActs]
  obtain ⟨hpre, -, hpost⟩ :=
    (List.append_cons_inj_of_notMem before (d.fetched_not_mem_acts url)).mp (whole.symm.trans e)
  exact ⟨hpre, hpost⟩

/-- **An announcement stands before the request.** -/
theorem eq_of_downloadingLine
    (e : askingActs c f d = pre ++ .wrote c.release.downloadingLine :: post) :
    .fetched c.release.url :: d.acts c = post := by
  have before : .wrote c.release.downloadingLine ∉ f.acts c :=
    f.wrote_not_mem_acts c.release.downloadingLine_mem (by simp)
  have behind : .wrote c.release.downloadingLine ∉ .fetched c.release.url :: d.acts c := by
    simp [d.wrote_not_mem_acts c.release.downloadingLine_mem (by simp) (by simp)]
  have whole : askingActs c f d = f.acts c ++ .wrote c.release.downloadingLine ::
      .fetched c.release.url :: d.acts c := by
    simp [askingActs]
  exact ((List.append_cons_inj_of_notMem before behind).mp (whole.symm.trans e)).2.2

/-- An act that is not in a beginning stands behind it. -/
theorem split_of_not_mem {x : Act} {front back : List Act} (out : x ∉ front)
    (e : front ++ back = pre ++ x :: post) :
    ∃ between, pre = front ++ between ∧ back = between ++ x :: post := by
  rcases List.append_eq_append_iff.mp e with ⟨between, hpre, hback⟩ | ⟨more, hfront, hx⟩
  · exact ⟨between, hpre, hback⟩
  · cases more with
    | nil => exact ⟨[], by simpa using hfront.symm, by simpa using hx.symm⟩
    | cons y more =>
      obtain ⟨rfl, -⟩ := List.cons.inj hx
      exact absurd (hfront ▸ List.mem_append_cons_self) out

/-- **What is opened is opened by the delivery,** after the request. -/
theorem eq_of_opened {path : String} (e : askingActs c f d = pre ++ .opened path :: post) :
    .fetched c.release.url ∈ pre ∧ .opened path ∈ d.acts c := by
  have before : .opened path ∉
      f.acts c ++ [.wrote c.release.downloadingLine, .fetched c.release.url] := by
    simp [Finding.opened_not_mem_acts]
  obtain ⟨between, rfl, delivered⟩ := split_of_not_mem before e
  exact ⟨by simp, by simp [delivered]⟩

end Places

/-! ## 4. What an act tells about the delivery -/

/-- Only octets of the release let the artefact be opened. -/
theorem Delivers.of_opened {d : Delivery} (ds : Delivers t c h d) {path : String}
    (mem : .opened path ∈ d.acts c) : path = c.path ∧
      ∃ bytes, (h.fetch c.release.url).result = .ok bytes ∧ Digest.of bytes = c.release.sha256 := by
  cases ds with
  | failed answer => simp [Delivery.acts] at mem
  | refused answer wrong => simp [Delivery.acts] at mem
  | unplaced answer right full =>
    simp only [Delivery.acts, List.mem_singleton, Act.opened.injEq] at mem
    exact ⟨mem, _, answer, right⟩
  | placed answer right place =>
    simp only [Delivery.acts, List.mem_cons, Act.opened.injEq, Act.opened_not_mem_told,
      or_false] at mem
    exact ⟨mem, _, answer, right⟩

/-- The tree changes only where the artefact is opened. -/
theorem Delivery.tree_of_unopened {d : Delivery} (unopened : .opened c.path ∉ d.acts c) :
    d.tree t = t := by
  refine tree_of_not_placed fun bytes l placed => unopened ?_
  rw [placed]
  exact List.mem_cons_self

/-- The line that the artefact was verified tells of an installation. -/
theorem Delivery.wrote_verifiedLine_iff (d : Delivery) :
    .wrote verifiedLine ∈ d.acts c ↔ ∃ path, d.result c = .ok (.installed path) := by
  cases d with
  | refused actual =>
    have other : verifiedLine ∉ (Notice.mismatch actual c.release.sha256).lines :=
      Notice.not_mem_lines (by simp) verifiedLine_mem
    simp [acts, Act.wrote_mem_told, other, result]
  | placed bytes l => simp [acts, Act.wrote_mem_told, verifiedLine_mem, result]
  | _ => simp [acts, result]

/-- That line comes after the artefact was opened. -/
theorem Delivery.opened_before_verifiedLine {d : Delivery} {pre post : List Act}
    (e : d.acts c = pre ++ .wrote verifiedLine :: post) : .opened c.path ∈ pre := by
  have installed := d.wrote_verifiedLine_iff.mp (e ▸ List.mem_append_cons_self)
  cases d with
  | placed bytes l =>
    cases pre with
    | nil => exact absurd (List.cons.inj e).1 (by simp)
    | cons a pre =>
      rw [← (List.cons.inj e).1]
      exact List.mem_cons_self
  | _ => simp [result] at installed

/-- **The output ends in the four lines about two digests when the delivery is refused over
them.** -/
theorem Delivery.mismatch_suffix_iff (d : Delivery) {front : List String}
    (silent : ∀ actual expected l, l ∈ (Notice.mismatch actual expected).lines → l ∉ front)
    (actual expected : Digest) :
    (Notice.mismatch actual expected).lines <:+ front ++ (d.acts c).filterMap Act.line? ↔
      d.result c = .ok (.mismatch actual expected) := by
  constructor
  · intro suffix
    obtain ⟨l, hl⟩ : ∃ l, l ∈ (Notice.mismatch actual expected).lines := ⟨_, List.mem_cons_self⟩
    have mem : .wrote l ∈ d.acts c := Act.mem_filterMap_line?.mp <|
      (List.mem_append.mp (suffix.subset hl)).resolve_left (silent _ _ _ hl)
    cases d with
    | refused actual' =>
      rw [acts, Act.filterMap_line?_told] at suffix
      have same := (List.suffix_of_suffix_length_le suffix (List.suffix_append _ _)
        (Nat.le_refl _)).eq_of_length rfl
      obtain ⟨rfl, rfl⟩ := Notice.mismatch_lines_inj same
      rfl
    | placed bytes loc =>
      have other : l ∉ Notice.verified.lines :=
        Notice.not_mem_lines (by simp) hl
      exact absurd mem (by simp [acts, Act.wrote_mem_told, other])
    | _ => exact absurd mem (by simp [acts])
  · intro refused
    cases d with
    | refused actual' =>
      cases refused
      rw [acts, Act.filterMap_line?_told]
      exact List.suffix_append _ _
    | _ => simp [result] at refused

end Run

end PinnedFetch
