/-
# Where the artefact may be

The directory of a configuration is meant to hold the artefact, and the artefact's name to be that
of a file.  Nothing looks at the name: it is put behind the directory as it is.  So the artefact is
inside its directory when the name is one step down (`inside_join_iff`), and a name of several
steps, one that climbs, or one that starts at the root leads elsewhere (`climbs_out`).

A name without a slash that is neither empty nor made of dots is one step down (`IsFileName`).  For
such a name the path is walked to the directory and then to the entry of that name, and on from
there only along a link that stands at this entry (`AtEntry`, `atEntry_of_walk`).  A run executes,
reads and writes through this path alone, so where it leads is all that a run can change.
-/
import PinnedFetch.Proofs.ArtefactPath
import PinnedFetch.Proofs.DigestGate

namespace PinnedFetch

/-! ## 1. Paths inside a directory -/

namespace Path

/-- The path leads from the directory to a name in it. -/
def Inside (dir p : String) : Prop := ∃ s, components p = components dir ++ [.name s]

theorem inside_join_iff {dir name : String} (given : dir ≠ "")
    (relative : isAbsolute name = false) :
    Inside dir (join dir name) ↔ ∃ s, steps name = [.name s] := by
  refine exists_congr fun s => ?_
  rw [components_join given relative, List.append_right_inj]

/-- A name that a file can have: one segment, which stands for no directory. -/
structure IsFileName (name : String) : Prop where
  given : name ≠ ""
  solid : '/' ∉ name.toList
  notDot : name ≠ "."
  notDots : name ≠ ".."

section FileName

variable {name : String}

theorem IsFileName.chars_ne (h : IsFileName name) :
    name.toList ≠ [] ∧ name.toList ≠ ['.'] ∧ name.toList ≠ ['.', '.'] := by
  refine ⟨mt String.toList_eq_nil_iff.mp h.given, ?_, ?_⟩
  · intro dot
    exact h.notDot (String.toList_inj.mp dot)
  · intro dots
    exact h.notDots (String.toList_inj.mp dots)

theorem IsFileName.relative (h : IsFileName name) : isAbsolute name = false := by
  refine decide_eq_false fun rooted => ?_
  exact h.solid (List.mem_of_head? rooted)

theorem IsFileName.segments_eq (h : IsFileName name) : segments name = [name.toList] :=
  Text.fields_of_not_mem h.solid

/-- **The name of a file is one step.** -/
theorem IsFileName.steps_eq (h : IsFileName name) : steps name = [.name name] := by
  obtain ⟨given, notDot, notDots⟩ := h.chars_ne
  simp [steps, h.segments_eq, step?, given, notDot, notDots]

/-- It is one move of a walk, too. -/
theorem IsFileName.bareMoves_eq (h : IsFileName name) : bareMoves name = [.down name] := by
  obtain ⟨given, notDot, notDots⟩ := h.chars_ne
  simp [bareMoves, h.segments_eq, move?, given, notDot, notDots]

variable {dir : String}

theorem IsFileName.moves_join (h : IsFileName name) (given : dir ≠ "") :
    moves (join dir name) = bareMoves dir ++ [.down name] := by
  have bare : bareMoves (join dir name) = bareMoves dir ++ [.down name] := by
    rw [← h.bareMoves_eq]
    exact filterMap_segments_join given h.relative rfl
  have closed : endsInSlash (join dir name) = false := by
    obtain ⟨stem, -, written⟩ := exists_stem given
    refine decide_eq_false ?_
    rw [written name h.relative, List.getLast?_append_of_ne_nil _ (List.cons_ne_nil _ _)]
    obtain ⟨c, cs, chars⟩ := List.exists_cons_of_ne_nil h.chars_ne.1
    rw [chars, List.getLast?_cons_cons, ← chars]
    intro slash
    exact h.solid (List.mem_of_getLast? slash)
  rw [moves, bare, closed]
  exact List.append_nil _

/-- The system takes a path that has no NUL, is given, and is not too long. -/
theorem check_eq_ok_iff {p : String} :
    check p = .ok () ↔ '\x00' ∉ p.toList ∧ p ≠ "" ∧ p.utf8ByteSize < pathLimit := by
  unfold check
  by_cases nul : '\x00' ∈ p.toList
  · simp [nul]
  by_cases empty : p = ""
  · simp [empty]
  by_cases long : pathLimit ≤ p.utf8ByteSize
  · simp [nul, empty, long]
  · simp [nul, empty, long, Nat.lt_of_not_le long]

/-- A path that the system takes has a directory that it takes. -/
theorem check_of_join (given : dir ≠ "") (relative : isAbsolute name = false)
    (taken : check (join dir name) = .ok ()) : check dir = .ok () := by
  obtain ⟨more, whole⟩ : ∃ more, join dir name = dir ++ more := by
    unfold join
    rw [if_neg (Bool.eq_false_iff.mp relative)]
    split
    · exact ⟨name, rfl⟩
    · exact ⟨"/" ++ name, String.append_assoc⟩
  rw [whole, check_eq_ok_iff, String.toList_append, List.mem_append, not_or,
    String.utf8ByteSize_append] at taken
  obtain ⟨clean, -, short⟩ := taken
  exact check_eq_ok_iff.mpr ⟨clean.1, given, by omega⟩

end FileName
end Path

/-! ## 2. The entry that a walk ends at -/

namespace Tree

open PinnedFetch.Path (Move)

/-- From the directory that a link stands in, its target leads to a location. -/
def LeadsOn (t : Tree) (d : Location) (target : String) (k : Location) : Prop :=
  ∃ links < linkLimit, t.walk .reach links (start d target) (Path.moves target) = .ok k

/-- Where a name in a directory leads to. -/
inductive AtEntry (t : Tree) (d : Location) (name : String) : Location → Prop
  /-- No link stands at the entry of that name, and the entry is the place. -/
  | entry (unlinked : ∀ target, t.at? (d ++ [name]) ≠ some (.link target)) :
      AtEntry t d name (d ++ [name])
  /-- A link stands at the entry, and the place is where the link leads on to. -/
  | linked {target : String} {k : Location} (link : t.at? (d ++ [name]) = some (.link target))
      (on : t.LeadsOn d target k) : AtEntry t d name k

section Walks

variable {t : Tree} {name : String} {k : Location} {last : List Move}

/-- A walk of some moves and one down to a name goes where these moves go, then to the name.  The
induction is on the moves; the links are left to `follow`, those at the name as well (`on`). -/
theorem atEntry_of_walkWith (slash : last = [] ∨ last = [.slash])
    {follow : Location → List Move → Except IoError Location}
    (on : ∀ d target, follow (start d target) (Path.moves target) = .ok k → t.LeadsOn d target k)
    (hf : ∀ l ms, follow l (ms ++ [.down name]) = .ok k →
      ∃ d, follow l (ms ++ last) = .ok d ∧ t.AtEntry d name k) :
    ∀ (ms : List Move) (l : Location), walkWith t .reach follow l (ms ++ [.down name]) = .ok k →
      ∃ d, walkWith t .reach follow l (ms ++ last) = .ok d ∧ t.AtEntry d name k
  | [], l, h => by
    have stays : walkWith t .reach follow l last = .ok l := by
      rcases slash with rfl | rfl
      · rfl
      · rfl
    refine ⟨l, stays, ?_⟩
    rw [List.nil_append, walkWith, if_neg (by simp)] at h
    split at h
    · exact absurd h (by simp)
    cases e : t.at? (l ++ [name]) with
    | none =>
      simp only [e, if_true] at h
      cases h
      exact .entry fun target => by simp [e]
    | some entry =>
      cases entry with
      | file m bytes =>
        simp only [e, if_true] at h
        cases h
        exact .entry fun target => by simp [e]
      | dir =>
        simp only [e] at h
        cases h
        exact .entry fun target => by simp [e]
      | link target =>
        simp only [e] at h
        rw [if_neg (by simp), List.append_nil] at h
        exact .linked e (on l target h)
  | .stay :: rest, l, h => by
    rw [List.cons_append, walkWith] at h ⊢
    exact atEntry_of_walkWith slash on hf rest l h
  | .slash :: rest, l, h => by
    rw [List.cons_append, walkWith] at h ⊢
    exact atEntry_of_walkWith slash on hf rest l h
  | .up :: rest, l, h => by
    rw [List.cons_append, walkWith] at h ⊢
    exact atEntry_of_walkWith slash on hf rest l.dropLast h
  | .down way :: rest, l, h => by
    rw [List.cons_append, walkWith, if_neg (by simp)] at h ⊢
    split at h
    · exact absurd h (by simp)
    rename_i short
    rw [if_neg short]
    -- the name is still to come, so what stands here is a directory, or a link
    cases e : t.at? (l ++ [way]) with
    | none => simp [e] at h
    | some entry =>
      cases entry with
      | file m bytes => simp [e] at h
      | dir =>
        simp only [e] at h
        exact atEntry_of_walkWith slash on hf rest (l ++ [way]) h
      | link target =>
        simp only [e] at h
        rw [if_neg (by simp), ← List.append_assoc] at h
        simp only
        rw [if_neg (by simp), ← List.append_assoc]
        exact hf _ _ h

/-- The same with the links followed.  The induction is on how many may be. -/
theorem atEntry_of_walk (slash : last = [] ∨ last = [.slash]) :
    ∀ (links : Nat), links ≤ linkLimit → ∀ (l : Location) (ms : List Move),
      walk t .reach links l (ms ++ [.down name]) = .ok k →
        ∃ d, walk t .reach links l (ms ++ last) = .ok d ∧ t.AtEntry d name k
  | 0, _, l, ms, h => by
    rw [walk] at h ⊢
    exact atEntry_of_walkWith slash (fun _ _ h => absurd h (by simp))
      (fun _ _ h => absurd h (by simp)) ms l h
  | links + 1, few, l, ms, h => by
    rw [walk] at h ⊢
    exact atEntry_of_walkWith slash (fun _ _ leads => ⟨links, few, leads⟩)
      (atEntry_of_walk slash links (Nat.le_of_succ_le few)) ms l h

/-- **A path to a name in a directory leads to the entry of that name,** or, if a link stands there,
to where this link leads on. -/
theorem atEntry_of_locate {dir : String} (given : dir ≠ "") (plain : Path.IsFileName name)
    (h : t.locate .reach (Path.join dir name) = .ok k) :
    ∃ d, t.locate .reach dir = .ok d ∧ t.AtEntry d name k := by
  have reach : Purpose.reach ≠ .name := by simp
  obtain ⟨taken, walked⟩ := (locate_eq_ok_iff reach).mp h
  have start : start t.here (Path.join dir name) = start t.here dir := by
    rw [Tree.start, Tree.start, Path.isAbsolute_join given plain.relative]
  rw [start, plain.moves_join given] at walked
  obtain ⟨last, moves, slash⟩ : ∃ last, Path.moves dir = Path.bareMoves dir ++ last ∧
      (last = [] ∨ last = [.slash]) := by
    refine ⟨_, rfl, ?_⟩
    split
    · exact Or.inr rfl
    · exact Or.inl rfl
  obtain ⟨d, led, entry⟩ := atEntry_of_walk slash linkLimit (Nat.le_refl _) _ _ walked
  rw [← moves] at led
  have taken' := Path.check_of_join given plain.relative taken
  exact ⟨d, (locate_eq_ok_iff reach).mpr ⟨taken', led⟩, entry⟩

end Walks
end Tree

/-! ## 3. The artefact and its directory -/

namespace Config

/-- **What a run changes is where the artefact's path leads,** whatever the name. -/
theorem locate_of_changed {σ : Type} {w : Writer σ} {c : Config} {h : Collaborators} {s : Scene σ}
    {k : Location} (changed : (Run.perform w c h s).2.tree.at? k ≠ s.tree.at? k) :
    s.tree.locate .reach c.path = .ok k := by
  rw [Run.perform_eq] at changed
  rcases Run.course_installs s.tree c h with ⟨-, kept⟩ | ⟨bytes, l, -, placed, -, tree⟩
  · rw [Scene.tree_after, kept] at changed
    exact absurd rfl changed
  · obtain ⟨-, -, place⟩ := Run.deliver_eq_placed_iff.mp placed
    have installed := installed_of_place place bytes
    rw [Scene.tree_after, tree] at changed
    rw [installed.eq_of_changed changed]
    exact installed.led

/-- **When the artefact is in its directory, and what that means for a run.**  Its path leads from
the directory to a name in it exactly when the artefact's name is one step down, or starts at the
root and does the same.

If the name is that of a file, it is the step.  A run executes the artefact by this path and nothing
else.  The path leads to the entry of that name in the directory or, if a link stands at this entry,
to where the link leads on; and every place that a run changes is where the path leads. -/
theorem path_inside_iff (c : Config) :
    (Path.Inside c.base c.path ↔
      (Path.isAbsolute c.release.fileName = false ∧
        ∃ s, Path.steps c.release.fileName = [.name s]) ∨
      (Path.isAbsolute c.release.fileName = true ∧ Path.Inside c.base c.release.fileName)) ∧
    (Path.IsFileName c.release.fileName →
      Path.components c.path = Path.components c.base ++ [.name c.release.fileName] ∧
      ∀ {σ : Type} (w : Writer σ) (h : Collaborators) (s : Scene σ),
        (Run.perform w c h s).2.calls =
          s.calls ++ (if s.tree.isThere c.path then [⟨c.path, ["--version"]⟩] else []) ∧
        (∀ k, s.tree.locate .reach c.path = .ok k →
          ∃ d, s.tree.locate .reach c.base = .ok d ∧
            s.tree.AtEntry d c.release.fileName k) ∧
        ∀ k, (Run.perform w c h s).2.tree.at? k ≠ s.tree.at? k →
          s.tree.locate .reach c.path = .ok k ∧
            ∃ d, s.tree.locate .reach c.base = .ok d ∧
              s.tree.AtEntry d c.release.fileName k) := by
  constructor
  · rw [path_eq]
    cases absolute : Path.isAbsolute c.release.fileName with
    | true => simp [Path.join_of_isAbsolute absolute]
    | false => simp [Path.inside_join_iff c.base_ne_empty absolute]
  · intro plain
    refine ⟨?_, ?_⟩
    · rw [path_eq, Path.components_join c.base_ne_empty plain.relative, plain.steps_eq]
    · intro σ w h s
      have entry : ∀ k, s.tree.locate .reach c.path = .ok k →
          ∃ d, s.tree.locate .reach c.base = .ok d ∧
            s.tree.AtEntry d c.release.fileName k := by
        intro k leads
        exact Tree.atEntry_of_locate c.base_ne_empty plain leads
      refine ⟨Run.calls_perform w c h s, entry, ?_⟩
      intro k changed
      have leads := locate_of_changed changed
      exact ⟨leads, entry k leads⟩

/-- A script of one octet, whose name climbs out of the directory. -/
def climbing : Config where
  release := { Release.pinned with sha256 := Digest.of [1], fileName := "../waf" }
  dir := "tools"

/-- A directory for the artefact, and nothing else. -/
def toolsOnly : Scene Bytes where
  tree := (Tree.emptyAt []).put ["tools"] .dir
  out := []

/-- Downloads give the script. -/
def oneOctetSent : Collaborators where
  run _ := .ok (.ofVersion Release.pinned.version)
  fetch _ := { result := .ok [1] }

/-- **A name that climbs:** the path takes a third step, and the artefact is installed beside its
directory, not in it. -/
theorem climbs_out :
    Path.components climbing.path = [.name "tools", .parent, .name "waf"] ∧
      ¬ Path.Inside climbing.base climbing.path ∧
      (Run.perform .unbounded climbing oneOctetSent toolsOnly).2.tree.at? ["waf"] =
        some (.file 0o744 [1]) ∧
      (Run.perform .unbounded climbing oneOctetSent toolsOnly).2.tree.at? ["tools", "waf"] =
        none := by
  have path : Path.components climbing.path = [.name "tools", .parent, .name "waf"] := by decide
  have base : Path.components climbing.base = [.name "tools"] := by decide
  have absent : ¬ toolsOnly.tree.isThere climbing.path = true := by decide
  have missing : Run.find toolsOnly.tree climbing oneOctetSent = .missing := if_neg absent
  have goes : (Run.find toolsOnly.tree climbing oneOctetSent).verdict = .ok false := by
    rw [missing]
    rfl
  have placed : Run.deliver toolsOnly.tree climbing oneOctetSent = .placed [1] ["waf"] :=
    Run.deliver_eq_placed_iff.mpr ⟨rfl, rfl, rfl⟩
  have left : (Run.perform .unbounded climbing oneOctetSent toolsOnly).2.tree =
      (Run.Delivery.placed [1] ["waf"]).tree toolsOnly.tree := by
    rw [Run.perform_eq, Scene.tree_after, Run.course_of_goes goes, placed]
  refine ⟨path, ?_, ?_, ?_⟩
  · rintro ⟨s, inside⟩
    rw [path, base] at inside
    exact absurd (congrArg List.length inside) (by simp)
  · rw [left]
    decide
  · rw [left]
    decide

end Config

end PinnedFetch
