/-
# URLs as they are written

A URL is written as a scheme in either case, two slashes behind a colon, an authority, a path with a
query, and a fragment that is not asked for (`Names`).  The reader takes these texts and no others,
and gives the URL that the text names (`read_eq_ok_iff`).

From a URL, a text that names one leads to it, wherever it is found (`resolve_names`); a path from
the root leads to this path on the same server (`resolve_path`).
-/
import PinnedFetch.Http.Url

namespace PinnedFetch.Http

/-! ## 1. Paths, queries and fragments -/

namespace Reference

/-- A path with its query. -/
inductive IsTarget : List Char → Prop
  | path {path : List Char} (chars : ∀ c ∈ path, isPathChar c = true) : IsTarget path
  | query {path query : List Char} (chars : ∀ c ∈ path, isPathChar c = true)
      (more : ∀ c ∈ query, isQueryChar c = true) : IsTarget (path ++ '?' :: query)

/-- A fragment with the sign before it, or none. -/
inductive IsFragment : List Char → Prop
  | missing : IsFragment []
  | given (cs : List Char) : IsFragment ('#' :: cs)

theorem isPathChar_ne {c : Char} (h : isPathChar c = true) : c ≠ '#' ∧ c ≠ '?' := by
  refine ⟨?_, ?_⟩ <;> rintro rfl <;> exact absurd h (by decide)

theorem isQueryChar_ne {c : Char} (h : isQueryChar c = true) : c ≠ '#' := by
  rintro rfl
  exact absurd h (by decide)

theorem IsTarget.number_not_mem {target : List Char} (h : IsTarget target) : '#' ∉ target := by
  cases h with
  | path chars => exact fun sign => (isPathChar_ne (chars _ sign)).1 rfl
  | query chars more =>
    simp only [List.mem_append, List.mem_cons, not_or]
    exact ⟨fun sign => (isPathChar_ne (chars _ sign)).1 rfl, by decide,
      fun sign => isQueryChar_ne (more _ sign) rfl⟩

theorem IsFragment.eq_of_head? {fragment : List Char} (h : IsFragment fragment) {c : Char}
    (first : fragment.head? = some c) : c = '#' := by
  cases h with
  | missing => exact absurd first (by simp)
  | given cs => exact (Option.some.inj first).symm

/-- What a run of other characters leaves over starts with the character, or is empty. -/
theorem dropWhile_ne_cases (sep : Char) (cs : List Char) :
    cs.dropWhile (· != sep) = [] ∨ ∃ rest, cs.dropWhile (· != sep) = sep :: rest := by
  cases e : cs.dropWhile (· != sep) with
  | nil => exact Or.inl rfl
  | cons c rest =>
    have first := List.head?_dropWhile_not (· != sep) cs
    rw [e] at first
    have same : c = sep := by simpa using first
    exact Or.inr ⟨rest, by rw [same]⟩

/-- The part up to a question mark, and the part behind it. -/
theorem all_iff_isTarget (whole : List Char) :
    ((whole.takeWhile (· != '?')).all isPathChar &&
        (whole.dropWhile (· != '?')).all isQueryChar) = true ↔ IsTarget whole := by
  rw [Bool.and_eq_true, List.all_eq_true, List.all_eq_true]
  constructor
  · rintro ⟨chars, more⟩
    rw [← List.takeWhile_append_dropWhile (p := (· != '?')) (l := whole)]
    rcases dropWhile_ne_cases '?' whole with none | ⟨query, some⟩
    · rw [none, List.append_nil]
      exact .path chars
    · rw [some] at more ⊢
      exact .query chars fun c hc => more c (List.mem_cons_of_mem _ hc)
  · intro target
    cases target with
    | path chars =>
      have inside : ∀ c ∈ whole, (c != '?') = true := fun c hc => by
        simpa using (isPathChar_ne (chars c hc)).2
      have taken : (whole ++ []).takeWhile (· != '?') = whole :=
        Text.takeWhile_run inside (by simp)
      have left : (whole ++ []).dropWhile (· != '?') = [] :=
        Text.dropWhile_run inside (by simp)
      rw [List.append_nil] at taken left
      rw [taken, left]
      exact ⟨chars, by simp⟩
    | @query path query chars more =>
      have inside : ∀ c ∈ path, (c != '?') = true := fun c hc => by
        simpa using (isPathChar_ne (chars c hc)).2
      rw [Text.takeWhile_run inside (by simp), Text.dropWhile_run inside (by simp)]
      refine ⟨chars, fun c hc => ?_⟩
      rcases List.mem_cons.mp hc with rfl | hc
      · decide
      · exact more c hc

/-- **What is read as a path.** -/
theorem readPath_eq_ok_iff {cs target : List Char} :
    readPath cs = .ok target ↔
      IsTarget target ∧ ∃ fragment, IsFragment fragment ∧ cs = target ++ fragment := by
  simp only [readPath]
  constructor
  · intro h
    split at h
    · rename_i all
      rw [← Except.ok.inj h]
      refine ⟨(all_iff_isTarget _).mp all, cs.dropWhile (· != '#'), ?_, ?_⟩
      · rcases dropWhile_ne_cases '#' cs with none | ⟨rest, some⟩
        · rw [none]
          exact .missing
        · rw [some]
          exact .given rest
      · exact List.takeWhile_append_dropWhile.symm
    · exact absurd h (by simp)
  · rintro ⟨target', fragment, ends, rfl⟩
    have whole : (target ++ fragment).takeWhile (· != '#') = target := by
      refine Text.takeWhile_run (fun c hc => ?_) fun c first => ?_
      · have other : c ≠ '#' := fun sign => target'.number_not_mem (sign ▸ hc)
        simpa using other
      · simp [ends.eq_of_head? first]
    rw [whole, if_pos ((all_iff_isTarget target).mpr target')]

/-! ## 2. Schemes and authorities -/

/-- The name or number of a server, with what may stand around it. -/
structure IsAuthority (cs : List Char) : Prop where
  given : cs ≠ []
  chars : ∀ c ∈ cs, isAuthorityChar c = true ∨ c = '%'
  sound : authorityIsSound cs = true

/-- What ends an authority. -/
def EndsAuthority (cs : List Char) : Prop :=
  ∀ c, cs.head? = some c → c = '/' ∨ c = '?' ∨ c = '#'

theorem splitScheme_eq_some_iff {cs scheme rest : List Char} :
    splitScheme cs = (some scheme, rest) ↔
      cs = scheme ++ ':' :: '/' :: '/' :: rest ∧ ∀ c ∈ scheme, isSchemeChar c = true := by
  unfold splitScheme
  constructor
  · intro h
    split at h
    · rename_i behind
      obtain ⟨taken, rfl⟩ := Prod.mk.inj h
      rw [← Option.some.inj taken, ← behind]
      exact ⟨List.takeWhile_append_dropWhile.symm, List.all_eq_true.mp List.all_takeWhile⟩
    · exact absurd (Prod.mk.inj h).1 (by simp)
  · rintro ⟨rfl, chars⟩
    have colon : ∀ c, (':' :: '/' :: '/' :: rest).head? = some c → isSchemeChar c = false := by
      intro c first
      rw [← Option.some.inj first]
      decide
    rw [Text.takeWhile_run chars colon, Text.dropWhile_run chars colon]
    rfl

theorem splitAuthority_eq_ok_iff {cs authority path : List Char} :
    splitAuthority cs = .ok (authority, path) ↔
      cs = authority ++ path ∧ (∀ c ∈ authority, isAuthorityChar c = true ∨ c = '%') ∧
        authorityIsSound authority = true ∧ EndsAuthority path := by
  simp only [splitAuthority]
  constructor
  · intro h
    split at h
    · exact absurd h (by simp)
    rename_i chars
    split at h
    · rename_i sound
      obtain ⟨rfl, rfl⟩ := Prod.mk.inj (Except.ok.inj h)
      refine ⟨List.takeWhile_append_dropWhile.symm, ?_, sound, ?_⟩
      · intro c hc
        rw [Bool.not_eq_true, Bool.not_eq_false'] at chars
        simpa using List.all_eq_true.mp chars c hc
      · intro c first
        have ends := List.head?_dropWhile_not (fun c => !(c = '/' || c = '?' || c = '#')) cs
        rw [first] at ends
        simpa [Classical.or_iff_not_imp_left] using ends
    · exact absurd h (by simp)
  · rintro ⟨rfl, chars, sound, ends⟩
    have inside : ∀ c ∈ authority, (!(c = '/' || c = '?' || c = '#')) = true := by
      intro c hc
      have other : ∀ e, isAuthorityChar e = false → e ≠ '%' → c ≠ e := by
        rintro e noChar noSign rfl
        rcases chars c hc with isChar | sign
        · exact absurd isChar (by simp [noChar])
        · exact noSign sign
      have slash := other '/' (by decide) (by decide)
      have mark := other '?' (by decide) (by decide)
      have number := other '#' (by decide) (by decide)
      simp [slash, mark, number]
    have outside : ∀ c, path.head? = some c → (!(c = '/' || c = '?' || c = '#')) = false := by
      intro c first
      rcases ends c first with rfl | rfl | rfl <;> rfl
    rw [Text.takeWhile_run inside outside, Text.dropWhile_run inside outside]
    have all : authority.all (fun c => isAuthorityChar c || c = '%') = true := by
      simpa using chars
    rw [all, if_neg (by simp), if_pos sound]

/-- A text with a scheme and an authority in it, and then a path with what may follow it. -/
def IsFull (text : List Char) (scheme authority : String) (target : List Char) : Prop :=
  ∃ fragment,
    text = scheme.toList ++ ':' :: '/' :: '/' :: (authority.toList ++ (target ++ fragment)) ∧
      (∀ c ∈ scheme.toList, isSchemeChar c = true) ∧ IsAuthority authority.toList ∧
      IsTarget target ∧ IsFragment fragment ∧ EndsAuthority (target ++ fragment)

section Full

variable {s scheme authority : String} {target : List Char}

/-- **What is read as a reference with a scheme and an authority has both in it.** -/
theorem isFull_of_read (h : read s = .ok ⟨some scheme, some authority, target⟩) :
    IsFull s.toList scheme authority target := by
  unfold read at h
  split at h
  · exact absurd h (by simp)
  · -- a path alone has no scheme
    rename_i cs _
    cases e : readPath ('/' :: cs) with
    | error fault =>
      rw [e] at h
      exact absurd h (by simp [bind, Except.bind])
    | ok path =>
      rw [e] at h
      exact absurd h (by simp [bind, Except.bind, pure, Except.pure])
  · rcases split : splitScheme s.toList with ⟨found, rest⟩
    simp only [split] at h
    cases cut : splitAuthority rest with
    | error fault =>
      rw [cut] at h
      exact absurd h (by simp [bind, Except.bind])
    | ok parts =>
      obtain ⟨server, path⟩ := parts
      rw [cut] at h
      simp only [bind, Except.bind] at h
      split at h
      · split at h
        · exact absurd h (by simp [pure, Except.pure])
        · exact absurd h (by simp)
      · rename_i found
        split at h
        · exact absurd h (by simp)
        rename_i given
        cases way : readPath path with
        | error fault =>
          rw [way] at h
          exact absurd h (by simp)
        | ok target' =>
          rw [way] at h
          simp only [pure, Except.pure, Except.ok.injEq, Reference.mk.injEq,
            Option.some.injEq] at h
          obtain ⟨rfl, rfl, rfl⟩ := h
          obtain ⟨written, schemes⟩ := splitScheme_eq_some_iff.mp split
          obtain ⟨rfl, chars, sound, ends⟩ := splitAuthority_eq_ok_iff.mp cut
          obtain ⟨isTarget, fragment, isFragment, rfl⟩ := readPath_eq_ok_iff.mp way
          unfold IsFull
          simp only [String.toList_ofList]
          exact ⟨fragment, written, schemes, ⟨given, chars, sound⟩, isTarget, isFragment, ends⟩

theorem read_of_isFull (h : IsFull s.toList scheme authority target) :
    read s = .ok ⟨some scheme, some authority, target⟩ := by
  obtain ⟨fragment, written, schemes, server, isTarget, isFragment, ends⟩ := h
  have split := splitScheme_eq_some_iff.mpr ⟨written, schemes⟩
  have cut := splitAuthority_eq_ok_iff.mpr ⟨rfl, server.chars, server.sound, ends⟩
  have way := readPath_eq_ok_iff.mpr ⟨isTarget, fragment, isFragment, rfl⟩
  unfold read
  split
  · rename_i empty
    rw [written] at empty
    exact absurd empty (by simp)
  · rename_i cs slash
    -- the first character is one of the scheme, or the colon behind it
    rw [written] at slash
    cases e : scheme.toList with
    | nil =>
      rw [e] at slash
      exact absurd (List.cons.inj slash).1 (by decide)
    | cons c rest =>
      rw [e] at slash schemes
      have first := schemes c List.mem_cons_self
      rw [(List.cons.inj slash).1] at first
      exact absurd first (by decide)
  · simp only [split, cut, bind, Except.bind, if_neg server.given, way, pure, Except.pure,
      String.ofList_toList]

end Full

end Reference

/-! ## 3. URLs -/

namespace Url

open Reference

/-- The text names the URL: the scheme in either case, two slashes behind a colon, the authority,
the path with its query, and a fragment that is left out. -/
inductive Names : String → Url → Prop
  | mk {text lower : String} {scheme authority target fragment : List Char}
      (written : text.toList =
        scheme ++ ':' :: '/' :: '/' :: (authority ++ (target ++ fragment)))
      (cased : scheme.map Char.toLower = lower.toList)
      (known : defaultService? lower ≠ none) (server : IsAuthority authority)
      (isTarget : IsTarget target) (rooted : EndsAuthority target)
      (isFragment : IsFragment fragment) :
      Names text ⟨lower, String.ofList authority, Url.rooted target⟩

theorem isAlphanum_of_toLower {c : Char} (h : isAlphanum c.toLower = true) :
    isAlphanum c = true := by
  unfold Char.toLower at h
  split at h
  · rename_i capital
    have upper : ('A' ≤ c && c ≤ 'Z') = true := by
      simp only [Bool.and_eq_true, decide_eq_true_eq]
      exact capital
    simp [isAlphanum, upper]
  · exact h

/-- A scheme that has a service is made of letters, in either case. -/
theorem isSchemeChar_of_known {scheme : List Char} {lower : String}
    (cased : scheme.map Char.toLower = lower.toList) (known : defaultService? lower ≠ none) :
    ∀ c ∈ scheme, isSchemeChar c = true := by
  have letters : ∀ c ∈ lower.toList, isAlphanum c = true := by
    unfold defaultService? at known
    split at known
    · rename_i http
      rw [http]
      exact List.all_eq_true.mp (by decide)
    · split at known
      · rename_i https
        rw [https]
        exact List.all_eq_true.mp (by decide)
      · exact absurd rfl known
  intro c hc
  have member : c.toLower ∈ lower.toList := cased ▸ List.mem_map_of_mem hc
  simp [isSchemeChar, isAlphanum_of_toLower (letters _ member)]

theorem ofReference_eq_ok_iff {r : Reference} {u : Url} :
    ofReference r = .ok u ↔ ∃ scheme authority lower, r = ⟨some scheme, some authority, r.path⟩ ∧
      scheme.toList.map Char.toLower = lower.toList ∧ defaultService? lower ≠ none ∧
      u = ⟨lower, authority, rooted r.path⟩ := by
  obtain ⟨scheme, authority, path⟩ := r
  constructor
  · intro h
    unfold ofReference at h
    split at h
    · exact absurd h (by simp)
    · exact absurd h (by simp)
    · rename_i scheme authority hs ha
      simp only at hs ha h
      split at h
      · rename_i service known
        refine ⟨scheme, authority, _, by rw [hs, ha], String.toList_ofList.symm, ?_,
          (Except.ok.inj h).symm⟩
        rw [known]
        exact Option.some_ne_none service
      · exact absurd h (by simp)
  · rintro ⟨scheme', authority', lower, e, cased, known, rfl⟩
    obtain ⟨rfl, rfl, -⟩ := Reference.mk.inj e
    obtain ⟨service, isKnown⟩ := Option.ne_none_iff_exists'.mp known
    simp only [ofReference, cased, String.ofList_toList, isKnown]

/-- **The reader takes the texts that name a URL, and no others.** -/
theorem read_eq_ok_iff {text : String} {u : Url} : read text = .ok u ↔ Names text u := by
  constructor
  · intro h
    unfold read at h
    split at h
    · rename_i r whole
      obtain ⟨scheme, authority, lower, full, cased, known, rfl⟩ := ofReference_eq_ok_iff.mp h
      rw [full] at whole
      obtain ⟨fragment, written, -, server, isTarget, isFragment, ends⟩ := isFull_of_read whole
      have rooted : EndsAuthority r.path := by
        intro c first
        refine ends c ?_
        rw [List.head?_append, first]
        rfl
      have named := Names.mk written cased known server isTarget rooted isFragment
      rwa [String.ofList_toList] at named
    · exact absurd h (by simp)
  · rintro ⟨written, cased, known, server, isTarget, rooted, isFragment⟩
    rename_i lower scheme authority target fragment
    have ends : EndsAuthority (target ++ fragment) := by
      intro c first
      cases target with
      | nil => exact Or.inr (Or.inr (isFragment.eq_of_head? first))
      | cons d rest => exact rooted c first
    have whole : Reference.read text =
        .ok ⟨some (String.ofList scheme), some (String.ofList authority), target⟩ := by
      refine read_of_isFull ?_
      unfold IsFull
      simp only [String.toList_ofList]
      exact ⟨fragment, written, isSchemeChar_of_known cased known, server, isTarget, isFragment,
        ends⟩
    unfold read
    rw [whole]
    simp only
    rw [ofReference_eq_ok_iff]
    exact ⟨_, _, lower, rfl, by rw [String.toList_ofList, cased], known, rfl⟩

/-! ## 4. Ways on -/

/-- A text that names a URL leads to it, wherever it is found. -/
theorem resolve_names {text : String} {v : Url} (names : Names text v) (u : Url) :
    u.resolve text = .ok v := by
  have taken := read_eq_ok_iff.mpr names
  obtain ⟨written, cased, known, -, -, -, -⟩ := names
  have split := splitScheme_eq_some_iff.mpr ⟨written, isSchemeChar_of_known cased known⟩
  unfold resolve
  simp only [split, taken]

/-- A path from the root leads to this path on the same server. -/
theorem resolve_path {text : String} {target fragment : List Char}
    (written : text.toList = '/' :: (target ++ fragment)) (isTarget : IsTarget ('/' :: target))
    (single : (target ++ fragment).head? ≠ some '/') (isFragment : IsFragment fragment) (u : Url) :
    u.resolve text = .ok { u with path := String.ofList ('/' :: target) } := by
  have noScheme : splitScheme ('/' :: (target ++ fragment)) = (none, '/' :: (target ++ fragment)) :=
    rfl
  have way : readPath ('/' :: (target ++ fragment)) = .ok ('/' :: target) :=
    readPath_eq_ok_iff.mpr ⟨isTarget, fragment, isFragment, rfl⟩
  unfold resolve
  rw [written, noScheme]
  split
  · rename_i e
    exact absurd (Prod.mk.inj e).1 (by simp)
  · rename_i e
    have double := (List.cons.inj (Prod.mk.inj e).2).2
    rw [double] at single
    exact absurd rfl single
  · rename_i e
    obtain ⟨-, rest⟩ := List.cons.inj (Prod.mk.inj e).2
    rw [← rest]
    simp only [way]
    rfl
  · rename_i e
    exact absurd (List.cons.inj (Prod.mk.inj e).2).1 (by decide)
  · rename_i e
    exact absurd (List.cons.inj (Prod.mk.inj e).2).1 (by decide)
  · rename_i e
    exact absurd (List.cons.inj (Prod.mk.inj e).2).1 (by decide)
  · rename_i noSlash _ _ _ e
    exact (noSlash _ (Prod.mk.inj e).2.symm).elim

end Url
end PinnedFetch.Http
