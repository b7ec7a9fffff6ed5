/-
# The two cuts of a version

A version is cut out twice: out of the tag of a release, at dashes and as it stands, and out of the
line that an artefact prints, at spaces and trimmed.  Both cuts take a second field, which
`secondField?_eq_some_iff` says without reference to how it is found.

An artefact that prints the line of its version is asked, and what is read is the part before the
first space of the version, trimmed (`ofOutput_ofVersion`).  So the line gives the version back
exactly when that part is all of it (`Plain`, `ofOutput_ofVersion_eq_ok_iff`); of any other version,
the artefact that has it reports a different one.
-/
import Mathlib.Data.List.DropRight
import PinnedFetch.Proofs.Encoding
import PinnedFetch.Release
import PinnedFetch.Version

namespace PinnedFetch

/-! ## 1. Fields -/

namespace Text

theorem firstField_append_sep (sep : Char) (cs rest : List Char) :
    firstField sep (cs ++ sep :: rest) = firstField sep cs := by
  induction cs with
  | nil => simp [firstField]
  | cons c cs ih =>
    rw [List.cons_append, firstField, firstField, List.takeWhile_cons, List.takeWhile_cons]
    split
    · exact congrArg (c :: ·) ih
    · rfl

theorem firstField_eq_self_iff {sep : Char} {cs : List Char} :
    firstField sep cs = cs ↔ sep ∉ cs := by
  constructor
  · intro h
    rw [← h]
    exact sep_not_mem_firstField sep cs
  · intro h
    refine List.takeWhile_eq_self_iff.mpr fun c hc => ?_
    exact bne_iff_ne.mpr fun e => h (e ▸ hc)

theorem firstField_eq_nil_iff {sep : Char} {cs : List Char} :
    firstField sep cs = [] ↔ cs = [] ∨ cs.head? = some sep := by
  cases cs with
  | nil => simp [firstField]
  | cons c cs => simp [firstField, List.takeWhile_cons]

theorem secondField?_append_sep {sep : Char} {p : List Char} (h : sep ∉ p) (rest : List Char) :
    secondField? sep (p ++ sep :: rest) = some (firstField sep rest) := by
  have before : ∀ c ∈ p, (c != sep) = true := fun c hc => bne_iff_ne.mpr fun e => h (e ▸ hc)
  rw [secondField?, afterField?, List.dropWhile_append_of_pos before]
  simp

/-- **The second field** is the first one of what comes after the first separator. -/
theorem secondField?_eq_some_iff {sep : Char} {cs f : List Char} :
    secondField? sep cs = some f ↔
      ∃ p rest, sep ∉ p ∧ cs = p ++ sep :: rest ∧ firstField sep rest = f := by
  constructor
  · intro h
    have there : sep ∈ cs := by
      by_contra none
      rw [secondField?_of_not_mem none] at h
      exact absurd h (by simp)
    obtain ⟨p, rest, rfl, before⟩ := List.eq_append_cons_of_mem there
    rw [secondField?_append_sep before] at h
    exact ⟨p, rest, before, rfl, Option.some.inj h⟩
  · rintro ⟨p, rest, before, rfl, rfl⟩
    exact secondField?_append_sep before rest

/-! ## 2. Trimming -/

theorem trimStart_eq_self_iff {cs : List Char} :
    trimStart cs = cs ↔ ∀ c, cs.head? = some c → isBlank c = false := by
  cases cs with
  | nil => simp
  | cons c cs =>
    rw [trimStart, List.dropWhile_eq_self_iff]
    simp

theorem trimEnd_eq_self_iff {cs : List Char} :
    trimEnd cs = cs ↔ ∀ c, cs.getLast? = some c → isBlank c = false := by
  rw [trimEnd, List.reverse_eq_iff]
  have h := @trimStart_eq_self_iff cs.reverse
  rw [List.head?_reverse] at h
  exact h

theorem trimStart_sublist (cs : List Char) : (trimStart cs).Sublist cs :=
  List.dropWhile_sublist isBlank

theorem trim_sublist_trimStart (cs : List Char) : (trim cs).Sublist (trimStart cs) :=
  (List.rdropWhile_prefix isBlank (trimStart cs)).sublist

theorem trim_sublist (cs : List Char) : (trim cs).Sublist cs :=
  (trim_sublist_trimStart cs).trans (trimStart_sublist cs)

/-- Trimming leaves a text alone when it has no blank at either end. -/
theorem trim_eq_self_iff {cs : List Char} :
    trim cs = cs ↔ (∀ c, cs.head? = some c → isBlank c = false) ∧
      ∀ c, cs.getLast? = some c → isBlank c = false := by
  constructor
  · intro h
    -- Between the text and its trimmed self, which are one, stands its trimmed start.
    have after := trim_sublist_trimStart cs
    rw [h] at after
    have start : trimStart cs = cs := (trimStart_sublist cs).antisymm after
    rw [trim, start] at h
    exact ⟨trimStart_eq_self_iff.mp start, trimEnd_eq_self_iff.mp h⟩
  · rintro ⟨head, last⟩
    rw [trim, trimStart_eq_self_iff.mpr head, trimEnd_eq_self_iff.mpr last]

end Text

/-! ## 3. The line of a version, read back -/

namespace Version

open Text (firstField trim isBlank)

theorem token?_versionLine (v : String) :
    token? (CommandOutput.versionLine v).toList = some (trim (firstField ' ' v.toList)) := by
  have line : (CommandOutput.versionLine v).toList =
      "waf".toList ++ ' ' :: (v.toList ++ ' ' ::
        "(54dc13ba5f51bfe2ae277451ec5ac1d0a91c7aaf)\n".toList) := by
    simp [CommandOutput.versionLine, toString]
  rw [token?, line, Text.secondField?_append_sep (by decide), Text.firstField_append_sep]
  rfl

/-- **What an artefact of a version reports:** the version up to its first space, trimmed. -/
theorem ofOutput_ofVersion (v : String) :
    ofOutput (.ofVersion v) = .ok (String.ofList (trim (firstField ' ' v.toList))) := by
  have done : (WaitStatus.ofCode 0).isSuccess = true := by decide
  simp only [ofOutput, CommandOutput.ofVersion, done, Utf8.decode_ofText, token?_versionLine,
    if_true]

/-- A version that its line gives back: there is no space in it, and no blank at either end. -/
structure Plain (v : String) : Prop where
  solid : ' ' ∉ v.toList
  head : ∀ c, v.toList.head? = some c → isBlank c = false
  last : ∀ c, v.toList.getLast? = some c → isBlank c = false

theorem plain_iff (v : String) :
    Plain v ↔ ' ' ∉ v.toList ∧ v.toList.head?.all (!isBlank ·) = true ∧
      v.toList.getLast?.all (!isBlank ·) = true := by
  simp only [Option.all_eq_true, Bool.not_eq_true']
  constructor
  · rintro ⟨solid, head, last⟩
    exact ⟨solid, head, last⟩
  · rintro ⟨solid, head, last⟩
    exact ⟨solid, head, last⟩

instance (v : String) : Decidable (Plain v) := decidable_of_iff _ (plain_iff v).symm

/-- **An artefact reports its own version when that is plain, and only then.** -/
theorem ofOutput_ofVersion_eq_ok_iff (v : String) : ofOutput (.ofVersion v) = .ok v ↔ Plain v := by
  rw [ofOutput_ofVersion]
  have reads : (Except.ok (String.ofList (trim (firstField ' ' v.toList))) :
      Except VersionFault String) = .ok v ↔ trim (firstField ' ' v.toList) = v.toList := by
    rw [Except.ok.injEq, ← String.toList_inj, String.toList_ofList]
  rw [reads]
  constructor
  · intro same
    have solid : ' ' ∉ v.toList := by
      rw [← same]
      intro space
      exact Text.sep_not_mem_firstField ' ' v.toList ((Text.trim_sublist _).mem space)
    rw [Text.firstField_eq_self_iff.mpr solid] at same
    obtain ⟨head, last⟩ := Text.trim_eq_self_iff.mp same
    exact ⟨solid, head, last⟩
  · rintro ⟨solid, head, last⟩
    rw [Text.firstField_eq_self_iff.mpr solid]
    exact Text.trim_eq_self_iff.mpr ⟨head, last⟩

theorem ofResult_of_plain {v : String} (plain : Plain v) (path : String) :
    ofResult path (.ok (.ofVersion v)) = .ok v := by
  rw [ofResult, (ofOutput_ofVersion_eq_ok_iff v).mpr plain]

end Version

end PinnedFetch
