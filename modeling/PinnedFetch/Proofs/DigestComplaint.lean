/-
# What a refused digest is told

A text that is no shown form is told the first rule it breaks, in words (`Complaint`): its length,
then a character that is no digit, then a capital.  The rules speak of characters.  But the first of
them is checked on octets, and so is the number that is told.

The two counts agree in a text of ASCII alone.  In any other text the complaint is wrong, and
`complaint_right_iff` says that there is no exception: 64 characters with an accent among them are
told to be 65 hexadecimal ones (`miscounted`), and 32 that take two octets each pass for 64.
-/
import PinnedFetch.Proofs.DigestText

namespace PinnedFetch.Digest

/-! ## 1. The first broken rule -/

/-- The first rule that a text breaks, in words, when the text counts as `size` characters. -/
inductive Complaint (size : Nat) (cs : List Char) : String → Prop
  | length (other : size ≠ 64) : Complaint size cs s!"expected 64 hex characters, got {size}"
  | digit {front back : List Char} {c : Char} (full : size = 64) (cut : cs = front ++ c :: back)
      (before : ∀ x ∈ front, Hex.isDigit x = true) (bad : Hex.isDigit c = false) :
      Complaint size cs s!"non-hex character '{c}'"
  | capital (full : size = 64) (digits : ∀ x ∈ cs, Hex.isDigit x = true)
      (upper : ∃ x ∈ cs, 'A' ≤ x ∧ x ≤ 'F') : Complaint size cs "digest must be lowercase"

/-- Among 64 digits that are no shown form there is a capital. -/
theorem exists_capital {cs : List Char} (length : cs.length = 64)
    (digits : ∀ c ∈ cs, Hex.isDigit c = true) (unread : ofHex? cs = none) :
    ∃ c ∈ cs, 'A' ≤ c ∧ c ≤ 'F' := by
  refine Classical.byContradiction fun small => ?_
  have lower : ∀ c ∈ cs, ∃ n, Hex.value? c = some n := by
    intro c hc
    cases value : Hex.value? c with
    | some n => exact ⟨n, rfl⟩
    | none => exact absurd ⟨c, hc, Hex.capital_of_isDigit (digits c hc) value⟩ small
  obtain ⟨d, read⟩ := exists_ofHex? length lower
  exact absurd (read.symm.trans unread) (by simp)

/-- **A refused text is told the first rule it breaks, when its octets are counted.** -/
theorem complaint_of_parse {s : String} {f : DigestFault} (refused : parse s = .error f) :
    Complaint s.utf8ByteSize s.toList f.reason := by
  unfold parse at refused
  split at refused
  · rename_i other
    obtain rfl := Except.error.inj refused
    exact .length other
  · rename_i full
    replace full : s.utf8ByteSize = 64 := Decidable.not_not.mp full
    split at refused
    · rename_i c found
      obtain rfl := Except.error.inj refused
      obtain ⟨bad, front, back, cut, before⟩ := List.find?_eq_some_iff_append.mp found
      refine .digit full cut ?_ ?_
      · intro x hx
        simpa using before x hx
      · simpa using bad
    · rename_i clean
      have digits : ∀ x ∈ s.toList, Hex.isDigit x = true := by
        intro x hx
        simpa using List.find?_eq_none.mp clean x hx
      split at refused
      · exact absurd refused (by simp)
      · rename_i unread
        obtain rfl := Except.error.inj refused
        have length : s.toList.length = 64 := by
          rw [← full, ← Utf8.length_ofText, Utf8.ofText_eq_encode]
          exact (Utf8.length_encode_eq_iff.mpr fun x hx => Hex.isDigit_small (digits x hx)).symm
        exact .capital full digits (exists_capital length digits unread)

/-! ## 2. A complaint tells the length it goes by -/

theorem toString_inj {m n : Nat} (h : toString m = toString n) : m = n := by
  have digits : Nat.toDigits 10 m = Nat.toDigits 10 n := by
    rw [Nat.toString_eq_ofList_toDigits, Nat.toString_eq_ofList_toDigits] at h
    exact String.ofList_injective h
  have read := congrArg (Nat.ofDigitChars 10 · 0) digits
  simpa [Nat.ofDigitChars_toDigits] using read

/-- A complaint about the length starts with a letter that no other complaint starts with. -/
theorem Complaint.length_or {n : Nat} {cs : List Char} {reason : String}
    (h : Complaint n cs reason) :
    reason = s!"expected 64 hex characters, got {n}" ∨
      n = 64 ∧ reason.toList.head? ≠ some 'e' := by
  cases h with
  | length other => exact Or.inl rfl
  | digit full cut before bad =>
    refine Or.inr ⟨full, ?_⟩
    simp [toString]
  | capital full digits upper => exact Or.inr ⟨full, by decide⟩

/-- **One complaint goes by one length only.** -/
theorem Complaint.size_unique {m n : Nat} {cs ds : List Char} {reason : String}
    (hm : Complaint m cs reason) (hn : Complaint n ds reason) : m = n := by
  have starts (k : Nat) : (s!"expected 64 hex characters, got {k}").toList.head? = some 'e' := by
    simp [toString]
  rcases hm.length_or with told | ⟨rfl, other⟩
  · rcases hn.length_or with told' | ⟨rfl, other'⟩
    · have same := congrArg String.toList (told.symm.trans told')
      rw [String.toList_append, String.toList_append] at same
      exact toString_inj (String.toList_inj.mp (List.append_cancel_left same))
    · rw [told] at other'
      exact absurd (starts m) other'
  · rcases hn.length_or with told' | ⟨rfl, other'⟩
    · rw [told'] at other
      exact absurd (starts n) other
    · rfl

/-! ## 3. When the complaint is right -/

/-- **A refused text is told the rule it breaks first, by its octets; this is the rule it breaks
first by its characters if the text is ASCII, and only then.** -/
theorem complaint_right_iff {s : String} {f : DigestFault} (refused : parse s = .error f) :
    Complaint s.utf8ByteSize s.toList f.reason ∧
      (Complaint s.length s.toList f.reason ↔ ∀ c ∈ s.toList, c.toNat < 0x80) := by
  have told := complaint_of_parse refused
  refine ⟨told, ?_⟩
  have octets : (Utf8.encode s.toList).length = s.utf8ByteSize := by
    rw [← Utf8.length_ofText, Utf8.ofText_eq_encode]
  rw [← Utf8.length_encode_eq_iff, octets, String.length_toList]
  constructor
  · intro right
    exact told.size_unique right
  · intro same
    rwa [same] at told

/-- The digest of the pinned script in capitals. -/
def capitals : String := "81C4E6A3144C7B2021A839E7277BDAF1CEDBBC87302186897B4AE03F4EFFCBF5"

/-- It is rightly told to be written small. -/
theorem complaint_capitals :
    parse capitals = .error .upperCase ∧
      Complaint capitals.length capitals.toList "digest must be lowercase" := by
  have octets : capitals.utf8ByteSize = 64 := by decide
  have clean : capitals.toList.find? (fun c => !Hex.isDigit c) = none := by decide
  have unread : ofHex? capitals.toList = none := by decide
  have refused : parse capitals = .error .upperCase := by
    rw [parse, octets, if_neg (by decide), clean]
    simp only [unread]
  have small : capitals.toList.all (fun c => decide (c.toNat < 0x80)) = true := by decide
  have ascii : ∀ c ∈ capitals.toList, c.toNat < 0x80 := by
    intro c hc
    exact of_decide_eq_true (List.all_eq_true.mp small c hc)
  exact ⟨refused, (complaint_right_iff refused).2.mpr ascii⟩

/-- 64 characters, the last of them one with an accent. -/
def accented : String := "aaaaaaaaaaaaaaaaaaaaaaaaaaaaaaaaaaaaaaaaaaaaaaaaaaaaaaaaaaaaaaaé"

/-- **They are counted as 65,** and are not told of the accent. -/
theorem miscounted :
    accented.length = 64 ∧ parse accented = .error (.length 65) ∧
      ¬ Complaint accented.length accented.toList (DigestFault.length 65).reason ∧
      Complaint accented.length accented.toList (DigestFault.notHex 'é').reason := by
  have chars : accented.length = 64 := by decide
  have octets : accented.utf8ByteSize = 65 := by decide
  have refused : parse accented = .error (.length 65) := by
    rw [parse, octets, if_pos (by decide)]
  refine ⟨chars, refused, ?_, ?_⟩
  · intro right
    have same := right.size_unique (complaint_of_parse refused)
    rw [chars, octets] at same
    exact absurd same (by decide)
  · rw [chars]
    have cut : accented.toList = List.replicate 63 'a' ++ 'é' :: [] := by decide
    refine .digit rfl cut ?_ (by decide)
    intro x hx
    rw [List.eq_of_mem_replicate hx]
    decide

end PinnedFetch.Digest
