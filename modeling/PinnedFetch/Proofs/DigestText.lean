/-
# The shown form of a digest

A digest is 32 octets, and is met as a text.  Which texts are shown forms can be said without
reading them: 64 octets, each a lower-case digit (`IsShown`).  Reading takes these and no others,
and takes each for the digest it shows (`exists_text_iff`, `parse_eq_ok_iff`); there is one reader,
for texts that are lent and for texts that are handed over.

So it is all one whether digests are compared, or their shown forms, or a hash with the octets that
a shown form spells (`of_eq_iff`), and what a run writes has the very hash that the release names
(`download_mismatch_iff`).
-/
import PinnedFetch.Proofs.Course
import PinnedFetch.Proofs.Encoding

namespace PinnedFetch

/-! ## 1. Octets and characters of a text -/

namespace Utf8

theorem utf8Size_eq_one_iff (c : Char) : c.utf8Size = 1 ↔ c.toNat < 0x80 := by
  rw [Char.utf8Size_eq_one_iff, UInt32.le_iff_toNat_le]
  exact Nat.lt_succ_iff.symm

theorem length_encode_cons (c : Char) (cs : List Char) :
    (encode (c :: cs)).length = c.utf8Size + (encode cs).length := by
  rw [encode_cons, List.length_append, String.length_utf8EncodeChar]

/-- A text has as many octets as characters, or more. -/
theorem length_le_length_encode (cs : List Char) : cs.length ≤ (encode cs).length := by
  induction cs with
  | nil => exact Nat.le_refl 0
  | cons c cs ih =>
    have some := c.utf8Size_pos
    rw [length_encode_cons, List.length_cons]
    omega

/-- **A text has as many octets as characters when all of it is ASCII, and only then.** -/
theorem length_encode_eq_iff {cs : List Char} :
    (encode cs).length = cs.length ↔ ∀ c ∈ cs, c.toNat < 0x80 := by
  induction cs with
  | nil => simp
  | cons c cs ih =>
    have some := c.utf8Size_pos
    have least := length_le_length_encode cs
    rw [length_encode_cons, List.length_cons, List.forall_mem_cons, ← ih, ← utf8Size_eq_one_iff]
    omega

theorem length_ofText (s : String) : (Bytes.ofText s).length = s.utf8ByteSize := by
  simp [Bytes.ofText]

/-- The first octet of a character tells it, if it is an ASCII one. -/
theorem exists_octet {cs : List Char} {c : Char} (hc : c ∈ cs) :
    ∃ b ∈ encode cs, b < 0x80 → c = Char.ofNat b.toNat := by
  obtain ⟨b, more, octets⟩ := List.exists_cons_of_ne_nil (String.utf8EncodeChar_ne_nil (c := c))
  refine ⟨b, List.mem_flatMap.mpr ⟨c, hc, ?_⟩, fun small => ?_⟩
  · rw [octets]
    exact List.mem_cons_self
  · have head : (encode [c]).head? = some b := by
      rw [encode_cons, octets]
      rfl
    exact Option.some.inj ((head?_encode [c] small).mp head)

end Utf8

/-! ## 2. Digits, as characters and as octets -/

namespace Hex

/-- An octet that is a lower-case digit. -/
def IsDigitOctet (b : UInt8) : Prop := (0x30 ≤ b ∧ b ≤ 0x39) ∨ (0x61 ≤ b ∧ b ≤ 0x66)

instance : DecidablePred IsDigitOctet := fun _ => inferInstanceAs (Decidable (_ ∨ _))

theorem utf8EncodeChar_digit {n : Nat} (h : n < 16) :
    ∃ b, String.utf8EncodeChar (digit n) = [b] ∧ IsDigitOctet b := by
  have key : ∀ k : Fin 16, String.utf8EncodeChar (digit k) = [UInt8.ofNat (digit k).toNat] ∧
      IsDigitOctet (UInt8.ofNat (digit k).toNat) := by decide
  exact ⟨_, key ⟨n, h⟩⟩

theorem IsDigitOctet.small {b : UInt8} (h : IsDigitOctet b) : b < 0x80 := by
  unfold IsDigitOctet at h
  simp only [UInt8.le_iff_toNat_le, UInt8.lt_iff_toNat_lt, UInt8.reduceToNat] at h ⊢
  omega

theorem IsDigitOctet.value {b : UInt8} (h : IsDigitOctet b) :
    ∃ n, value? (Char.ofNat b.toNat) = some n := by
  have key : ∀ k : Fin 256, IsDigitOctet (UInt8.ofNat k) →
      (value? (Char.ofNat k)).isSome = true := by decide +kernel
  have digit := key ⟨b.toNat, b.toNat_lt_size⟩
  rw [UInt8.ofNat_toNat] at digit
  exact Option.isSome_iff_exists.mp (digit h)

/-- A digit in either case that is no lower-case one is a capital. -/
theorem capital_of_isDigit {c : Char} (h : isDigit c = true) (none : value? c = none) :
    'A' ≤ c ∧ c ≤ 'F' := by
  unfold isDigit at h
  unfold value? at none
  simp only [Bool.or_eq_true, Bool.and_eq_true, decide_eq_true_eq] at h
  split at none
  · exact absurd none (by simp)
  · rename_i noNumber
    split at none
    · exact absurd none (by simp)
    · rename_i noSmall
      rcases h with (number | small) | capital
      · exact absurd number noNumber
      · exact absurd small noSmall
      · exact capital

theorem isDigit_of_value {c : Char} {n : Nat} (h : value? c = some n) : isDigit c = true := by
  unfold value? at h
  unfold isDigit
  simp only [Bool.or_eq_true, Bool.and_eq_true, decide_eq_true_eq]
  split at h
  · rename_i number
    exact Or.inl (Or.inl number)
  · split at h
    · rename_i small
      exact Or.inl (Or.inr small)
    · exact absurd h (by simp)

theorem isDigit_small {c : Char} (h : isDigit c = true) : c.toNat < 0x80 := by
  have nat_le : ∀ {a b : Char}, a ≤ b → a.toNat ≤ b.toNat := fun h => h
  unfold isDigit at h
  simp only [Bool.or_eq_true, Bool.and_eq_true, decide_eq_true_eq] at h
  rcases h with (⟨-, high⟩ | ⟨-, high⟩) | ⟨-, high⟩
  · exact Nat.lt_of_le_of_lt (nat_le high) (by decide)
  · exact Nat.lt_of_le_of_lt (nat_le high) (by decide)
  · exact Nat.lt_of_le_of_lt (nat_le high) (by decide)

/-- Digits in pairs are read. -/
theorem exists_decode {n : Nat} : ∀ {cs : List Char}, cs.length = 2 * n →
    (∀ c ∈ cs, ∃ k, value? c = some k) → ∃ bs, decode cs = some bs ∧ bs.length = n := by
  induction n with
  | zero =>
    intro cs none _
    rw [List.length_eq_zero_iff.mp none]
    exact ⟨[], rfl, rfl⟩
  | succ n ih =>
    intro cs pairs digits
    match cs, pairs with
    | hi :: lo :: cs, pairs =>
      obtain ⟨h, high⟩ := digits hi List.mem_cons_self
      obtain ⟨l, low⟩ := digits lo (List.mem_cons_of_mem hi List.mem_cons_self)
      have rest : cs.length = 2 * n := by
        simp only [List.length_cons] at pairs
        omega
      obtain ⟨bs, read, length⟩ := ih rest
        fun c hc => digits c (List.mem_cons_of_mem hi (List.mem_cons_of_mem lo hc))
      refine ⟨UInt8.ofNat (16 * h + l) :: bs, ?_, congrArg Nat.succ length⟩
      rw [decode, high, low, read]
    | [_], pairs => exact absurd pairs (by simp; omega)

/-- What octets are written as is digits. -/
theorem value_of_mem_encode {bs : Bytes} {c : Char} (hc : c ∈ encode bs) :
    ∃ n, n < 16 ∧ c = digit n := by
  induction bs with
  | nil => exact absurd hc (by simp [encode])
  | cons b bs ih =>
    have small : b.toNat < 256 := b.toNat_lt_size
    rw [encode, List.mem_cons, List.mem_cons] at hc
    rcases hc with rfl | rfl | hc
    · exact ⟨b.toNat / 16, by omega, rfl⟩
    · exact ⟨b.toNat % 16, by omega, rfl⟩
    · exact ih hc

end Hex

/-! ## 3. Which texts are shown forms -/

namespace Digest

/-- The form in which digests are shown: 64 octets, each a lower-case digit. -/
structure IsShown (s : String) : Prop where
  size : (Bytes.ofText s).length = 64
  digits : ∀ b ∈ Bytes.ofText s, Hex.IsDigitOctet b

theorem isShown_text (d : Digest) : IsShown d.text := by
  have octets : Bytes.ofText d.text = Utf8.encode (Hex.encode d.octets) := Utf8.ofText_ofList _
  have ascii : ∀ c ∈ Hex.encode d.octets, c.toNat < 0x80 := by
    intro c hc
    obtain ⟨n, small, rfl⟩ := Hex.value_of_mem_encode hc
    exact Hex.isDigit_small (Hex.isDigit_of_value (Hex.value?_digit small))
  constructor
  · rw [octets, Utf8.length_encode_eq_iff.mpr ascii, Hex.length_encode, d.length_octets]
  · intro b hb
    rw [octets] at hb
    obtain ⟨c, hc, hb⟩ := List.mem_flatMap.mp hb
    obtain ⟨n, small, rfl⟩ := Hex.value_of_mem_encode hc
    obtain ⟨b', octet, digit⟩ := Hex.utf8EncodeChar_digit small
    rw [octet, List.mem_singleton] at hb
    exact hb ▸ digit

theorem ofHex?_eq_some_iff {cs : List Char} {d : Digest} :
    ofHex? cs = some d ↔ cs = Hex.encode d.octets := by
  constructor
  · intro h
    unfold ofHex? at h
    split at h
    · rename_i octets read
      split at h
      · obtain rfl := Option.some.inj h
        exact Hex.eq_encode_of_decode read
      · exact absurd h (by simp)
    · exact absurd h (by simp)
  · rintro rfl
    exact ofHex?_encode d

/-- 64 lower-case digits are the shown form of a digest. -/
theorem exists_ofHex? {cs : List Char} (length : cs.length = 64)
    (digits : ∀ c ∈ cs, ∃ n, Hex.value? c = some n) : ∃ d, ofHex? cs = some d := by
  obtain ⟨bs, read, size⟩ := Hex.exists_decode (n := 32) length digits
  exact ⟨⟨bs, size⟩, ofHex?_eq_some_iff.mpr (Hex.eq_encode_of_decode read)⟩

/-- **The shown forms are the texts of digests.** -/
theorem exists_text_iff {s : String} : (∃ d : Digest, d.text = s) ↔ IsShown s := by
  constructor
  · rintro ⟨d, rfl⟩
    exact isShown_text d
  · rintro ⟨size, digits⟩
    rw [Utf8.ofText_eq_encode] at size digits
    have lower : ∀ c ∈ s.toList, ∃ n, Hex.value? c = some n := by
      intro c hc
      obtain ⟨b, hb, tells⟩ := Utf8.exists_octet hc
      rw [tells (digits b hb).small]
      exact (digits b hb).value
    have ascii : ∀ c ∈ s.toList, c.toNat < 0x80 := by
      intro c hc
      obtain ⟨n, value⟩ := lower c hc
      exact Hex.isDigit_small (Hex.isDigit_of_value value)
    rw [Utf8.length_encode_eq_iff.mpr ascii] at size
    obtain ⟨d, read⟩ := exists_ofHex? size lower
    refine ⟨d, ?_⟩
    rw [text, ← ofHex?_eq_some_iff.mp read, String.ofList_toList]

theorem utf8ByteSize_text (d : Digest) : d.text.utf8ByteSize = 64 := by
  rw [← Utf8.length_ofText]
  exact (isShown_text d).size

/-- **A text is read as a digest when it is the shown form of that digest.** -/
theorem parse_eq_ok_iff {s : String} {d : Digest} : parse s = .ok d ↔ d.text = s := by
  constructor
  · intro h
    unfold parse at h
    split at h
    · exact absurd h (by simp)
    · split at h
      · exact absurd h (by simp)
      · split at h
        · rename_i e read
          obtain rfl := Except.ok.inj h
          rw [text, ← ofHex?_eq_some_iff.mp read, String.ofList_toList]
        · exact absurd h (by simp)
  · rintro rfl
    have chars : d.text.toList = Hex.encode d.octets := String.toList_ofList
    have clean : d.text.toList.find? (fun c => !Hex.isDigit c) = none := by
      rw [chars, List.find?_eq_none]
      intro c hc
      obtain ⟨n, small, rfl⟩ := Hex.value_of_mem_encode hc
      simp [Hex.isDigit_of_value (Hex.value?_digit small)]
    rw [parse, if_neg (by simp [utf8ByteSize_text]), clean]
    simp only [chars, ofHex?_encode]

/-- A hash is that of a digest when it is what the shown form of the digest spells. -/
theorem of_eq_iff {bytes : Bytes} {d : Digest} :
    of bytes = d ↔ Hex.decode d.text.toList = some (Sha256.hash bytes) := by
  have spelled : Hex.decode d.text.toList = some d.octets := by
    rw [text, String.toList_ofList, Hex.decode_encode]
  rw [spelled, Option.some.injEq]
  constructor
  · rintro rfl
    rfl
  · intro same
    obtain ⟨octets, length⟩ := d
    obtain rfl : octets = Sha256.hash bytes := same
    rfl

/-- The same of the two shown forms. -/
theorem text_of_eq_iff {bytes : Bytes} {d : Digest} :
    (of bytes).text = d.text ↔ Hex.decode d.text.toList = some (Sha256.hash bytes) := by
  rw [← of_eq_iff]
  constructor
  · exact text_inj
  · intro same
    rw [same]

end Digest

/-! ## 4. The digest gate -/

/-- Octets that were fetched are refused when their digest is another than that of the release. -/
theorem Run.download_mismatch_iff {σ : Type} (w : Writer σ) (c : Config) (h : Collaborators)
    (s : Scene σ) {bytes : Bytes} (given : (h.fetch c.release.url).result = .ok bytes) :
    (∃ actual expected, (download w c h s).1 = .ok (.mismatch actual expected)) ↔
      Digest.of bytes ≠ c.release.sha256 := by
  rw [download_eq, deliver, given]
  simp only
  split
  · rename_i right
    refine iff_of_false ?_ (fun wrong => wrong right)
    rintro ⟨actual, expected, ends⟩
    cases place : s.tree.place c.path with
    | error cause => exact absurd ends (by simp [place, Delivery.result])
    | ok l => exact absurd ends (by simp [place, Delivery.result])
  · rename_i wrong
    exact iff_of_true ⟨_, _, rfl⟩ wrong

namespace Digest

/-- **A digest is equal to another when the hashes are.**  Reading takes the shown forms and no
other text, and keeps each as it is.  Every digest there is, by hashing, by reading or with the
pinned release, has a shown form, and is what its shown form is read as.  The digest of octets is a
given one, and has its shown form, exactly when the hash of the octets is what that form spells;
octets that were fetched are refused in no other case than that it is not. -/
theorem shown_forms :
    (∀ s, (∃ d, parse s = .ok d) ↔ IsShown s) ∧
      (∀ s d, parse s = .ok d → d.text = s) ∧
      (∀ d : Digest, IsShown d.text ∧ parse d.text = .ok d) ∧
      Release.pinned.sha256.text =
        "81c4e6a3144c7b2021a839e7277bdaf1cedbbc87302186897b4ae03f4effcbf5" ∧
      (∀ bytes d, (of bytes = d ↔ Hex.decode d.text.toList = some (Sha256.hash bytes)) ∧
        ((of bytes).text = d.text ↔ Hex.decode d.text.toList = some (Sha256.hash bytes))) ∧
      ∀ (σ : Type) (w : Writer σ) (c : Config) (h : Collaborators) (s : Scene σ) (bytes : Bytes),
        (h.fetch c.release.url).result = .ok bytes →
          ((∃ actual expected, (Run.download w c h s).1 = .ok (.mismatch actual expected)) ↔
            Hex.decode c.release.sha256.text.toList ≠ some (Sha256.hash bytes)) := by
  refine ⟨?_, ?_, ?_, by decide, ?_, ?_⟩
  · intro s
    rw [← exists_text_iff]
    exact exists_congr fun d => parse_eq_ok_iff
  · intro s d read
    exact parse_eq_ok_iff.mp read
  · intro d
    exact ⟨isShown_text d, parse_eq_ok_iff.mpr rfl⟩
  · intro bytes d
    exact ⟨of_eq_iff, text_of_eq_iff⟩
  · intro σ w c h s bytes given
    rw [Run.download_mismatch_iff w c h s given]
    exact not_congr of_eq_iff

end Digest

end PinnedFetch
