/-
# Octets that are text

The reader of UTF-8 takes octets one at a time, the writer gives characters whole.  That the reader
reads back what was written is `Utf8.decode_encode`.  This module has the other half: octets that the
reader takes are those that the writer gives for what was read (`Utf8.decode_eq_ok_iff`), so a text
has one form in octets, overlong forms and surrogates are none, and of octets with a fault in them
nothing is lost by cutting them there (`Utf8.encode_split`).

The octets of one character are read by their number, which the first of them settles (`Lead`); what
is left is arithmetic on the bits (`utf8EncodeChar_two` and its neighbours).
-/
import PinnedFetch.Text.Utf8

namespace PinnedFetch.Utf8

/-! ## 1. The octets of a character, by their number -/

/-- A character as the number it was read as. -/
theorem val_ofNat {n : Nat} (valid : n.isValidChar) : (Char.ofNat n).val.toNat = n := by
  rw [Char.ofNat, dif_pos valid]
  rfl

theorem ofNat_eq {n : Nat} {b : UInt8} (h : n = b.toNat) : UInt8.ofNat n = b := by
  rw [h, UInt8.ofNat_toNat]

theorem utf8EncodeChar_one {b : UInt8} (small : b.toNat < 0x80) :
    String.utf8EncodeChar (Char.ofNat b.toNat) = [b] := by
  have valid : b.toNat.isValidChar := Or.inl (by omega)
  unfold String.utf8EncodeChar
  simp only [val_ofNat valid]
  rw [if_pos (by omega), UInt8.ofNat_toNat]

theorem utf8EncodeChar_two {b c : UInt8} (lead : 0xC2 ≤ b.toNat ∧ b.toNat ≤ 0xDF)
    (last : 0x80 ≤ c.toNat ∧ c.toNat ≤ 0xBF) :
    String.utf8EncodeChar (Char.ofNat (64 * (b.toNat - 0xC0) + (c.toNat - 0x80))) = [b, c] := by
  have valid : (64 * (b.toNat - 0xC0) + (c.toNat - 0x80)).isValidChar := Or.inl (by omega)
  unfold String.utf8EncodeChar
  simp only [val_ofNat valid]
  rw [if_neg (by omega), if_pos (by omega), ofNat_eq (b := b) (by omega),
    ofNat_eq (b := c) (by omega)]

/-- The bounds of the second octet keep out overlong forms and surrogates. -/
theorem utf8EncodeChar_three {b c d : UInt8} (lead : 0xE0 ≤ b.toNat ∧ b.toNat ≤ 0xEF)
    (next : 0x80 ≤ c.toNat ∧ c.toNat ≤ 0xBF) (long : b.toNat = 0xE0 → 0xA0 ≤ c.toNat)
    (scalar : b.toNat = 0xED → c.toNat ≤ 0x9F) (last : 0x80 ≤ d.toNat ∧ d.toNat ≤ 0xBF) :
    String.utf8EncodeChar (Char.ofNat
      (64 * (64 * (b.toNat - 0xE0) + (c.toNat - 0x80)) + (d.toNat - 0x80))) = [b, c, d] := by
  have valid : (64 * (64 * (b.toNat - 0xE0) + (c.toNat - 0x80)) +
      (d.toNat - 0x80)).isValidChar := by
    by_cases low : b.toNat < 0xED ∨ b.toNat = 0xED
    · exact Or.inl (by omega)
    · exact Or.inr ⟨by omega, by omega⟩
  unfold String.utf8EncodeChar
  simp only [val_ofNat valid]
  rw [if_neg (by omega), if_neg (by omega), if_pos (by omega), ofNat_eq (b := b) (by omega),
    ofNat_eq (b := c) (by omega), ofNat_eq (b := d) (by omega)]

/-- The bounds of the second octet keep out overlong forms and what is beyond all characters. -/
theorem utf8EncodeChar_four {b c d e : UInt8} (lead : 0xF0 ≤ b.toNat ∧ b.toNat ≤ 0xF4)
    (next : 0x80 ≤ c.toNat ∧ c.toNat ≤ 0xBF) (long : b.toNat = 0xF0 → 0x90 ≤ c.toNat)
    (scalar : b.toNat = 0xF4 → c.toNat ≤ 0x8F) (third : 0x80 ≤ d.toNat ∧ d.toNat ≤ 0xBF)
    (last : 0x80 ≤ e.toNat ∧ e.toNat ≤ 0xBF) :
    String.utf8EncodeChar (Char.ofNat
      (64 * (64 * (64 * (b.toNat - 0xF0) + (c.toNat - 0x80)) + (d.toNat - 0x80)) +
        (e.toNat - 0x80))) = [b, c, d, e] := by
  have valid : (64 * (64 * (64 * (b.toNat - 0xF0) + (c.toNat - 0x80)) + (d.toNat - 0x80)) +
      (e.toNat - 0x80)).isValidChar := Or.inr ⟨by omega, by omega⟩
  unfold String.utf8EncodeChar
  simp only [val_ofNat valid]
  rw [if_neg (by omega), if_neg (by omega), if_neg (by omega), ofNat_eq (b := b) (by omega),
    ofNat_eq (b := c) (by omega), ofNat_eq (b := d) (by omega), ofNat_eq (b := e) (by omega)]

/-! ## 2. What the reader takes -/

/-- The sequences that an octet may open, by the number of octets they owe after the second. -/
inductive Lead (b : UInt8) (p : Pending) : Prop where
  | two (owed : p.owed = 0) (lead : 0xC2 ≤ b.toNat ∧ b.toNat ≤ 0xDF)
      (value : p.bits = b.toNat - 0xC0) (bounds : 0x80 ≤ p.low.toNat ∧ p.high.toNat ≤ 0xBF)
  | three (owed : p.owed = 1) (lead : 0xE0 ≤ b.toNat ∧ b.toNat ≤ 0xEF)
      (value : p.bits = b.toNat - 0xE0) (bounds : 0x80 ≤ p.low.toNat ∧ p.high.toNat ≤ 0xBF)
      (long : b.toNat = 0xE0 → 0xA0 ≤ p.low.toNat)
      (scalar : b.toNat = 0xED → p.high.toNat ≤ 0x9F)
  | four (owed : p.owed = 2) (lead : 0xF0 ≤ b.toNat ∧ b.toNat ≤ 0xF4)
      (value : p.bits = b.toNat - 0xF0) (bounds : 0x80 ≤ p.low.toNat ∧ p.high.toNat ≤ 0xBF)
      (long : b.toNat = 0xF0 → 0x90 ≤ p.low.toNat)
      (scalar : b.toNat = 0xF4 → p.high.toNat ≤ 0x8F)

/-- Whatever the reader takes for the first octet of a sequence is one. -/
theorem lead_of_lead? {b : UInt8} {p : Pending} (h : lead? b = some p) : Lead b p := by
  have wide : 0x80 ≤ (0x80 : UInt8).toNat ∧ (0xBF : UInt8).toNat ≤ 0xBF := by decide
  unfold lead? at h
  simp only [UInt8.le_iff_toNat_le, ← UInt8.toNat_inj] at h
  simp only [UInt8.reduceToNat] at h
  split at h
  · rw [← Option.some.inj h]
    exact .two rfl (by omega) rfl wide
  split at h
  · rw [← Option.some.inj h]
    exact .three rfl (by omega) (by simp only; omega) ⟨by decide, by decide⟩ (fun _ => by decide)
      (by omega)
  split at h
  · rw [← Option.some.inj h]
    exact .three rfl (by omega) (by simp only; omega) ⟨by decide, by decide⟩ (by omega)
      (fun _ => by decide)
  split at h
  · rw [← Option.some.inj h]
    exact .three rfl (by omega) rfl wide (by omega) (by omega)
  split at h
  · rw [← Option.some.inj h]
    exact .four rfl (by omega) (by simp only; omega) ⟨by decide, by decide⟩ (fun _ => by decide)
      (by omega)
  split at h
  · rw [← Option.some.inj h]
    exact .four rfl (by omega) rfl wide (by omega) (by omega)
  split at h
  · rw [← Option.some.inj h]
    exact .four rfl (by omega) (by simp only; omega) ⟨by decide, by decide⟩ (by omega)
      (fun _ => by decide)
  · exact absurd h (by simp)

/-- A sequence that has begun is read on with an octet within its bounds. -/
theorem scan_within {i : Nat} {p : Pending} {bs : Bytes} {cs : List Char}
    (h : scan i (some p) bs = .ok cs) :
    ∃ b rest, bs = b :: rest ∧ p.low ≤ b ∧ b ≤ p.high := by
  cases bs with
  | nil => exact absurd h (by simp [scan])
  | cons b rest =>
    by_cases within : p.low ≤ b ∧ b ≤ p.high
    · exact ⟨b, rest, rfl, within⟩
    · rw [scan, if_neg within] at h
      exact absurd h (by simp)

theorem map_cons_eq_ok {c : Char} {x : Except IllFormed (List Char)} {cs : List Char}
    (h : (c :: ·) <$> x = .ok cs) : ∃ more, cs = c :: more ∧ x = .ok more := by
  cases x with
  | error fault => exact absurd h (by simp [Functor.map, Except.map])
  | ok more => exact ⟨more, (Except.ok.inj h).symm, rfl⟩

/-- The last octet of a sequence ends a character. -/
theorem scan_last {i : Nat} {p : Pending} {bs : Bytes} {cs : List Char} (last : p.owed = 0)
    (h : scan i (some p) bs = .ok cs) :
    ∃ b rest more, bs = b :: rest ∧ (p.low.toNat ≤ b.toNat ∧ b.toNat ≤ p.high.toNat) ∧
      cs = Char.ofNat (p.shift b) :: more ∧ scan (i + p.taken + 1) none rest = .ok more := by
  obtain ⟨b, rest, rfl, within⟩ := scan_within h
  rw [scan, if_pos within, if_pos last] at h
  obtain ⟨more, same, step⟩ := map_cons_eq_ok h
  exact ⟨b, rest, more, rfl, within, same, step⟩

/-- An octet that is not the last of its sequence leaves one fewer to read. -/
theorem scan_next {i : Nat} {p : Pending} {bs : Bytes} {cs : List Char} (owes : p.owed ≠ 0)
    (h : scan i (some p) bs = .ok cs) :
    ∃ b rest, bs = b :: rest ∧ (p.low.toNat ≤ b.toNat ∧ b.toNat ≤ p.high.toNat) ∧
      scan i (some (p.next b)) rest = .ok cs := by
  obtain ⟨b, rest, rfl, within⟩ := scan_within h
  rw [scan, if_pos within, if_neg owes] at h
  exact ⟨b, rest, rfl, within, h⟩

/-- The bits of a sequence whose bits so far have the value `v`. -/
theorem Pending.shift_of_bits {v : Nat} {p : Pending} (value : p.bits = v) (b : UInt8) :
    p.shift b = 64 * v + (b.toNat - 0x80) := by
  rw [← value]
  rfl

theorem Pending.bits_next {v : Nat} {p : Pending} (value : p.bits = v) (b : UInt8) :
    (p.next b).bits = 64 * v + (b.toNat - 0x80) := shift_of_bits value b

theorem Pending.owed_next {n : Nat} (p : Pending) (b : UInt8) (owed : p.owed = n + 1) :
    (p.next b).owed = n := by
  exact (congrArg (· - 1) owed).trans (Nat.add_sub_cancel n 1)

/-- After the second octet any continuation is within the bounds. -/
theorem next_bounds {p : Pending} {b c : UInt8}
    (within : (p.next b).low.toNat ≤ c.toNat ∧ c.toNat ≤ (p.next b).high.toNat) :
    0x80 ≤ c.toNat ∧ c.toNat ≤ 0xBF := within

/-- **The reader takes one character after another.**  What it takes for the first of them are the
octets of that character. -/
theorem scan_cons {i : Nat} {b : UInt8} {bs : Bytes} {cs : List Char}
    (h : scan i none (b :: bs) = .ok cs) :
    ∃ c more rest j, cs = c :: more ∧ b :: bs = String.utf8EncodeChar c ++ rest ∧
      scan j none rest = .ok more := by
  rw [scan] at h
  split at h
  · rename_i small
    obtain ⟨more, rfl, step⟩ := map_cons_eq_ok h
    refine ⟨_, more, bs, _, rfl, ?_, step⟩
    rw [utf8EncodeChar_one (UInt8.lt_iff_toNat_lt.mp small)]
    rfl
  split at h
  · rename_i p lead
    cases lead_of_lead? lead with
    | two owed lead value bounds =>
      obtain ⟨c, rest, more, rfl, within, rfl, step⟩ := scan_last owed h
      refine ⟨_, more, rest, _, rfl, ?_, step⟩
      rw [Pending.shift_of_bits value,
        utf8EncodeChar_two lead (by omega)]
      rfl
    | three owed lead value bounds long scalar =>
      obtain ⟨c, rest, rfl, second, h⟩ := scan_next (by omega) h
      obtain ⟨d, rest, more, rfl, last, rfl, step⟩ := scan_last (p.owed_next c owed) h
      refine ⟨_, more, rest, _, rfl, ?_, step⟩
      rw [Pending.shift_of_bits (Pending.bits_next value c),
        utf8EncodeChar_three lead (by omega) (by omega) (by omega)
          (next_bounds last)]
      rfl
    | four owed lead value bounds long scalar =>
      obtain ⟨c, rest, rfl, second, h⟩ := scan_next (by omega) h
      have owed := p.owed_next c owed
      obtain ⟨d, rest, rfl, third, h⟩ := scan_next (by omega) h
      obtain ⟨e, rest, more, rfl, last, rfl, step⟩ := scan_last ((p.next c).owed_next d owed) h
      refine ⟨_, more, rest, _, rfl, ?_, step⟩
      rw [Pending.shift_of_bits (Pending.bits_next (Pending.bits_next value c) d),
        utf8EncodeChar_four lead (by omega) (by omega) (by omega)
          (next_bounds third) (next_bounds last)]
      rfl
  · exact absurd h (by simp)

/-! ## 3. The reader and the writer -/

/-- The induction is on the characters that were read. -/
theorem encode_of_scan {cs : List Char} :
    ∀ {i : Nat} {bs : Bytes}, scan i none bs = .ok cs → encode cs = bs := by
  induction cs with
  | nil =>
    intro i bs h
    cases bs with
    | nil => rfl
    | cons b bs =>
      obtain ⟨c, more, rest, j, none, -, -⟩ := scan_cons h
      exact absurd none (by simp)
  | cons c cs ih =>
    intro i bs h
    cases bs with
    | nil => exact absurd h (by simp [scan])
    | cons b bs =>
      obtain ⟨d, more, rest, j, same, octets, step⟩ := scan_cons h
      obtain ⟨rfl, rfl⟩ := List.cons.inj same
      rw [octets, encode_cons, ih step]

/-- **The reader takes what the writer gives, and nothing else.** -/
theorem decode_eq_ok_iff {bs : Bytes} {cs : List Char} : decode bs = .ok cs ↔ bs = encode cs := by
  constructor
  · intro h
    exact (encode_of_scan h).symm
  · rintro rfl
    exact decode_encode cs

theorem ofText_eq_encode (s : String) : Bytes.ofText s = encode s.toList := by
  have whole : s.toUTF8 = s.toList.utf8Encode := String.utf8Encode_toList.symm
  rw [Bytes.ofText, whole]
  simp [encode, List.utf8Encode]

theorem decode_ofText (s : String) : decode (Bytes.ofText s) = .ok s.toList :=
  decode_eq_ok_iff.mpr (ofText_eq_encode s)

/-- **Octets are a text when they are its octets.** -/
theorem text_eq_ok_iff {bs : Bytes} {s : String} : text bs = .ok s ↔ bs = Bytes.ofText s := by
  rw [ofText_eq_encode, ← decode_eq_ok_iff, text]
  cases e : decode bs with
  | error fault => simp [Functor.map, Except.map]
  | ok cs =>
    simp only [Functor.map, Except.map, Except.ok.injEq]
    rw [← String.toList_inj, String.toList_ofList]

/-- Octets that are no text are cut in two, and nothing is lost. -/
theorem encode_split (bs : Bytes) : encode (split bs).1 ++ (split bs).2 = bs := by
  unfold split
  cases whole : decode bs with
  | ok cs =>
    simp only
    rw [List.append_nil, ← decode_eq_ok_iff.mp whole]
  | error fault =>
    simp only
    cases front : decode (bs.take fault.index) with
    | ok cs =>
      simp only
      rw [← decode_eq_ok_iff.mp front, List.take_append_drop]
    | error _ => rfl

theorem split_encode (cs : List Char) : split (encode cs) = (cs, []) := by
  rw [split, decode_encode]

/-! ## 4. Texts and their octets, one for one -/

theorem ofText_ofList (cs : List Char) : Bytes.ofText (String.ofList cs) = encode cs := by
  rw [ofText_eq_encode, String.toList_ofList]

theorem ofText_append (s t : String) :
    Bytes.ofText (s ++ t) = Bytes.ofText s ++ Bytes.ofText t := by
  rw [ofText_eq_encode, ofText_eq_encode, ofText_eq_encode, String.toList_append, encode_append]

/-- A text is empty where its octets are. -/
theorem encode_eq_nil_iff {cs : List Char} : encode cs = [] ↔ cs = [] := by
  constructor
  · intro none
    exact Except.ok.inj ((decode_encode cs).symm.trans (congrArg decode none))
  · rintro rfl
    rfl

/-- Texts that have the same octets are the same. -/
theorem encode_inj {cs ds : List Char} : encode cs = encode ds ↔ cs = ds := by
  rw [← decode_eq_ok_iff, decode_encode, Except.ok.injEq]

theorem ofText_inj {s t : String} : Bytes.ofText s = Bytes.ofText t ↔ s = t := by
  rw [ofText_eq_encode, ofText_eq_encode, encode_inj, String.toList_inj]

/-- An octet below `0x80` is a character, and stands nowhere else. -/
theorem head?_encode (cs : List Char) {b : UInt8} (small : b < 0x80) :
    (encode cs).head? = some b ↔ cs.head? = some (Char.ofNat b.toNat) := by
  constructor
  · intro h
    obtain ⟨bs, octets⟩ := List.head?_eq_some_iff.mp h
    have read := decode_encode cs
    rw [octets, decode, scan, if_pos small] at read
    obtain ⟨more, rfl, -⟩ := map_cons_eq_ok read
    rfl
  · intro h
    obtain ⟨ds, rfl⟩ := List.head?_eq_some_iff.mp h
    rw [encode_cons, utf8EncodeChar_one (UInt8.lt_iff_toNat_lt.mp small)]
    rfl

/-- A text in ASCII has an octet for each character. -/
theorem encode_ascii {cs : List Char} (ascii : ∀ c ∈ cs, c.toNat < 0x80) :
    encode cs = cs.map fun c => UInt8.ofNat c.toNat := by
  induction cs with
  | nil => rfl
  | cons c cs ih =>
    have small := ascii c List.mem_cons_self
    have value : (UInt8.ofNat c.toNat).toNat = c.toNat :=
      UInt8.toNat_ofNat_of_lt (Nat.lt_trans small (by decide))
    have one := utf8EncodeChar_one (b := UInt8.ofNat c.toNat) (by omega)
    rw [value, Char.ofNat_toNat] at one
    rw [encode_cons, one, ih fun d hd => ascii d (List.mem_cons_of_mem c hd)]
    rfl

end PinnedFetch.Utf8
