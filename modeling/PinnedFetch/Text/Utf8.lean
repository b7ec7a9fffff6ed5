/-
# UTF-8

The reader takes one octet at a time and keeps what the sequence it is in still owes.  It stops
at the first ill-formed sequence and reports where that sequence starts and how many octets
belong to it; a sequence that the end of the input cuts off has no such count.  `encode` is the
writer it is read against: the octets of each character in turn (`decode_encode`).
-/
import PinnedFetch.Bytes

namespace PinnedFetch.Utf8

/-! ## 1. The writer -/

/-- The octets of a list of characters. -/
def encode (cs : List Char) : Bytes := cs.flatMap String.utf8EncodeChar

@[simp] theorem encode_nil : encode [] = [] := rfl

@[simp] theorem encode_cons (c : Char) (cs : List Char) :
    encode (c :: cs) = String.utf8EncodeChar c ++ encode cs := rfl

theorem encode_append (cs ds : List Char) : encode (cs ++ ds) = encode cs ++ encode ds := by
  simp [encode]

/-! ## 2. The reader -/

/-- The first ill-formed sequence of an octet string. -/
structure IllFormed where
  /-- The octets before it, all well formed. -/
  index : Nat
  /-- Its length; none when the input ends inside it. -/
  length : Option Nat
  deriving DecidableEq, Repr

/-- Where the sequence is, in words. -/
def IllFormed.message : IllFormed → String
  | ⟨index, some n⟩ => s!"invalid utf-8 sequence of {n} bytes from index {index}"
  | ⟨index, none⟩ => s!"incomplete utf-8 byte sequence from index {index}"

/-- A sequence that has begun. -/
structure Pending where
  /-- The bits read so far. -/
  bits : Nat
  /-- The octets read so far. -/
  taken : Nat
  /-- The octets owed after the next one. -/
  owed : Nat
  /-- Least and greatest value of the next octet. -/
  low : UInt8
  high : UInt8
  deriving DecidableEq, Repr

/-- The sequence that an octet of `0x80` or more opens, if it opens one.  The bounds of the
second octet keep out overlong forms, surrogates and values past `0x10FFFF`. -/
def lead? (b : UInt8) : Option Pending :=
  if 0xC2 ≤ b ∧ b ≤ 0xDF then some ⟨b.toNat - 0xC0, 1, 0, 0x80, 0xBF⟩
  else if b = 0xE0 then some ⟨0, 1, 1, 0xA0, 0xBF⟩
  else if b = 0xED then some ⟨0xD, 1, 1, 0x80, 0x9F⟩
  else if 0xE1 ≤ b ∧ b ≤ 0xEF then some ⟨b.toNat - 0xE0, 1, 1, 0x80, 0xBF⟩
  else if b = 0xF0 then some ⟨0, 1, 2, 0x90, 0xBF⟩
  else if 0xF1 ≤ b ∧ b ≤ 0xF3 then some ⟨b.toNat - 0xF0, 1, 2, 0x80, 0xBF⟩
  else if b = 0xF4 then some ⟨4, 1, 2, 0x80, 0x8F⟩
  else none

/-- The bits of a sequence after one more octet. -/
def Pending.shift (p : Pending) (b : UInt8) : Nat := 64 * p.bits + (b.toNat - 0x80)

/-- A sequence after an octet that does not end it. -/
def Pending.next (p : Pending) (b : UInt8) : Pending :=
  ⟨p.shift b, p.taken + 1, p.owed - 1, 0x80, 0xBF⟩

/-- Reads on from a sequence that starts at `index` (`some`), or from between characters. -/
def scan (index : Nat) : Option Pending → Bytes → Except IllFormed (List Char)
  | none, [] => .ok []
  | some _, [] => .error ⟨index, none⟩
  | none, b :: bs =>
    if b < 0x80 then (Char.ofNat b.toNat :: ·) <$> scan (index + 1) none bs
    else match lead? b with
      | some p => scan index (some p) bs
      | none => .error ⟨index, some 1⟩
  | some p, b :: bs =>
    if p.low ≤ b ∧ b ≤ p.high then
      if p.owed = 0 then
        (Char.ofNat (p.shift b) :: ·) <$> scan (index + p.taken + 1) none bs
      else scan index (some (p.next b)) bs
    else .error ⟨index, some p.taken⟩

/-- The characters of a well-formed octet string. -/
def decode (bs : Bytes) : Except IllFormed (List Char) := scan 0 none bs

/-- The text of a well-formed octet string. -/
def text (bs : Bytes) : Except IllFormed String := String.ofList <$> decode bs

/-- The characters before the first ill-formed sequence, and the octets from there on. -/
def split (bs : Bytes) : List Char × Bytes :=
  match decode bs with
  | .ok cs => (cs, [])
  | .error fault =>
    match decode (bs.take fault.index) with
    | .ok cs => (cs, bs.drop fault.index)
    | .error _ => ([], bs)

/-! ## 3. Reading what was written -/

/-- An octet that continues a sequence. -/
theorem toNat_continuation {m : Nat} (h : m < 64) : (UInt8.ofNat (m + 128)).toNat = m + 128 := by
  simp [UInt8.toNat_ofNat']; omega

theorem scan_continuation {p : Pending} {m : Nat} (h : m < 64) (low : p.low.toNat ≤ m + 128)
    (high : m + 128 ≤ p.high.toNat) (index : Nat) (bs : Bytes) :
    scan index (some p) (UInt8.ofNat (m + 128) :: bs) =
      if p.owed = 0 then
        (Char.ofNat (64 * p.bits + m) :: ·) <$> scan (index + p.taken + 1) none bs
      else scan index (some ⟨64 * p.bits + m, p.taken + 1, p.owed - 1, 0x80, 0xBF⟩) bs := by
  have ht := toNat_continuation h
  have inside : p.low ≤ UInt8.ofNat (m + 128) ∧ UInt8.ofNat (m + 128) ≤ p.high := by
    rw [UInt8.le_iff_toNat_le, UInt8.le_iff_toNat_le, ht]
    exact ⟨low, high⟩
  have hs : p.shift (UInt8.ofNat (m + 128)) = 64 * p.bits + m := by
    unfold Pending.shift
    rw [ht]
    exact congrArg (64 * p.bits + ·) (Nat.add_sub_cancel m 128)
  rw [scan, if_pos inside]
  simp only [Pending.next, hs]

theorem scan_ascii {n : Nat} (h : n < 128) (index : Nat) (bs : Bytes) :
    scan index none (UInt8.ofNat n :: bs) = (Char.ofNat n :: ·) <$> scan (index + 1) none bs := by
  have ht : (UInt8.ofNat n).toNat = n := by simp [UInt8.toNat_ofNat']; omega
  have small : UInt8.ofNat n < 0x80 := by
    rw [UInt8.lt_iff_toNat_lt, ht]
    exact h
  rw [scan, if_pos small, ht]

theorem scan_lead {b : UInt8} {p : Pending} (big : ¬ b < 0x80) (h : lead? b = some p)
    (index : Nat) (bs : Bytes) : scan index none (b :: bs) = scan index (some p) bs := by
  rw [scan, if_neg big, h]

theorem lead_two : ∀ k : Fin 32, 2 ≤ k.val →
    ¬ UInt8.ofNat (k.val + 192) < 0x80 ∧
      lead? (UInt8.ofNat (k.val + 192)) = some ⟨k.val, 1, 0, 0x80, 0xBF⟩ := by
  decide

theorem lead_three : ∀ k : Fin 16,
    ¬ UInt8.ofNat (k.val + 224) < 0x80 ∧
      lead? (UInt8.ofNat (k.val + 224)) = some ⟨k.val, 1, 1,
        if k.val = 0 then 0xA0 else 0x80, if k.val = 13 then 0x9F else 0xBF⟩ := by
  decide

theorem lead_four : ∀ k : Fin 5,
    ¬ UInt8.ofNat (k.val + 240) < 0x80 ∧
      lead? (UInt8.ofNat (k.val + 240)) = some ⟨k.val, 1, 2,
        if k.val = 0 then 0x90 else 0x80, if k.val = 4 then 0x8F else 0xBF⟩ := by
  decide

/-- **A character is read back from its octets.** -/
theorem scan_utf8EncodeChar (c : Char) (index : Nat) (bs : Bytes) :
    scan index none (String.utf8EncodeChar c ++ bs) =
      (c :: ·) <$> scan (index + (String.utf8EncodeChar c).length) none bs := by
  have valid : c.toNat < 0xD800 ∨ 0xDFFF < c.toNat ∧ c.toNat < 0x110000 := c.valid
  have back : Char.ofNat c.toNat = c := Char.ofNat_toNat c
  have hv : c.val.toNat = c.toNat := rfl
  unfold String.utf8EncodeChar
  simp only [hv]
  generalize c.toNat = n at valid back
  subst back
  by_cases h1 : n ≤ 127
  · rw [if_pos h1]
    exact scan_ascii (by omega) index bs
  rw [if_neg h1]
  by_cases h2 : n ≤ 2047
  · rw [if_pos h2]
    have lead := lead_two ⟨n / 64 % 32, by omega⟩ (by simp only; omega)
    simp only [List.cons_append, List.nil_append, List.length_cons, List.length_nil]
    rw [scan_lead lead.1 lead.2, scan_continuation (by omega) (by simp) (by simp; omega)]
    have : 64 * (n / 64 % 32) + n % 64 = n := by omega
    simp [this]
  rw [if_neg h2]
  by_cases h3 : n ≤ 65535
  · rw [if_pos h3]
    have lead := lead_three ⟨n / 4096 % 16, by omega⟩
    simp only [List.cons_append, List.nil_append, List.length_cons, List.length_nil]
    rw [scan_lead lead.1 lead.2, scan_continuation (by omega), if_neg (by simp),
      scan_continuation (by omega) (by simp) (by simp; omega)]
    · have : 64 * (64 * (n / 4096 % 16) + n / 64 % 64) + n % 64 = n := by omega
      simp [this]
    · simp only
      split
      · simp; omega
      · simp
    · simp only
      split
      · simp; omega
      · simp; omega
  · rw [if_neg h3]
    have lead := lead_four ⟨n / 262144 % 8, by omega⟩
    simp only [List.cons_append, List.nil_append, List.length_cons, List.length_nil]
    rw [scan_lead lead.1 lead.2, scan_continuation (by omega), if_neg (by simp),
      scan_continuation (by omega) (by simp) (by simp; omega), if_neg (by simp),
      scan_continuation (by omega) (by simp) (by simp; omega)]
    · have : 64 * (64 * (64 * (n / 262144 % 8) + n / 4096 % 64) + n / 64 % 64) + n % 64 = n := by
        omega
      simp [this]
    · simp only
      split
      · simp; omega
      · simp
    · simp only
      split
      · simp; omega
      · simp; omega

theorem scan_encode (cs : List Char) (index : Nat) : scan index none (encode cs) = .ok cs := by
  induction cs generalizing index with
  | nil => rfl
  | cons c cs ih =>
    rw [encode_cons, scan_utf8EncodeChar, ih]
    rfl

/-- **What was written is read back.** -/
theorem decode_encode (cs : List Char) : decode (encode cs) = .ok cs := scan_encode cs 0

/-! ## 4. The reader that does not stop -/

/-- What stands for an ill-formed sequence. -/
def replacement : Char := '\uFFFD'

/-- What an octet between two characters gives: a character, or a sequence that begins. -/
def opening (b : UInt8) : List Char × Option Pending :=
  if b < 0x80 then ([Char.ofNat b.toNat], none)
  else match lead? b with
    | some p => ([], some p)
    | none => ([replacement], none)

/-- Reads on, and puts the replacement for every ill-formed sequence. -/
def repairFrom : Option Pending → Bytes → List Char
  | none, [] => []
  | some _, [] => [replacement]
  | none, b :: bs => (opening b).1 ++ repairFrom (opening b).2 bs
  | some p, b :: bs =>
    if p.low ≤ b ∧ b ≤ p.high then
      if p.owed = 0 then Char.ofNat (p.shift b) :: repairFrom none bs
      else repairFrom (some (p.next b)) bs
    else replacement :: ((opening b).1 ++ repairFrom (opening b).2 bs)

/-- The text of an octet string, ill-formed sequences replaced. -/
def repair (bs : Bytes) : String := String.ofList (repairFrom none bs)

end PinnedFetch.Utf8
