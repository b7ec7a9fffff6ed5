/-
# Hexadecimal text

An octet is written as two lower-case digits, the high half first.  Reading accepts the
lower-case digits alone, so every octet string has one written form:

* `decode_encode`:  reading what was written gives the octets back;
* `eq_encode_of_decode`:  a text that is read as `bs` is what `bs` is written as.
-/
import PinnedFetch.Bytes

namespace PinnedFetch.Hex

/-! ## 1. Digits -/

/-- The digit of a number below sixteen; lower case. -/
def digit (n : Nat) : Char := Nat.digitChar n

/-- The value of a lower-case digit. -/
def value? (c : Char) : Option Nat :=
  if '0' ≤ c ∧ c ≤ '9' then some (c.toNat - '0'.toNat)
  else if 'a' ≤ c ∧ c ≤ 'f' then some (c.toNat - 'a'.toNat + 10)
  else none

/-- A hexadecimal digit in either case. -/
def isDigit (c : Char) : Bool :=
  ('0' ≤ c && c ≤ '9') || ('a' ≤ c && c ≤ 'f') || ('A' ≤ c && c ≤ 'F')

theorem value?_digit {n : Nat} (h : n < 16) : value? (digit n) = some n := by
  have key : ∀ k : Fin 16, value? (digit k) = some k.val := by decide
  exact key ⟨n, h⟩

/-- A character with a value is the digit of that value. -/
theorem digit_of_value? {c : Char} {n : Nat} (h : value? c = some n) : n < 16 ∧ digit n = c := by
  have nat_le : ∀ {a b : Char}, a ≤ b → a.toNat ≤ b.toNat := fun h => h
  have back : Char.ofNat c.toNat = c := Char.ofNat_toNat c
  unfold value? at h
  split at h
  · next hc =>
    have low := nat_le hc.1
    have high := nat_le hc.2
    generalize c.toNat = k at *
    have hk : n = k - 48 := by simpa using h.symm
    have key : ∀ m : Fin 10, digit m.val = Char.ofNat (m.val + 48) := by decide
    have := key ⟨n, by simp at low high; omega⟩
    have e : n + 48 = k := by simp at low; omega
    simp only [e] at this
    exact ⟨by simp at high; omega, this.trans back⟩
  · split at h
    · next hc =>
      have low := nat_le hc.1
      have high := nat_le hc.2
      generalize c.toNat = k at *
      have hk : n = k - 97 + 10 := by simpa using h.symm
      have key : ∀ m : Fin 6, digit (m.val + 10) = Char.ofNat (m.val + 97) := by decide
      have := key ⟨n - 10, by simp at low high; omega⟩
      have e : n - 10 + 97 = k := by simp at low; omega
      have e' : n - 10 + 10 = n := by omega
      simp only [e, e'] at this
      exact ⟨by simp at high; omega, this.trans back⟩
    · cases h

/-! ## 2. Octet strings -/

/-- The written form of an octet string. -/
def encode : Bytes → List Char
  | [] => []
  | b :: bs => digit (b.toNat / 16) :: digit (b.toNat % 16) :: encode bs

/-- Reads a written form; an odd count, a capital or any other character is refused. -/
def decode : List Char → Option Bytes
  | [] => some []
  | [_] => none
  | hi :: lo :: cs =>
    match value? hi, value? lo, decode cs with
    | some h, some l, some bs => some (UInt8.ofNat (16 * h + l) :: bs)
    | _, _, _ => none

theorem length_encode (bs : Bytes) : (encode bs).length = 2 * bs.length := by
  induction bs with
  | nil => rfl
  | cons b bs ih => simp only [encode, List.length_cons, ih]; omega

theorem decode_encode (bs : Bytes) : decode (encode bs) = some bs := by
  induction bs with
  | nil => rfl
  | cons b bs ih =>
    have hb : b.toNat < 256 := b.toNat_lt_size
    have hi := value?_digit (n := b.toNat / 16) (by omega)
    have lo := value?_digit (n := b.toNat % 16) (by omega)
    simp only [encode, decode, hi, lo, ih]
    rw [Nat.div_add_mod, UInt8.ofNat_toNat]

/-- Two octet strings with one written form are equal. -/
theorem encode_inj {as bs : Bytes} (h : encode as = encode bs) : as = bs := by
  have := congrArg decode h
  rwa [decode_encode, decode_encode, Option.some.injEq] at this

/-- **A text that is read is the written form of what it is read as.** -/
theorem eq_encode_of_decode {cs : List Char} {bs : Bytes} (h : decode cs = some bs) :
    cs = encode bs := by
  fun_induction decode cs generalizing bs with
  | case1 => cases h; rfl
  | case2 => cases h
  | case3 hi lo cs a b more rest low high ih =>
    cases h
    obtain ⟨ha, rfl⟩ := digit_of_value? high
    obtain ⟨hb, rfl⟩ := digit_of_value? low
    have ht : (UInt8.ofNat (16 * a + b)).toNat = 16 * a + b := by
      simp [UInt8.toNat_ofNat']; omega
    have hq : (16 * a + b) / 16 = a := by omega
    have hr : (16 * a + b) % 16 = b := by omega
    simp only [encode, ht, hq, hr, ← ih rest]
  | case4 => cases h

end PinnedFetch.Hex
