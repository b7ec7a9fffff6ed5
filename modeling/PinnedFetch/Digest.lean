/-
# Digests

A digest is 32 octets, shown as 64 lower-case hexadecimal characters.  `Digest.of` hashes an
octet string; `Digest.parse` reads the shown form and names the first rule a text breaks:
its length in octets, then a character that is no hexadecimal digit, then a capital.
-/
import PinnedFetch.Text.Hex
import PinnedFetch.Digest.Sha256

namespace PinnedFetch

/-- The 32 octets of a SHA-256 hash. -/
structure Digest where
  octets : Bytes
  length_octets : octets.length = 32
  deriving DecidableEq, Repr

/-- Why a text is not the shown form of a digest. -/
inductive DigestFault where
  /-- The text has this many octets, not 64. -/
  | length (found : Nat)
  /-- The leftmost character that is no hexadecimal digit. -/
  | notHex (c : Char)
  /-- The text holds a digit in upper case. -/
  | upperCase
  deriving DecidableEq, Repr

namespace DigestFault

/-- What the rule is, and how the text breaks it. -/
def reason : DigestFault → String
  | .length found => s!"expected 64 hex characters, got {found}"
  | .notHex c => s!"non-hex character '{c}'"
  | .upperCase => "digest must be lowercase"

/-- The line shown for a refused text. -/
def message (fault : DigestFault) : String := "invalid SHA-256 digest: " ++ fault.reason

end DigestFault

namespace Digest

/-- The digest of an octet string. -/
def of (bytes : Bytes) : Digest := ⟨Sha256.hash bytes, Sha256.length_hash bytes⟩

/-- The shown form: two digits for each octet. -/
def text (d : Digest) : String := String.ofList (Hex.encode d.octets)

/-- The digest whose octets a text of digits spells. -/
def ofHex? (cs : List Char) : Option Digest :=
  match Hex.decode cs with
  | some octets => if h : octets.length = 32 then some ⟨octets, h⟩ else none
  | none => none

/-- Reads a shown form.  The three rules are tried in the order length, digits, case. -/
def parse (s : String) : Except DigestFault Digest :=
  if s.utf8ByteSize ≠ 64 then .error (.length s.utf8ByteSize)
  else match s.toList.find? (fun c => !Hex.isDigit c) with
    | some c => .error (.notHex c)
    | none =>
      match ofHex? s.toList with
      | some d => .ok d
      | none => .error .upperCase

theorem ofHex?_encode (d : Digest) : ofHex? (Hex.encode d.octets) = some d := by
  simp [ofHex?, Hex.decode_encode, d.length_octets]

/-- Two digests with one shown form are equal. -/
theorem text_inj {d e : Digest} (h : d.text = e.text) : d = e := by
  have h' : Hex.encode d.octets = Hex.encode e.octets := by
    simpa [text] using congrArg String.toList h
  have ho := Hex.encode_inj h'
  cases d; cases e
  simp_all

end Digest
end PinnedFetch
