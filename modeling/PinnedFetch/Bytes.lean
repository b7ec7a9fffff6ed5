/-
# Octet strings

Everything the library hashes, writes, reads back or takes off a connection is a list of
octets.  Text enters as the octets of its UTF-8 form.
-/

namespace PinnedFetch

/-- A string of octets, in order. -/
abbrev Bytes := List UInt8

namespace Bytes

/-- The octets of a text in UTF-8. -/
def ofText (s : String) : Bytes := s.toUTF8.data.toList

/-- `n` copies of an octet string, one after another. -/
def times (n : Nat) (bs : Bytes) : Bytes := (List.replicate n bs).flatten

end Bytes
end PinnedFetch
