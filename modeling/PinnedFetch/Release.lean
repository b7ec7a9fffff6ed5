/-
# Releases

A release says where a script is served, what its octets hash to and under which name it is
kept.  Its version is cut out of its tag: the field after the first dash, or the whole tag when
there is none.
-/
import PinnedFetch.Digest
import PinnedFetch.Text.Fields

namespace PinnedFetch

/-- A script that can be fetched. -/
structure Release where
  tag : String
  url : String
  sha256 : Digest
  /-- The name of the local file. -/
  fileName : String
  deriving DecidableEq, Repr

namespace Release

/-- The second field of the tag, cut at dashes; a tag without a dash is its own version. -/
def version (r : Release) : String :=
  match Text.secondField? '-' r.tag.toList with
  | some field => String.ofList field
  | none => r.tag

/-- The digest of the pinned script. -/
def pinnedDigest : Digest where
  octets :=
    [0x81, 0xc4, 0xe6, 0xa3, 0x14, 0x4c, 0x7b, 0x20, 0x21, 0xa8, 0x39, 0xe7, 0x27, 0x7b, 0xda, 0xf1,
     0xce, 0xdb, 0xbc, 0x87, 0x30, 0x21, 0x86, 0x89, 0x7b, 0x4a, 0xe0, 0x3f, 0x4e, 0xff, 0xcb, 0xf5]
  length_octets := rfl

/-- The release that the command line fetches. -/
def pinned : Release where
  tag := "waf-1.8.6"
  url := "http://waf.io/pub/release/waf-1.8.6"
  sha256 := pinnedDigest
  fileName := "waf"

end Release
end PinnedFetch
