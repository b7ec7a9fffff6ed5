/-
# Notices

The lines that a run writes for people.  Progress can be switched off; the four lines about a
checksum that does not match are always shown.
-/
import PinnedFetch.Digest

namespace PinnedFetch

/-- What a run tells people. -/
inductive Notice where
  /-- A download is about to start. -/
  | downloading (url : String)
  /-- The artefact that is there will do. -/
  | kept (name : String)
  /-- The artefact that is there has the version but not the digest. -/
  | stale (name : String)
  /-- The download was verified and written. -/
  | verified
  /-- The download has another digest than the release. -/
  | mismatch (actual expected : Digest)
  deriving DecidableEq, Repr

namespace Notice

/-- The lines of a notice. -/
def lines : Notice → List String
  | downloading url => [s!"Downloading {url}..."]
  | kept name => [s!"Found '{name}', skipping download."]
  | stale name => [s!"Existing '{name}' failed verification, downloading again."]
  | verified => ["Checksum verified."]
  | mismatch actual expected =>
    ["The checksum of the downloaded file does not match!",
     " - got:      " ++ actual.text,
     " - expected: " ++ expected.text,
     "Please download and verify the file manually."]

/-- Whether a notice only reports progress. -/
def isProgress : Notice → Bool
  | mismatch _ _ => false
  | _ => true

end Notice
end PinnedFetch
