/-
# Downloads that are prepared beforehand

A prepared downloader gives the same octets for every URL, or cannot be reached, and counts how
often it is asked.
-/
import PinnedFetch.Collaborators

namespace PinnedFetch.Replay

/-- What a download gives when there are no prepared answers left. -/
def downloadsExhausted : DownloadFailure := .io (.told .other "downloader script exhausted")

/-- A prepared downloader. -/
structure Downloader where
  /-- The octets it serves; none when it cannot be reached. -/
  payload : Option Bytes
  /-- How often it was asked. -/
  asked : Nat := 0

namespace Downloader

/-- One request: its result, and the downloader that has counted it. -/
def fetch (d : Downloader) (url : String) : DownloadResult × Downloader :=
  (match d.payload with
    | some bytes => .ok bytes
    | none => .error (.exchange url "connection refused"),
   { d with asked := d.asked + 1 })

end Downloader
end PinnedFetch.Replay
