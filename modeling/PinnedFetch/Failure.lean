/-
# Failures of a run

A run fails when a download fails, when the existing artefact cannot say its version, or when a
file or process operation fails.  `message` is the sentence for people, `detail` the form for the
log, `causes` the sentences of the failures underneath.
-/
import PinnedFetch.IoError

namespace PinnedFetch

open Text.Quoted (quote)

/-- Why a download gave no octets. -/
inductive DownloadFailure where
  /-- The exchange went wrong, for the reason given. -/
  | exchange (url reason : String)
  /-- The server does not have the artefact. -/
  | notFound (url : String)
  /-- The connection failed. -/
  | io (cause : IoError)
  deriving DecidableEq, Repr

/-- Why a run did not come to an outcome. -/
inductive Failure where
  /-- The download failed. -/
  | download (cause : DownloadFailure)
  /-- The artefact at `path` did not say its version. -/
  | version (path reason : String)
  /-- A file or process operation failed. -/
  | io (cause : IoError)
  /-- A scripted command was called in another way than the script foresees. -/
  | script (complaint : String)
  deriving DecidableEq, Repr

namespace DownloadFailure

/-- The sentence for people. -/
def message : DownloadFailure → String
  | exchange url reason => s!"download failed for {url}: {reason}"
  | notFound url => s!"artefact not found: {url}"
  | io cause => "I/O error reading download: " ++ cause.message

/-- The form for the log. -/
def detail : DownloadFailure → String
  | exchange url reason =>
    "HttpError \x7b url: " ++ quote url ++ ", reason: " ++ quote reason ++ " \x7d"
  | notFound url => "NotFound \x7b url: " ++ quote url ++ " \x7d"
  | io cause => "Io(" ++ cause.detail ++ ")"

/-- The failures underneath, outermost first. -/
def causes : DownloadFailure → List String
  | io cause => [cause.message]
  | _ => []

end DownloadFailure

namespace Failure

/-- The sentence for people. -/
def message : Failure → String
  | download cause => cause.message
  | version path reason => s!"failed to query version of {path}: {reason}"
  | io cause => "I/O error: " ++ cause.message
  | script complaint => "stub mismatch: " ++ complaint

/-- The form for the log. -/
def detail : Failure → String
  | download cause => "Download(" ++ cause.detail ++ ")"
  | version path reason =>
    "VersionQuery \x7b path: " ++ quote path ++ ", reason: " ++ quote reason ++ " \x7d"
  | io cause => "Io(" ++ cause.detail ++ ")"
  | script complaint => "StubMismatch \x7b message: " ++ quote complaint ++ " \x7d"

/-- The failures underneath, outermost first; a failed download is no layer of its own. -/
def causes : Failure → List String
  | download cause => cause.causes
  | io cause => [cause.message]
  | _ => []

end Failure
end PinnedFetch
