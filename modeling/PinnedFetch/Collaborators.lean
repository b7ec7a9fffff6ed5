/-
# Collaborators of a run

A run leaves two things to others: running a command and downloading from a URL.  Neither touches
the file tree, and a run asks each of them once at most, so a function says all there is to say.
-/
import PinnedFetch.Failure
import PinnedFetch.Log.Record
import PinnedFetch.Process.Output

namespace PinnedFetch

/-- A command and its arguments. -/
structure Call where
  command : String
  arguments : List String
  deriving DecidableEq, Repr

/-- What running a command gives. -/
abbrev CommandResult := Except Failure CommandOutput

/-- What asking for a URL gives. -/
abbrev DownloadResult := Except DownloadFailure Bytes

/-- A download: its result, and what the downloader logged. -/
structure Download where
  result : DownloadResult
  records : List Log.Record := []

/-- Those who run commands and download. -/
structure Collaborators where
  run : Call → CommandResult
  fetch : String → Download

end PinnedFetch
