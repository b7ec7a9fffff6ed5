/-
# What a command leaves behind

The status a command ended with and the octets it wrote to its two streams.
-/
import PinnedFetch.Bytes
import PinnedFetch.Process.Status

namespace PinnedFetch

/-- The result of a command that ran. -/
structure CommandOutput where
  status : WaitStatus
  stdout : Bytes
  stderr : Bytes
  deriving DecidableEq, Repr

namespace CommandOutput

/-- The line that an artefact of a version prints about itself. -/
def versionLine (version : String) : String :=
  s!"waf {version} (54dc13ba5f51bfe2ae277451ec5ac1d0a91c7aaf)\n"

/-- The answer of an artefact of a version. -/
def ofVersion (version : String) : CommandOutput :=
  ⟨.ofCode 0, Bytes.ofText (versionLine version), []⟩

/-- The answer of a command that exits with code 1 and a complaint. -/
def ofComplaint (complaint : String) : CommandOutput :=
  ⟨.ofCode 1, [], Bytes.ofText complaint⟩

end CommandOutput
end PinnedFetch
