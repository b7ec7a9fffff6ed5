import PinnedFetch.Http.Response
import PinnedFetch.Main
import PinnedFetch.Proofs.ArtefactPath
import PinnedFetch.Proofs.CommandLine
import PinnedFetch.Proofs.Confinement
import PinnedFetch.Proofs.Diagnostics
import PinnedFetch.Proofs.DigestComplaint
import PinnedFetch.Proofs.EmptyVersion
import PinnedFetch.Proofs.ExitStatus
import PinnedFetch.Proofs.FailingWriter
import PinnedFetch.Proofs.Idempotence
import PinnedFetch.Proofs.InstallFrame
import PinnedFetch.Proofs.Lockstep
import PinnedFetch.Proofs.Quiet
import PinnedFetch.Proofs.Recheck
import PinnedFetch.Proofs.Redirects
import PinnedFetch.Proofs.ReleaseTag
import PinnedFetch.Proofs.TraceLaw
import PinnedFetch.Proofs.UnseenOctets
import PinnedFetch.Proofs.VersionQuery
import PinnedFetch.Replay.Downloads
import PinnedFetch.Tree.Listing
