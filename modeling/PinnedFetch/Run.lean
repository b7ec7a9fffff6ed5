/-
# A run

A run makes sure that the artefact of a release is in its directory.  An artefact that is there and
reports the release's version can stay; where the settings ask for it, its octets are hashed first.
Otherwise the release is fetched, and only octets with the release's digest are written.

Every step works on a `Scene` and hands it on, also when it fails.
-/
import PinnedFetch.Config
import PinnedFetch.Install
import PinnedFetch.Scene
import PinnedFetch.Version

namespace PinnedFetch

/-- How a run ends when nothing fails. -/
inductive Outcome where
  /-- The artefact that is there will do. -/
  | satisfied
  /-- The release was fetched, verified and written to `path`. -/
  | installed (path : String)
  /-- The octets fetched have another digest than the release; nothing was written. -/
  | mismatch (actual expected : Digest)
  deriving DecidableEq, Repr

/-- The exit status of an outcome: one for octets that do not match, else zero. -/
def Outcome.exitStatus : Outcome → Nat
  | satisfied => 0
  | installed _ => 0
  | mismatch _ _ => 1

namespace Run

variable {σ : Type}

/-! ## 1. What a run logs -/

/-- An artefact is asked for its version. -/
def asking (path : String) : Log.Record := ⟨.debug, .version, s!"querying version of {path}"⟩

/-- There is no artefact. -/
def absent (path : String) : Log.Record := ⟨.debug, .fetcher, s!"{path} not present"⟩

/-- The artefact has another version than the release. -/
def outdated (path found wanted : String) : Log.Record :=
  ⟨.info, .fetcher, s!"{path} reports version {found}, want {wanted}"⟩

/-- The artefact has the version of the release and other octets. -/
def altered (path found : String) (actual : Digest) : Log.Record :=
  ⟨.warn, .fetcher, s!"{path} reports version {found} but hashes to {actual.text}"⟩

/-- The octets fetched are not those of the release. -/
def rejected (url : String) (actual expected : Digest) : Log.Record :=
  ⟨.warn, .fetcher,
    s!"digest mismatch for {url}: got {actual.text}, expected {expected.text}"⟩

/-- The artefact was written. -/
def written (tag : String) (size : Nat) (path : String) : Log.Record :=
  ⟨.info, .fetcher, s!"installed {tag} ({size} bytes) at {path}"⟩

/-! ## 2. The artefact that is there -/

/-- The command that asks an artefact for its version. -/
def versionCall (path : String) : Call := ⟨path, ["--version"]⟩

/-- Asks the artefact at a path for its version. -/
def askVersion (h : Collaborators) (path : String) (s : Scene σ) :
    Except Failure String × Scene σ :=
  (Version.ofResult path (h.run (versionCall path)),
    (s.log (asking path)).note (.ran (versionCall path)))

/-- Whether the octets of the artefact are those of the release. -/
def rehash (w : Writer σ) (c : Config) (found : String) (s : Scene σ) :
    Except Failure Bool × Scene σ :=
  match s.tree.read c.path with
  | .error e => (.error (.io e), s)
  | .ok bytes =>
    let actual := Digest.of bytes
    if actual = c.release.sha256 then (.ok true, s)
    else
      (.ok false,
        (s.log (altered c.path found actual)).progress w c.quiet (.stale c.release.fileName))

/-- Whether the artefact that is there can stand in for a download. -/
def canStay (w : Writer σ) (c : Config) (h : Collaborators) (s : Scene σ) :
    Except Failure Bool × Scene σ :=
  if s.tree.isThere c.path then
    match askVersion h c.path s with
    | (.error f, s) => (.error f, s)
    | (.ok found, s) =>
      if found ≠ c.release.version then
        (.ok false, s.log (outdated c.path found c.release.version))
      else if c.verifyExisting then rehash w c found s
      else (.ok true, s)
  else (.ok false, s.log (absent c.path))

/-! ## 3. The download -/

/-- Writes octets that were verified. -/
def keep (w : Writer σ) (c : Config) (bytes : Bytes) (s : Scene σ) :
    Except Failure Outcome × Scene σ :=
  let report := install s.tree c.path bytes
  let s := { s.note (.opened c.path) with tree := report.tree }.logAll report.records
  match report.result with
  | .error e => (.error (.io e), s)
  | .ok () =>
    (.ok (.installed c.path),
      (s.log (written c.release.tag bytes.length c.path)).progress w c.quiet .verified)

/-- Fetches the release and writes it, if it has the right digest. -/
def download (w : Writer σ) (c : Config) (h : Collaborators) (s : Scene σ) :
    Except Failure Outcome × Scene σ :=
  let url := c.release.url
  let given := h.fetch url
  let s := ((s.progress w c.quiet (.downloading url)).note (.fetched url)).logAll given.records
  match given.result with
  | .error f => (.error (.download f), s)
  | .ok bytes =>
    let actual := Digest.of bytes
    let expected := c.release.sha256
    if actual = expected then keep w c bytes s
    else
      (.ok (.mismatch actual expected),
        (s.log (rejected url actual expected)).tell w (.mismatch actual expected))

/-! ## 4. The whole run -/

/-- Makes sure that the artefact is there: keeps the one that is, or fetches it. -/
def perform (w : Writer σ) (c : Config) (h : Collaborators) (s : Scene σ) :
    Except Failure Outcome × Scene σ :=
  match canStay w c h s with
  | (.error f, s) => (.error f, s)
  | (.ok true, s) => (.ok .satisfied, s.progress w c.quiet (.kept c.release.fileName))
  | (.ok false, s) => download w c h s

end Run

end PinnedFetch
