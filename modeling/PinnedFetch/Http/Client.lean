/-
# Downloads over HTTP

A server answers connections from a list of responses, one each; past the end of the list it hangs
up.  The client asks for a URL, follows redirects, ten at most, and gives the body of the response
it ends at.  A failure names the URL that was asked for first, however many redirects lie between.

The client is a plain one.  It neither offers nor undoes content codings, and takes a head, a URL
and a body of any size: where a client undoes a coding, or gives up on a head that is too large for
it, what is proved about this one does not carry over.  A connection serves one request, there are
no times to wait for, and nothing is encrypted.
-/
import PinnedFetch.Collaborators
import PinnedFetch.Http.Body
import PinnedFetch.Http.Url

namespace PinnedFetch.Http

/-! ## 1. The network -/

/-- Where a connection leads. -/
inductive Route where
  /-- One server listens at this authority, nobody anywhere else. -/
  | server (authority : String)
  /-- Every server is reached. -/
  | anywhere
  /-- A proxy answers for every server. -/
  | proxy
  /-- Nobody listens. -/
  | closed
  /-- There is no network. -/
  | unreachable
  deriving DecidableEq, Repr

/-- What answers the client. -/
structure Network where
  route : Route
  /-- The octets sent on each connection, in order. -/
  responses : List Bytes := []

namespace Network

/-- Whether a connection for a URL comes about. -/
def connect (n : Network) (u : Url) : Except IoError Unit :=
  match n.route with
  | .server authority => if u.server = authority then .ok () else .error .connectionRefused
  | .anywhere => .ok ()
  | .proxy => .ok ()
  | .closed => .error .connectionRefused
  | .unreachable => .error .networkUnreachable

/-- The request line that is sent for a URL. -/
def requestLine (n : Network) (u : Url) : String :=
  match n.route with
  | .proxy => u.proxyLine
  | _ => u.requestLine

/-- What the next connection is sent. -/
def response (n : Network) : Bytes := n.responses.head?.getD []

/-- The network after a connection. -/
def next (n : Network) : Network := { n with responses := n.responses.tail }

end Network

/-! ## 2. The client -/

/-- The statuses that lead to another URL. -/
def isRedirect (status : Nat) : Bool := [301, 302, 303, 307, 308].contains status

/-- How many redirects are followed. -/
def redirectLimit : Nat := 10

/-- The failure of a connection that ends too early. -/
def disconnected : IoError := .told .unexpectedEof "Peer disconnected"

/-- A connection failure as a download reports it: its kind and its sentence. -/
def connectionFailure (e : IoError) : DownloadFailure := .io (.told e.kind e.message)

/-- The failure that a fault in a response is, for the URL asked for. -/
def responseFailure (asked : String) : ResponseFault → DownloadFailure
  | .cut => connectionFailure disconnected
  | .broken rule => .exchange asked ("protocol: " ++ rule)

/-- What became of a request: the body, or the way on, or a failure. -/
inductive Reply where
  | body (bytes : Bytes)
  /-- Another URL is to be asked, once the body of this response has been read without fault. -/
  | onward (location : Option Bytes) (fault : Option ResponseFault)
  | failed (cause : DownloadFailure)
  deriving DecidableEq, Repr

/-- The failure of a status of 400 or more. -/
def statusFailure (asked : String) (status : Nat) : DownloadFailure :=
  if status = 404 then .notFound asked else .exchange asked s!"http status: {status}"

/-- Reads a response. -/
def readReply (asked : String) (bs : Bytes) : Reply :=
  match Head.read bs with
  | .error fault => .failed (responseFailure asked fault)
  | .ok (head, behind) =>
    match Body.framing head with
    | .error fault => .failed (responseFailure asked fault)
    | .ok framing =>
      let body := Body.read framing behind
      if 400 ≤ head.status then .failed (statusFailure asked head.status)
      else if isRedirect head.status then
        .onward head.location? (match body with
          | .ok _ => none
          | .error fault => some fault)
      else match body with
        | .ok bytes => .body bytes
        | .error fault => .failed (responseFailure asked fault)

/-- The URL that a location header leads to, or the fault in it. -/
def onwardUrl (u : Url) : Option Bytes → Except String Url
  | none => .error "protocol: missing a location header"
  | some location =>
    match Head.plain? location with
    | some cs => u.resolve (String.ofList cs)
    | none => .error s!"protocol: location header is malformed: {Utf8.repair location}"

/-- What a download did: the URLs that it sent a request for, and how it ended. -/
structure Transcript where
  visited : List Url
  result : DownloadResult
  deriving Repr

/-- The request lines of a download. -/
def Transcript.requests (t : Transcript) (n : Network) : List String := t.visited.map n.requestLine

/-- Asks for a URL and follows at most `left` redirects. -/
def follow (asked : String) : Nat → Network → Url → Transcript
  | left, n, u =>
    match n.connect u with
    | .error e => ⟨[], .error (connectionFailure e)⟩
    | .ok () =>
      match readReply asked n.response with
      | .body bytes => ⟨[u], .ok bytes⟩
      | .failed cause => ⟨[u], .error cause⟩
      | .onward location fault =>
        match left, fault with
        | 0, _ => ⟨[u], .error (.exchange asked "too many redirects")⟩
        | _ + 1, some fault => ⟨[u], .error (responseFailure asked fault)⟩
        | left + 1, none =>
          match onwardUrl u location with
          | .error reason => ⟨[u], .error (.exchange asked reason)⟩
          | .ok v =>
            let rest := follow asked left n.next v
            ⟨u :: rest.visited, rest.result⟩

/-- Downloads from a URL. -/
def transcript (n : Network) (url : String) : Transcript :=
  match Url.read url with
  | .error reason => ⟨[], .error (.exchange url reason)⟩
  | .ok u => follow url redirectLimit n u

/-- The octets of a request for a URL. -/
def requestOctets (u : Url) : Bytes :=
  Bytes.ofText (s!"{u.requestLine}\r\nHost: {u.server}\r\nAccept: */*\r\nConnection: close\r\n\r\n")

/-- The records of a download. -/
def downloadRecords (url : String) : DownloadResult → List Log.Record
  | .ok bytes =>
    [⟨.debug, .download, s!"GET {url}"⟩,
     ⟨.debug, .download, s!"received {bytes.length} bytes from {url}"⟩]
  | .error _ => [⟨.debug, .download, s!"GET {url}"⟩]

/-- Downloads from a URL, and logs it. -/
def fetch (n : Network) (url : String) : Download :=
  let result := (transcript n url).result
  ⟨result, downloadRecords url result⟩

end PinnedFetch.Http
