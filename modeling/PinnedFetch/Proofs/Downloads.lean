/-
# Downloads of a framed response

A response of status 200 is downloaded as the body that its payload carries, however it is framed
(`fetch_payload`): the client reads the head that was written, and then the payload as the head
frames it.  If the connection ends early, the cut is in the head or in the payload, and either way
the download fails.

The head ranges over all that can be written, the payload over all that it frames.  What of a
client is left out, content codings and limits on the size of a head among it, is said in
`PinnedFetch.Http.Client`.
-/
import PinnedFetch.Http.Client
import PinnedFetch.Proofs.ServerText
import PinnedFetch.Proofs.UrlText

namespace PinnedFetch.Http

/-! ## 1. Replies -/

theorem readReply_of_read (asked : String) {bs behind : Bytes} {h : Head} {f : Framing}
    (read : Head.read bs = .ok (h, behind)) (framing : Body.framing h = .ok f) :
    readReply asked bs =
      if 400 ≤ h.status then .failed (statusFailure asked h.status)
      else if isRedirect h.status then
        .onward h.location? (match Body.read f behind with
          | .ok _ => none
          | .error fault => some fault)
      else match Body.read f behind with
        | .ok bytes => .body bytes
        | .error fault => .failed (responseFailure asked fault) := by
  unfold readReply
  cases body : Body.read f behind with
  | ok bytes => simp only [read, framing, body]
  | error fault => simp only [read, framing, body]

theorem Complete.reply {h : Head} {body bs : Bytes} (complete : Complete h body bs)
    (bodied : Body.isBare h.status = false) (asked : String) :
    readReply asked bs =
      if 400 ≤ h.status then .failed (statusFailure asked h.status)
      else if isRedirect h.status then .onward h.location? none
      else .body body := by
  obtain ⟨written, frames, carries⟩ := complete
  rename_i f head payload
  have whole : Body.read f (payload ++ []) = .ok body := carries.read fun _ => rfl
  rw [List.append_nil] at whole
  rw [readReply_of_read asked (Head.read_written written payload) (frames.framing bodied), whole]

/-! ## 2. Downloads -/

/-- The reply that a download ends with. -/
def Reply.ending : DownloadResult → Reply
  | .ok bytes => .body bytes
  | .error cause => .failed cause

theorem follow_of_ending {asked : String} {left : Nat} {n : Network} {u : Url}
    {result : DownloadResult} (reached : n.connect u = .ok ())
    (reply : readReply asked n.response = .ending result) :
    follow asked left n u = ⟨[u], result⟩ := by
  unfold follow
  rw [reached]
  simp only
  rw [reply]
  cases result with
  | ok bytes => rfl
  | error cause => rfl

theorem transcript_of_names {url : String} {u : Url} (names : u.Names url) (n : Network) :
    transcript n url = follow url redirectLimit n u := by
  rw [transcript, Url.read_eq_ok_iff.mpr names]

/-- **The payload is the body,** whole and verbatim, however it is framed.

A response of status 200 is downloaded from any URL whose server is reached.  If its head and its
payload are sent, the download is the body, and octets behind a counted body or behind the last
chunk are no part of it.  If the connection ends before a counted body or the chunks are complete,
the download fails as an unexpected end. -/
theorem fetch_payload {n : Network} {url : String} {u : Url} {h : Head} {f : Framing}
    {head body payload : Bytes} (names : u.Names url) (reached : n.connect u = .ok ())
    (written : h.Written head) (success : h.status = 200) (frames : Frames h f)
    (carries : Payload f body payload) :
    (∀ behind, (f = .toEnd → behind = []) → n.response = head ++ payload ++ behind →
      (fetch n url).result = .ok body) ∧
    (f ≠ .toEnd → Short n.response (head ++ payload) →
      (fetch n url).result = .error (.io (.told .unexpectedEof "Peer disconnected"))) := by
  have framing := frames.framing (by rw [success]; rfl)
  have small : ¬ 400 ≤ h.status := by rw [success]; decide
  have stays : isRedirect h.status = false := by rw [success]; rfl
  unfold fetch
  simp only [transcript_of_names names]
  constructor
  · intro behind last sent
    have read := Head.read_written written (payload ++ behind)
    rw [← List.append_assoc, ← sent] at read
    have reply := readReply_of_read url read framing
    rw [if_neg small, stays, if_neg (by simp), carries.read last] at reply
    have ends : readReply url n.response = .ending (.ok body) := reply
    rw [follow_of_ending reached ends]
  · intro bounded short
    have cut : readReply url n.response = .ending (.error (responseFailure url .cut)) := by
      rcases short.append with early | ⟨p, sent, late⟩
      · unfold readReply
        rw [Head.read_short written early]
        rfl
      · have read := Head.read_written written p
        rw [← sent] at read
        have reply := readReply_of_read url read framing
        rw [if_neg small, stays, if_neg (by simp), carries.read_short bounded late] at reply
        exact reply
    rw [follow_of_ending reached cut]
    rfl

/-- Three octets in two chunks. -/
def inChunks : Response where
  headers := [("Transfer-Encoding", "chunked")]
  body := Body.chunks [[1, 2], [3]]

/-- They are downloaded, unless the last octet of the response is missing. -/
theorem fetch_payload_inChunks :
    Url.Names "http://waf.io/waf" ⟨"http", "waf.io", "/waf"⟩ ∧
      inChunks.head.Written inChunks.headOctets ∧ inChunks.head.status = 200 ∧
      Frames inChunks.head .chunked ∧ Payload .chunked [1, 2, 3] inChunks.body ∧
      (fetch ⟨.anywhere, [inChunks.octets]⟩ "http://waf.io/waf").result = .ok [1, 2, 3] ∧
      (fetch ⟨.anywhere, [inChunks.octets.dropLast]⟩ "http://waf.io/waf").result =
        .error (.io (.told .unexpectedEof "Peer disconnected")) := by
  have names : Url.Names "http://waf.io/waf" ⟨"http", "waf.io", "/waf"⟩ :=
    Url.read_eq_ok_iff.mp rfl
  have header : Response.IsName "Transfer-Encoding" ∧ Response.IsValue "chunked" := by
    decide +kernel
  have written : inChunks.head.Written inChunks.headOctets := by
    refine Response.written ⟨by decide, fun h here => ?_⟩
    rw [List.mem_singleton.mp here]
    exact header
  have coded : inChunks.head.header? "transfer-encoding" = some "chunked".toList := by
    decide +kernel
  have frames : Frames inChunks.head .chunked :=
    .chunked (.none (by decide +kernel)) coded (by decide) (by decide)
  have chunks : Chunked [[1, 2], [3]] inChunks.body := Body.chunked_chunks (by decide)
  have carries : Payload .chunked [1, 2, 3] inChunks.body := .chunked chunks
  have whole := fetch_payload (n := ⟨.anywhere, [inChunks.octets]⟩) names rfl written rfl frames
    carries
  have cut := fetch_payload (n := ⟨.anywhere, [inChunks.octets.dropLast]⟩) names rfl written rfl
    frames carries
  refine ⟨names, written, rfl, frames, carries, ?_, ?_⟩
  · refine whole.1 [] (by simp) ?_
    rw [List.append_nil]
    rfl
  · exact cut.2 (by simp) ⟨List.dropLast_prefix _, by decide +kernel⟩

end PinnedFetch.Http
