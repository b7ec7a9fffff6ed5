/-
# Chains of redirects

A server sends responses that lead on, each from the URL it was asked for to another on the same
server (`Chain`).  The client asks for these URLs in turn, and what it makes of the last of them is
the end of the download, if it may follow as many redirects as there are (`follow_chain`).  If not,
it gives up behind the last that it may follow (`follow_long`).  Both are inductions on the chain;
one response is one step of the client (`follow_hop`).

What the end is like decides what the download is (`fetch_chain`): a body, a URL that nobody knows,
a status that is a failure, too many redirects, or a connection that ends or does not come about.
The failures that name a URL name the one asked for first.
-/
import PinnedFetch.Proofs.Downloads

namespace PinnedFetch.Http

/-! ## 1. Locations -/

/-- From a URL, a location leads to another: it is a path from the root, or names the other URL. -/
inductive LeadsTo (u : Url) : String → Url → Prop
  | path {location : String} {target fragment : List Char}
      (written : location.toList = '/' :: (target ++ fragment))
      (isTarget : Reference.IsTarget ('/' :: target))
      (single : (target ++ fragment).head? ≠ some '/')
      (isFragment : Reference.IsFragment fragment) :
      LeadsTo u location { u with path := String.ofList ('/' :: target) }
  | url {location : String} {v : Url} (names : v.Names location) : LeadsTo u location v

theorem LeadsTo.onwardUrl {u v : Url} {location : String} (leads : LeadsTo u location v)
    (printed : IsPrinted location) : onwardUrl u (some (Bytes.ofText location)) = .ok v := by
  simp only [Http.onwardUrl, printed.plain?, String.ofList_toList]
  cases leads with
  | path written isTarget single isFragment =>
    exact Url.resolve_path written isTarget single isFragment u
  | url names => exact Url.resolve_names names u

/-! ## 2. Whole responses -/

/-- A whole response that leads from one URL to another. -/
inductive Redirects (u v : Url) : Bytes → Prop
  | mk {h : Head} {body bs : Bytes} {location : String} (complete : Complete h body bs)
      (status : h.status ∈ [301, 302, 303, 307, 308])
      (located : h.location? = some (Bytes.ofText location)) (printed : IsPrinted location)
      (leads : LeadsTo u location v) : Redirects u v bs

theorem Redirects.reply {u v : Url} {bs : Bytes} (redirects : Redirects u v bs) (asked : String) :
    ∃ location, readReply asked bs = .onward (some location) none ∧
      onwardUrl u (some location) = .ok v := by
  obtain ⟨complete, status, located, printed, leads⟩ := redirects
  rename_i h body location
  have onward : ∀ s ∈ [301, 302, 303, 307, 308],
      Body.isBare s = false ∧ ¬ 400 ≤ s ∧ isRedirect s = true := by
    decide
  obtain ⟨bodied, small, elsewhere⟩ := onward h.status status
  refine ⟨Bytes.ofText location, ?_, leads.onwardUrl printed⟩
  rw [complete.reply bodied, if_neg small, if_pos elsewhere, located]

/-! ## 3. Chains -/

/-- The URL is one of a server. -/
def Url.IsAt (u : Url) (server : String) : Prop := u.scheme = "http" ∧ u.server = server

/-- From a URL, responses that lead on, one after another, with the URLs they are the answers for
and the URL at the end.  All of these URLs are on one server. -/
inductive Chain (server : String) : Url → List Bytes → List Url → Url → Prop
  | done (u : Url) : Chain server u [] [] u
  | hop {u v w : Url} {bs : Bytes} {hops : List Bytes} {passed : List Url}
      (redirects : Redirects u v bs) (there : v.IsAt server)
      (more : Chain server v hops passed w) : Chain server u (bs :: hops) (u :: passed) w

/-- Each response is the answer for one URL. -/
theorem Chain.length_eq {server : String} {u w : Url} {hops : List Bytes} {passed : List Url}
    (chain : Chain server u hops passed w) : passed.length = hops.length := by
  induction chain with
  | done u => rfl
  | hop redirects there more ih => rw [List.length_cons, List.length_cons, ih]

/-- One server, and what it sends. -/
def serving (server : String) (responses : List Bytes) : Network := ⟨.server server, responses⟩

section Follow

variable (asked : String) {server : String} {u v w : Url} {hops : List Bytes} {passed : List Url}

theorem connect_serving (there : u.IsAt server) (responses : List Bytes) :
    (serving server responses).connect u = .ok () :=
  if_pos there.2

/-- A response that leads on is one step. -/
theorem follow_hop {bs : Bytes} (redirects : Redirects u v bs) (there : u.IsAt server)
    (left : Nat) (rest : List Bytes) :
    follow asked (left + 1) (serving server (bs :: rest)) u =
      ⟨u :: (follow asked left (serving server rest) v).visited,
        (follow asked left (serving server rest) v).result⟩ := by
  obtain ⟨location, reply, onward⟩ := redirects.reply asked
  have sent : readReply asked (serving server (bs :: rest)).response =
      .onward (some location) none := reply
  rw [follow, connect_serving there]
  simp only
  rw [sent]
  simp only
  rw [onward]
  rfl

/-- **A chain is followed to its end,** if as many redirects are left. -/
theorem follow_chain (chain : Chain server u hops passed w) (here : u.IsAt server) :
    w.IsAt server ∧ ∀ left rest,
      follow asked (left + hops.length) (serving server (hops ++ rest)) u =
        ⟨passed ++ (follow asked left (serving server rest) w).visited,
          (follow asked left (serving server rest) w).result⟩ := by
  induction chain with
  | done u =>
    refine ⟨here, fun left rest => ?_⟩
    rw [List.length_nil, Nat.add_zero, List.nil_append, List.nil_append]
  | @hop u v w bs hops passed redirects there more ih =>
    obtain ⟨ends, whole⟩ := ih there
    refine ⟨ends, fun left rest => ?_⟩
    rw [List.length_cons, ← Nat.add_assoc, List.cons_append, follow_hop asked redirects here, whole]
    rfl

/-- **If not, the client gives up.** -/
theorem follow_long (chain : Chain server u hops passed w) (here : u.IsAt server) :
    ∀ left rest, left < hops.length →
      follow asked left (serving server (hops ++ rest)) u =
        ⟨passed.take (left + 1), .error (.exchange asked "too many redirects")⟩ := by
  induction chain with
  | done u => exact fun left rest none => absurd none (by simp)
  | @hop u v w bs hops passed redirects there more ih =>
    intro left rest long
    cases left with
    | zero =>
      -- the response is read before the limit is looked at, so its URL is still asked for
      obtain ⟨location, reply, -⟩ := redirects.reply asked
      have sent : readReply asked (serving server (bs :: hops ++ rest)).response =
          .onward (some location) none := reply
      rw [follow, connect_serving here]
      simp only
      rw [sent]
      rfl
    | succ left =>
      rw [List.length_cons] at long
      rw [List.cons_append, follow_hop asked redirects here, ih there left rest (by omega)]
      rfl

end Follow

/-! ## 4. What a download of a chain is -/

/-- What a whole response at the end of a download makes of it. -/
inductive Ends (asked : String) (h : Head) (body : Bytes) : DownloadResult → Prop
  | found (success : h.status = 200) : Ends asked h body (.ok body)
  | unknown (missing : h.status = 404) : Ends asked h body (.error (.notFound asked))
  | failed (failure : 400 ≤ h.status) (known : h.status ≠ 404) :
      Ends asked h body (.error (.exchange asked s!"http status: {h.status}"))

/-- A download asks for these URLs in turn, each by its own request line, and ends like this. -/
structure Downloads (n : Network) (url : String) (visited : List Url) (result : DownloadResult) :
    Prop where
  asks : (transcript n url).visited = visited
  requests : (transcript n url).requests n = visited.map Url.requestLine
  result : (fetch n url).result = result

theorem downloads_of_transcript {n : Network} {url : String} {visited : List Url}
    {result : DownloadResult} (direct : n.route ≠ .proxy)
    (whole : transcript n url = ⟨visited, result⟩) : Downloads n url visited result := by
  refine ⟨by rw [whole], ?_, ?_⟩
  · rw [whole, Transcript.requests]
    refine List.map_congr_left fun u _ => ?_
    unfold Network.requestLine
    split
    · rename_i proxied
      exact absurd proxied direct
    · rfl
  · rw [fetch, whole]

theorem Ends.reply {asked : String} {h : Head} {body bs : Bytes} {result : DownloadResult}
    (ends : Ends asked h body result) (complete : Complete h body bs) :
    readReply asked bs = .ending result := by
  have bare : h.status = 200 ∨ 400 ≤ h.status → Body.isBare h.status = false := by
    intro range
    simp only [Body.isBare, Bool.or_eq_false_iff, decide_eq_false_iff_not]
    omega
  cases ends with
  | found success =>
    rw [complete.reply (bare (Or.inl success)), success]
    rfl
  | unknown missing =>
    rw [complete.reply (bare (by omega)), missing]
    rfl
  | failed failure known =>
    rw [complete.reply (bare (Or.inr failure)), if_pos failure, statusFailure, if_neg known]
    rfl

/-- **Every chain of redirects is known by its end.**

A URL on the server is downloaded, and the server sends a chain of redirects from it.  With ten of
them or fewer, each URL of the chain is asked for once, in turn, and a whole response at the end
makes the download: the body for status 200, and otherwise a failure that names the URL asked for
first.  If the server sends nothing at the end, the connection has failed.  With eleven or more, the
client gives up after eleven requests.  If nobody listens, no request is sent. -/
theorem fetch_chain {server url : String} {u w : Url} {hops : List Bytes} {passed : List Url}
    (names : u.Names url) (here : u.IsAt server) (chain : Chain server u hops passed w) :
    passed.length = hops.length ∧
    (hops.length ≤ 10 →
      (∀ h body final more result, Complete h body final → Ends url h body result →
        Downloads (serving server (hops ++ final :: more)) url (passed ++ [w]) result) ∧
      ∀ rest, rest.head?.getD [] = [] →
        Downloads (serving server (hops ++ rest)) url (passed ++ [w])
          (.error (.io (.told .unexpectedEof "Peer disconnected")))) ∧
    (10 < hops.length → ∀ rest,
      Downloads (serving server (hops ++ rest)) url (passed.take 11)
        (.error (.exchange url "too many redirects"))) ∧
    ∀ responses,
      Downloads ⟨.closed, responses⟩ url []
        (.error (.io (.told .connectionRefused "Connection refused (os error 111)"))) := by
  obtain ⟨there, whole⟩ := follow_chain url chain here
  refine ⟨chain.length_eq, fun short => ?_, fun long rest => ?_, fun responses => ?_⟩
  · obtain ⟨left, limit⟩ : ∃ left, redirectLimit = left + hops.length :=
      ⟨10 - hops.length, by unfold redirectLimit; omega⟩
    refine ⟨fun h body final more result complete ends => ?_, fun rest silent => ?_⟩
    · refine downloads_of_transcript (by simp [serving]) ?_
      rw [transcript_of_names names, limit, whole]
      have reply : readReply url (serving server (final :: more)).response = .ending result :=
        ends.reply complete
      rw [follow_of_ending (connect_serving there _) reply]
    · refine downloads_of_transcript (by simp [serving]) ?_
      rw [transcript_of_names names, limit, whole]
      have nothing : (serving server rest).response = [] := silent
      have reply : readReply url (serving server rest).response =
          .ending (.error (responseFailure url .cut)) := by
        rw [nothing, readReply, Head.read_nil]
        rfl
      rw [follow_of_ending (connect_serving there rest) reply]
      rfl
  · refine downloads_of_transcript (by simp [serving]) ?_
    rw [transcript_of_names names, follow_long url chain here redirectLimit rest long]
    rfl
  · refine downloads_of_transcript (by simp) ?_
    rw [transcript_of_names names]
    rfl

/-- A response that leads on to a path. -/
def moved : Response where
  status := 302
  headers := [("Location", "/waf-1.8.6")]

/-- A response of one octet. -/
def arrived : Response where
  body := [1]

/-- One redirect is followed, and the octet behind it is downloaded; it is not, if the server hangs
up. -/
theorem fetch_chain_moved :
    let u : Url := ⟨"http", "waf.io", "/waf"⟩
    let w : Url := ⟨"http", "waf.io", "/waf-1.8.6"⟩
    let hops := [moved.counted.closing.octets]
    Url.Names "http://waf.io/waf" u ∧ u.IsAt "waf.io" ∧ Chain "waf.io" u hops [u] w ∧
      Downloads (serving "waf.io" (hops ++ [arrived.counted.closing.octets])) "http://waf.io/waf"
        [u, w] (.ok [1]) ∧
      Downloads (serving "waf.io" hops) "http://waf.io/waf" [u, w]
        (.error (.io (.told .unexpectedEof "Peer disconnected"))) := by
  intro u w hops
  have names : Url.Names "http://waf.io/waf" u := Url.read_eq_ok_iff.mp rfl
  have location : Response.IsName "Location" ∧ Response.IsValue "/waf-1.8.6" := by
    decide +kernel
  have target : Reference.IsTarget "/waf-1.8.6".toList :=
    .path (List.all_eq_true.mp (by decide))
  have leads : LeadsTo u "/waf-1.8.6" w :=
    .path rfl target (by decide) .missing
  have first : Complete moved.counted.closing.head [] moved.counted.closing.octets := by
    refine Response.complete_counted ⟨by decide, fun h here => ?_⟩ (by decide +kernel)
      (by decide +kernel)
    rw [List.mem_singleton.mp here]
    exact location
  have last : Complete arrived.counted.closing.head [1] arrived.counted.closing.octets :=
    Response.complete_counted ⟨by decide, by simp [arrived]⟩ (by decide +kernel)
      (by decide +kernel)
  have located : moved.counted.closing.head.location? =
      some (Bytes.ofText "/waf-1.8.6") := by
    decide +kernel
  have redirects : Redirects u w moved.counted.closing.octets :=
    .mk first (by decide +kernel) located location.2.printed leads
  have here : ∀ path, Url.IsAt ⟨"http", "waf.io", path⟩ "waf.io" := by
    intro path
    have server : Url.server ⟨"http", "waf.io", "/"⟩ = "waf.io" := by decide +kernel
    exact ⟨rfl, server⟩
  have chain : Chain "waf.io" u hops [u] w := .hop redirects (here _) (.done w)
  obtain ⟨-, short, -, -⟩ := fetch_chain names (here _) chain
  obtain ⟨ends, hangs⟩ := short (by decide)
  refine ⟨names, here _, chain, ?_, ?_⟩
  · exact ends _ _ _ [] _ last (.found (by decide +kernel))
  · exact hangs [] rfl

end PinnedFetch.Http
