import AnywhereMesh.Common.Http
import AnywhereMesh.Common.Types
import Mathlib.Data.List.DropRight

/-! One HTTP request through the mesh. `process_alb_request` turns the
downstream request into a `ProxyRequest`; the agent's `forward_request` turns
that into a request to the local service, and the local response into a
`ProxyResponse`; `process_alb_request` builds the downstream response from that.
The hop between the two, each message as JSON over the control channel, is
taken to carry it unchanged, so here the router is a function the server calls.

Proved, for every downstream request, every local service and every response:
the local service gets the downstream method, path and body; for each name on
the whitelist it gets the last downstream value that `HeaderValue::to_str`
accepts, and `x-forwarded-proto` is `https`. The downstream response gets the
local status and body, and the local header entries that `to_str` accepts, in
order. So a value with a byte outside visible ASCII, such as the obs-text HTTP
permits, is dropped on the way in and on the way out. -/

namespace AnywhereMesh.Server

/-- The whitelist of `filter_proxy_headers`. -/
def proxyHeaderWhitelist : List String :=
  ["host", "user-agent", "accept", "accept-encoding", "accept-language", "authorization",
    "cookie", "x-forwarded-for", "x-forwarded-proto", "x-forwarded-host", "x-real-ip",
    "content-type", "content-length", "x-test-route"]

/-- `HashMap::insert` into a `HashMap<String, String>`: the entry replaces any
of its name. -/
def insertHeader (name value : String) (m : List (String × String)) : List (String × String) :=
  (name, value) :: m.filter (·.1 ≠ name)

/-- One turn of the loop of `filter_proxy_headers`. -/
def keepProxyHeader (filtered : List (String × String)) (e : String × Bytes) :
    List (String × String) :=
  let nameStr : String := ⟨e.1.data.map Char.toLower⟩
  if proxyHeaderWhitelist.contains nameStr then
    match toStr e.2 with
    | some valueStr => insertHeader nameStr valueStr filtered
    | none => filtered
  else filtered

def filterProxyHeaders (headers : HeaderMap) : List (String × String) :=
  headers.entries.foldl keepProxyHeader []

/-- The target host of `process_alb_request`: `x-forwarded-host`, else `host`,
up to its first colon; else the URI's host; else `unknown`. -/
def albTargetHost (headers : HeaderMap) (uri : Uri) : String :=
  match ((headers.get "x-forwarded-host").orElse fun _ => headers.get "host").bind toStr with
  | some s => ⟨s.data.takeWhile (· ≠ ':')⟩
  | none => uri.authorityHost.getD "unknown"

/-- The `ProxyRequest` that `process_alb_request` routes, under the id that
`Uuid::new_v4` gave. -/
def albProxyRequest (id : Uuid) (req : HttpRequest) : ProxyRequest :=
  { id := id, method := req.method, path := req.uri.pathAndQuery.getD "/",
    headers := insertHeader "x-forwarded-proto" "https" (filterProxyHeaders req.headers),
    body := if req.body.isEmpty then none else some req.body,
    targetHost := albTargetHost req.headers req.uri }

def serviceUnavailable : HttpResponse :=
  ⟨503, by decide, HeaderMap.empty, utf8 "Service Unavailable"⟩

/-- `process_alb_request`, given `route_request_through_websocket`. -/
def processAlbRequest (routeRequestThroughWebsocket : ProxyRequest → Except String ProxyResponse)
    (id : Uuid) (req : HttpRequest) : Except String HttpResponse :=
  match routeRequestThroughWebsocket (albProxyRequest id req) with
  | .ok response => buildResponse response.statusCode response.headers (response.body.getD [])
  | .error _ => .ok serviceUnavailable

/-- What the local service gets under a name: `https` for `x-forwarded-proto`,
and for another name of the whitelist the last downstream value that `to_str`
accepts. -/
def forwardedValues (headers : HeaderMap) (name : String) : List Bytes :=
  if name = "x-forwarded-proto" then [utf8 "https"]
  else if name ∈ proxyHeaderWhitelist then
    ((headers.getAll name).filter (·.all isVisibleAscii)).getLast?.toList
  else []

/-! ### The forwarded headers -/

theorem lower_of_headerNameOfStr {s : String} (h : headerNameOfStr s = some s) :
    (⟨s.data.map Char.toLower⟩ : String) = s := by
  unfold headerNameOfStr at h
  split at h <;> simp_all

theorem values_insertHeader (name value : String) (m : List (String × String)) (n : String) :
    ((insertHeader name value m).filter (·.1 = n)).map (·.2) =
      if name = n then [value] else (m.filter (·.1 = n)).map (·.2) := by
  by_cases h : name = n
  · subst h
    simp [insertHeader, List.filter_filter, List.filter_eq_nil_iff]
  · simp [insertHeader, List.filter_filter, h]
    congr 2
    funext p
    by_cases hp : p.1 = n <;> simp [hp, h, Ne.symm h]

theorem map_utf8_values (l : List (String × String)) (n : String) :
    (l.filter (·.1 = n)).map (fun p => utf8 p.2) = ((l.filter (·.1 = n)).map (·.2)).map utf8 := by
  rw [List.map_map]
  rfl

/-- One turn of the loop keeps a name's value in step with the downstream entries. -/
theorem values_keepProxyHeader (m : List (String × String)) {e : String × Bytes}
    (he : headerNameOfStr e.1 = some e.1) (n : String) :
    ((keepProxyHeader m e).filter (·.1 = n)).map (fun p => utf8 p.2) =
      if e.1 = n ∧ n ∈ proxyHeaderWhitelist ∧ e.2.all isVisibleAscii then [e.2]
      else (m.filter (·.1 = n)).map (fun p => utf8 p.2) := by
  simp only [keepProxyHeader, lower_of_headerNameOfStr he, List.elem_eq_mem, decide_eq_true_eq]
  by_cases hw : e.1 ∈ proxyHeaderWhitelist
  · cases hs : toStr e.2 with
    | none =>
      have hv := not_all_visible_of_toStr hs
      simp [hw, hv]
    | some s =>
      have hv := all_visible_of_toStr hs
      rw [if_pos hw, map_utf8_values, values_insertHeader, map_utf8_values]
      by_cases hn : e.1 = n
      · subst hn; simp [hw, hv, utf8_toStr hs]
      · simp [hn]
  · have : ¬(e.1 = n ∧ n ∈ proxyHeaderWhitelist ∧ e.2.all isVisibleAscii = true) := by
      rintro ⟨rfl, hn, -⟩; exact hw hn
    rw [if_neg hw, if_neg this]

/-- The loop keeps, for each whitelisted name, the last value `to_str` accepts. -/
theorem values_foldl_keepProxyHeader (es : List (String × Bytes))
    (hes : ∀ e ∈ es, headerNameOfStr e.1 = some e.1) (n : String) :
    ((es.foldl keepProxyHeader []).filter (·.1 = n)).map (fun p => utf8 p.2) =
      if n ∈ proxyHeaderWhitelist then
        (((es.filter (·.1 = n)).map (·.2)).filter (·.all isVisibleAscii)).getLast?.toList
      else [] := by
  induction es using List.reverseRecOn with
  | nil => simp
  | append_singleton es e ih =>
    rw [List.forall_mem_append, List.forall_mem_singleton] at hes
    rw [List.foldl_append, List.foldl_cons, List.foldl_nil, values_keepProxyHeader _ hes.2,
      ih hes.1]
    by_cases hn : e.1 = n <;> by_cases hw : n ∈ proxyHeaderWhitelist <;>
      by_cases hv : e.2.all isVisibleAscii <;> simp [hn, hw, hv, List.filter_append]

theorem filterProxyHeaders_values (h : HeaderMap) (n : String) :
    ((filterProxyHeaders h).filter (·.1 = n)).map (fun p => utf8 p.2) =
      if n ∈ proxyHeaderWhitelist then
        ((h.getAll n).filter (·.all isVisibleAscii)).getLast?.toList
      else [] :=
  values_foldl_keepProxyHeader h.entries h.names_valid n

/-- What the loop keeps is a whitelisted name with a value `to_str` gave. -/
theorem mem_filterProxyHeaders {h : HeaderMap} {p : String × String}
    (hp : p ∈ filterProxyHeaders h) :
    p.1 ∈ proxyHeaderWhitelist ∧ ∃ v, toStr v = some p.2 := by
  suffices ∀ (es : List (String × Bytes)) (acc : List (String × String)),
      (∀ q ∈ acc, q.1 ∈ proxyHeaderWhitelist ∧ ∃ v, toStr v = some q.2) →
        ∀ q ∈ es.foldl keepProxyHeader acc,
          q.1 ∈ proxyHeaderWhitelist ∧ ∃ v, toStr v = some q.2
    from this h.entries [] (by simp) p hp
  intro es
  induction es with
  | nil => exact fun _ hacc => hacc
  | cons e es ih =>
    refine fun acc hacc => ih _ fun q hq => ?_
    simp only [keepProxyHeader, List.elem_eq_mem, decide_eq_true_eq] at hq
    split_ifs at hq with hw
    · split at hq
      · next s hs =>
        simp only [insertHeader, List.mem_cons, List.mem_filter] at hq
        rcases hq with rfl | ⟨hq, -⟩
        · exact ⟨hw, _, hs⟩
        · exact hacc q hq
      · exact hacc q hq
    · exact hacc q hq

theorem whitelist_names_valid : ∀ n ∈ proxyHeaderWhitelist, headerNameOfStr n = some n := by
  decide

/-- Every header of the routed request parses again on the agent. -/
theorem albProxyRequest_headers_valid (id : Uuid) (req : HttpRequest) :
    ∀ p ∈ (albProxyRequest id req).headers,
      headerNameOfStr p.1 = some p.1 ∧ (utf8 p.2).all isValidHeaderByte = true := by
  intro p hp
  simp only [albProxyRequest, insertHeader, List.mem_cons, List.mem_filter] at hp
  rcases hp with rfl | ⟨hp, -⟩
  · decide
  · obtain ⟨hw, v, hv⟩ := mem_filterProxyHeaders hp
    exact ⟨whitelist_names_valid _ hw, valid_of_toStr hv⟩

theorem albProxyRequest_values (id : Uuid) (req : HttpRequest) (n : String) :
    (((albProxyRequest id req).headers.filter (·.1 = n)).map (fun p => utf8 p.2)) =
      forwardedValues req.headers n := by
  rw [map_utf8_values]
  simp only [albProxyRequest, values_insertHeader, forwardedValues]
  by_cases hn : n = "x-forwarded-proto"
  · simp [hn]
  · rw [if_neg (Ne.symm hn), if_neg hn, ← map_utf8_values, filterProxyHeaders_values]

theorem body_getD_albProxyRequest (id : Uuid) (req : HttpRequest) :
    (albProxyRequest id req).body.getD [] = req.body := by
  cases h : req.body <;> simp [albProxyRequest, h]

end AnywhereMesh.Server

namespace AnywhereMesh.Client

/-- A `ProxyHandler`: its local endpoint, hyper's URI parser, and the client
that reaches the local service. -/
structure ProxyHandler where
  localEndpoint : String
  parseUri : String → Except String Uri
  httpClient : HttpRequest → Except String HttpResponse

/-- The `ProxyResponse` that `forward_request` makes of the local response: the
header entries `to_str` accepts, in order. -/
def proxyResponseOf (id : Uuid) (response : HttpResponse) : ProxyResponse :=
  { id := id, statusCode := response.status,
    headers := response.headers.entries.filterMap fun e => (toStr e.2).map (e.1, ·),
    body := if response.body.isEmpty then none else some response.body }

def ProxyHandler.forwardRequest (p : ProxyHandler) (proxyRequest : ProxyRequest) :
    Except String ProxyResponse := do
  let uri ← p.parseUri (p.localEndpoint ++ proxyRequest.path)
  let request ← buildRequest proxyRequest.method uri proxyRequest.headers
    (proxyRequest.body.getD [])
  let response ← p.httpClient request
  pure (proxyResponseOf proxyRequest.id response)

def ProxyHandler.handleRequest (p : ProxyHandler) (proxyRequest : ProxyRequest) :
    ProxyResponse :=
  match p.forwardRequest proxyRequest with
  | .ok response => response
  | .error e => ⟨proxyRequest.id, 500, [], some (utf8 ("Internal Server Error: " ++ e))⟩

/-! ### The response back -/

theorem map_filterMap_toStr (es : List (String × Bytes)) :
    (es.filterMap fun e => (toStr e.2).map (e.1, ·)).map (fun p => (p.1, utf8 p.2)) =
      es.filter (·.2.all isVisibleAscii) := by
  induction es with
  | nil => rfl
  | cons e es ih =>
    cases hs : toStr e.2 with
    | none =>
      have hv := not_all_visible_of_toStr hs
      simp [hs, hv, ih]
    | some s =>
      have hv := all_visible_of_toStr hs
      simp [hs, hv, ih, utf8_toStr hs]

/-- The server rebuilds from a `ProxyResponse` the local status and body, and the
local header entries `to_str` accepts. -/
theorem buildResponse_proxyResponseOf (id : Uuid) (r : HttpResponse) :
    ∃ d : HttpResponse,
      buildResponse (proxyResponseOf id r).statusCode (proxyResponseOf id r).headers
        ((proxyResponseOf id r).body.getD []) = .ok d ∧
      d.status = r.status ∧ d.body = r.body ∧
      d.headers.entries = r.headers.entries.filter (·.2.all isVisibleAscii) := by
  have hvalid : ∀ p ∈ (proxyResponseOf id r).headers,
      headerNameOfStr p.1 = some p.1 ∧ (utf8 p.2).all isValidHeaderByte = true := by
    intro p hp
    simp only [proxyResponseOf, List.mem_filterMap, Option.map_eq_some'] at hp
    obtain ⟨e, he, s, hs, rfl⟩ := hp
    exact ⟨r.headers.names_valid e he, valid_of_toStr hs⟩
  obtain ⟨d, hd, hstatus, hentries, hbody⟩ := buildResponse_of_valid r.status_valid
    (fun p hp => (hvalid p hp).1) (fun p hp => (hvalid p hp).2)
    ((proxyResponseOf id r).body.getD [])
  refine ⟨d, hd, hstatus, ?_, ?_⟩
  · rw [hbody]; cases h : r.body <;> simp [proxyResponseOf, h]
  · rw [hentries]; exact map_filterMap_toStr _

end AnywhereMesh.Client

namespace AnywhereMesh

open Server Client

/-- The agent forwards the routed request: the local service gets the
downstream method, path and body, and under each name the forwarded values. -/
theorem forwardRequest_albProxyRequest (p : ProxyHandler) (id : Uuid) (req : HttpRequest)
    {uri : Uri} (huri : p.parseUri (p.localEndpoint ++ req.uri.pathAndQuery.getD "/") = .ok uri) :
    ∃ lr : HttpRequest, lr.method = req.method ∧ lr.uri = uri ∧ lr.body = req.body ∧
      (∀ n, lr.headers.getAll n = forwardedValues req.headers n) ∧
      p.forwardRequest (albProxyRequest id req) = proxyResponseOf id <$> p.httpClient lr := by
  have hvalid := albProxyRequest_headers_valid id req
  obtain ⟨lr, hlr, hmethod, huri', hentries, hbody⟩ :=
    buildRequest_of_valid req.method_valid uri
    (fun q hq => (hvalid q hq).1) (fun q hq => (hvalid q hq).2) req.body
  refine ⟨lr, hmethod, huri', hbody, fun n => ?_, ?_⟩
  · rw [← albProxyRequest_values id req n, HeaderMap.getAll, hentries, List.filter_map,
      List.map_map]
    rfl
  · have hpath : (albProxyRequest id req).path = req.uri.pathAndQuery.getD "/" := rfl
    simp only [ProxyHandler.forwardRequest, hpath, huri, body_getD_albProxyRequest]
    change (buildRequest req.method uri (albProxyRequest id req).headers req.body >>= _) = _
    rw [hlr]
    change (p.httpClient lr >>= fun r => pure (proxyResponseOf id r)) = _
    cases p.httpClient lr <;> rfl

/-- The round trip, for every downstream request and every local service: the
local service gets the request as `forwardRequest_albProxyRequest` says, and
whatever it answers, the downstream client gets its status, its body and the
header entries that `to_str` accepts, in order. -/
theorem alb_round_trip (p : ProxyHandler) (id : Uuid) (req : HttpRequest) {uri : Uri}
    (huri : p.parseUri (p.localEndpoint ++ req.uri.pathAndQuery.getD "/") = .ok uri) :
    ∃ lr : HttpRequest, lr.method = req.method ∧ lr.uri = uri ∧ lr.body = req.body ∧
      (∀ n, lr.headers.getAll n = forwardedValues req.headers n) ∧
      ∀ r, p.httpClient lr = .ok r →
        ∃ d : HttpResponse,
          processAlbRequest (fun q => .ok (p.handleRequest q)) id req = .ok d ∧
          d.status = r.status ∧ d.body = r.body ∧
          d.headers.entries = r.headers.entries.filter (·.2.all isVisibleAscii) := by
  obtain ⟨lr, hm, hu, hb, hh, hf⟩ := forwardRequest_albProxyRequest p id req huri
  refine ⟨lr, hm, hu, hb, hh, fun r hr => ?_⟩
  have hhandle : p.handleRequest (albProxyRequest id req) = proxyResponseOf id r := by
    simp only [ProxyHandler.handleRequest, hf, hr]
    rfl
  obtain ⟨d, hd, hds⟩ := buildResponse_proxyResponseOf id r
  exact ⟨d, by simpa only [processAlbRequest, hhandle] using hd, hds⟩

/-! ### A value outside visible ASCII -/

/-- A downstream request whose cookie is the obs-text byte 0x80, which a field
value may hold. -/
def obsTextRequest : HttpRequest :=
  ⟨"GET", by decide, ⟨some "api.example.com", some "/"⟩,
    ⟨[("host", utf8 "api.example.com"), ("cookie", [0x80])], by decide, by decide⟩, []⟩

/-- A local service that answers 200 with a header holding 0x80, and echoes in
its body the cookie it got. -/
def cookieEcho : ProxyHandler :=
  ⟨"http://127.0.0.1:3000", fun _ => .ok ⟨some "127.0.0.1", some "/"⟩,
    fun lr => .ok ⟨200, by decide, ⟨[("x-note", [0x80])], by decide, by decide⟩,
      (lr.headers.getAll "cookie").flatten⟩⟩

theorem alb_round_trip_cookieEcho :
    ∃ lr : HttpRequest, lr.method = obsTextRequest.method ∧
      lr.uri = ⟨some "127.0.0.1", some "/"⟩ ∧ lr.body = obsTextRequest.body ∧
      (∀ n, lr.headers.getAll n = forwardedValues obsTextRequest.headers n) ∧
      ∀ r, cookieEcho.httpClient lr = .ok r →
        ∃ d : HttpResponse,
          processAlbRequest (fun q => .ok (cookieEcho.handleRequest q)) 1 obsTextRequest = .ok d ∧
          d.status = r.status ∧ d.body = r.body ∧
          d.headers.entries = r.headers.entries.filter (·.2.all isVisibleAscii) :=
  alb_round_trip cookieEcho 1 obsTextRequest rfl

/-- The cookie never reaches the local service, whose echo comes back empty, and
the reply's header never reaches the downstream client. -/
theorem alb_round_trip_drops_obs_text :
    obsTextRequest.headers.getAll "cookie" = [[0x80]] ∧
      (processAlbRequest (fun q => .ok (cookieEcho.handleRequest q)) 1 obsTextRequest).toOption.map
        (fun d => (d.status, d.headers.getAll "x-note", d.body)) = some (200, [], []) := by
  decide

end AnywhereMesh

namespace AnywhereMesh.Client

/-! ### The local URL of a WebSocket session

`forward_request` requests the local endpoint followed by the request's path;
`to_ws_url` swaps the scheme and trims the endpoint's trailing slashes first. -/

/-- `WebSocketReverseProxy::to_ws_url`: the local endpoint with `https://` made
`wss://`, or `http://` made `ws://`, trailing slashes trimmed, then the path. -/
def toWsUrl (localEndpoint path : String) : String :=
  let base :=
    if "https://".data.isPrefixOf localEndpoint.data then
      replaceFirst localEndpoint.data "https://".data "wss://".data
    else if "http://".data.isPrefixOf localEndpoint.data then
      replaceFirst localEndpoint.data "http://".data "ws://".data
    else localEndpoint.data
  ⟨trimEndMatches '/' base⟩ ++ path

theorem trimEndMatches_eq_self_iff (ch : Char) (s : List Char) :
    trimEndMatches ch s = s ↔ s.getLast? ≠ some ch := by
  change List.rdropWhile (· = ch) s = s ↔ _
  rw [List.rdropWhile_eq_self_iff]
  cases s using List.reverseRecOn <;> simp

/-- A scheme ending in `/`, then `rest`, is left alone by the trim exactly when
`rest` has a last character and it is not `/`. -/
theorem trimEndMatches_scheme_append {scheme : List Char} (hs : scheme.getLast? = some '/')
    (rest : List Char) :
    trimEndMatches '/' (scheme ++ rest) = scheme ++ rest ↔ ∃ c, rest.getLast? = some c ∧ c ≠ '/' := by
  rw [trimEndMatches_eq_self_iff, List.getLast?_append]
  cases rest.getLast? <;> simp [hs]

theorem toWsUrl_http (rest path : String) :
    toWsUrl ("http://" ++ rest) path = ⟨trimEndMatches '/' ("ws://".data ++ rest.data)⟩ ++ path ∧
      toWsUrl ("https://" ++ rest) path =
        ⟨trimEndMatches '/' ("wss://".data ++ rest.data)⟩ ++ path := by
  have hhttp : "http://".data.isPrefixOf ("http://".data ++ rest.data) = true := by
    simp [List.isPrefixOf]
  have hnot : "https://".data.isPrefixOf ("http://".data ++ rest.data) = false := by
    simp [List.isPrefixOf]
  have hhttps : "https://".data.isPrefixOf ("https://".data ++ rest.data) = true := by
    simp [List.isPrefixOf]
  constructor
  · simp only [toWsUrl, String.data_append, hnot, hhttp, replaceFirst_of_isPrefixOf _ hhttp]
    rfl
  · simp only [toWsUrl, String.data_append, hhttps, replaceFirst_of_isPrefixOf _ hhttps]
    rfl

theorem string_mk_append_eq_iff {a b : List Char} {path : String} :
    (⟨a⟩ ++ path : String) = ⟨b⟩ ++ path ↔ a = b := by
  constructor
  · intro h
    have := congrArg String.data h
    simpa using this
  · rintro rfl
    rfl

/-- For every local endpoint `http://rest` or `https://rest` and every path, a
WebSocket session dials the URL `forward_request` requests, with `ws` or `wss`
for the scheme, exactly when `rest` is not empty and does not end with `/`. -/
theorem toWsUrl_eq_forwardUrl_iff (rest path : String) :
    (toWsUrl ("http://" ++ rest) path = "ws://" ++ rest ++ path ↔
        ∃ c, rest.data.getLast? = some c ∧ c ≠ '/') ∧
      (toWsUrl ("https://" ++ rest) path = "wss://" ++ rest ++ path ↔
        ∃ c, rest.data.getLast? = some c ∧ c ≠ '/') := by
  obtain ⟨hws, hwss⟩ := toWsUrl_http rest path
  rw [hws, hwss]
  exact ⟨string_mk_append_eq_iff.trans (@trimEndMatches_scheme_append "ws://".data rfl rest.data),
    string_mk_append_eq_iff.trans (@trimEndMatches_scheme_append "wss://".data rfl rest.data)⟩

end AnywhereMesh.Client
