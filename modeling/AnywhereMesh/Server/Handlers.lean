import AnywhereMesh.Server.Auth
import AnywhereMesh.Server.Mesh
import AnywhereMesh.Tunnel.HttpRoundTrip

/-! The server's three HTTP entry points (`server/handlers`) and what
`CombinedIngressService::new` reads from the environment. The ALB port hands a
WebSocket upgrade to `start_ws_tunnel_from_alb` while `ENABLE_ALB_WS_PROXY`
allows it, answers `GET /health` itself and gives everything else to
`process_alb_request`; the internal port answers `GET /health` and
`GET /metrics`; the WebSocket port answers `GET /health` and upgrades any other
GET that asks for it. The health replies of the internal and WebSocket ports
carry the server's instance id, which the agent's health monitor reads
(`Client/Monitor`); the ALB port's does not.

Proved: the role check of the configured server is exactly whether one of the
trimmed, comma-separated entries of `ALLOWED_ROLE_ARNS` matches the ARN. The
list it reads is never empty, so the shortcut of `is_role_allowed` for an empty
list never applies: an empty variable refuses every non-empty ARN, while an
unset one, or one whose value is not Unicode, admits every ARN. -/

namespace AnywhereMesh

/-- `uri().path()`: the path and query up to its `?`. -/
def Uri.path (u : Uri) : String :=
  ⟨(u.pathAndQuery.getD "/").data.takeWhile (· ≠ '?')⟩

namespace Server

/-- A request as the entry points read it: its method, its path, and its
`upgrade` header as `to_str` reads it. -/
structure EntryRequest where
  method : String
  path : String
  upgrade : Option String
  deriving DecidableEq, Repr

def EntryRequest.of (req : HttpRequest) : EntryRequest :=
  ⟨req.method, req.uri.path, (req.headers.get "upgrade").bind toStr⟩

/-- The JSON object a health endpoint formats. -/
structure HealthInfo where
  connections : ℕ
  registrations : ℕ
  port : Option String
  instanceId : Option Uuid
  startedAt : Option ℕ
  deriving DecidableEq, Repr

inductive ReplyBody
  | health (info : HealthInfo)
  | text (s : String)
  deriving DecidableEq, Repr

/-- A reply of an entry point of its own; the headers of a 101 reply are left out. -/
structure Reply where
  status : ℕ
  contentType : Option String
  body : ReplyBody
  deriving DecidableEq, Repr

/-- The sizes of `get_all_connections` and `get_all_registrations`, which never fail. -/
def healthInfo (s : Ingress) (port : Option String) (instanceId : Option Uuid)
    (startedAt : Option ℕ) : HealthInfo :=
  ⟨s.connections.entries.length, s.registrations.entries.length, port, instanceId, startedAt⟩

/-- The `upgrade` header names `websocket`, in any case. The ALB port compares
with `eq_ignore_ascii_case` and the WebSocket port lowercases with
`to_lowercase`; the two agree on the visible ASCII that `to_str` lets through. -/
def isWebsocketUpgrade (upgrade : Option String) : Bool :=
  (upgrade.map fun h => h.toLower == "websocket").getD false

/-- `ws_proxy_enabled`, given `ENABLE_ALB_WS_PROXY`: off when it lowercases to
`false` or is `0`, on otherwise and when unset. No character outside ASCII
lowercases into `false`, so lowercasing ASCII letters is `to_lowercase` here. -/
def wsProxyEnabled (env : Option String) : Bool :=
  (env.map fun s => s.toLower != "false" && s != "0").getD true

/-- `handle_websocket_or_health_request`, on a server that `new` gave
`serverInstanceId` and `startedAt`. A GET that asks for an upgrade gets 101 and
spawns the connection, the `accept` step of `Mesh`. -/
def handleWebsocketOrHealthRequest (s : Ingress) (serverInstanceId : Uuid) (startedAt : ℕ)
    (req : EntryRequest) : Reply :=
  if req.method = "GET" then
    if req.path = "/health" then
      ⟨200, some "application/json",
        .health (healthInfo s (some "8082") (some serverInstanceId) (some startedAt))⟩
    else if isWebsocketUpgrade req.upgrade then ⟨101, none, .text ""⟩
    else ⟨400, none, .text "WebSocket upgrade required"⟩
  else ⟨405, none, .text "Method not allowed"⟩

def metricsText (connections registrations : ℕ) : String :=
  "# HELP connections_total Total number of WebSocket connections\n" ++
    "# TYPE connections_total gauge\nconnections_total " ++ toString connections ++ "\n" ++
    "# HELP registrations_total Total number of service registrations\n" ++
    "# TYPE registrations_total gauge\nregistrations_total " ++ toString registrations ++ "\n"

/-- `handle_internal_request`. -/
def handleInternalRequest (s : Ingress) (serverInstanceId : Uuid) (startedAt : ℕ)
    (req : EntryRequest) : Reply :=
  if req.method = "GET" ∧ req.path = "/health" then
    ⟨200, some "application/json",
      .health (healthInfo s none (some serverInstanceId) (some startedAt))⟩
  else if req.method = "GET" ∧ req.path = "/metrics" then
    ⟨200, some "text/plain",
      .text (metricsText s.connections.entries.length s.registrations.entries.length)⟩
  else ⟨404, none, .text "Not Found"⟩

/-- Where `handle_alb_request` leaves a request. -/
inductive AlbOutcome
  /-- `start_ws_tunnel_from_alb` takes it over. -/
  | tunnel
  /-- A reply of the handler's own. -/
  | reply (r : Reply)
  /-- The response `process_alb_request` built. -/
  | proxied (response : HttpResponse)

/-- `handle_alb_request`, given `ENABLE_ALB_WS_PROXY`, `route_request_through_websocket`
and the id `process_alb_request` draws. -/
def handleAlbRequest (s : Ingress) (env : Option String)
    (routeRequestThroughWebsocket : ProxyRequest → Except String ProxyResponse) (id : Uuid)
    (req : HttpRequest) : AlbOutcome :=
  let entry := EntryRequest.of req
  if isWebsocketUpgrade entry.upgrade && wsProxyEnabled env then .tunnel
  else if entry.method = "GET" ∧ entry.path = "/health" then
    .reply ⟨200, some "application/json", .health (healthInfo s (some "8080") none none)⟩
  else
    match processAlbRequest routeRequestThroughWebsocket id req with
    | .ok response => .proxied response
    | .error e => .reply ⟨500, none, .text ("Proxy error: " ++ e)⟩

/-! ### Configuration -/

/-- `char::is_whitespace`: the characters of Unicode's `White_Space`. -/
def isWhitespace (c : Char) : Bool :=
  (0x09 ≤ c.toNat && c.toNat ≤ 0x0D) || c.toNat == 0x20 || c.toNat == 0x85 ||
    c.toNat == 0xA0 || c.toNat == 0x1680 || (0x2000 ≤ c.toNat && c.toNat ≤ 0x200A) ||
    c.toNat == 0x2028 || c.toNat == 0x2029 || c.toNat == 0x202F || c.toNat == 0x205F ||
    c.toNat == 0x3000

/-- `str::trim`. -/
def trim (s : List Char) : String :=
  ⟨((s.dropWhile isWhitespace).reverse.dropWhile isWhitespace).reverse⟩

/-- The headers `start_ws_tunnel_from_alb` forwards to the agent. -/
def wsForwardedHeaderNames : List String :=
  ["host", "x-forwarded-for", "x-forwarded-proto", "x-forwarded-host", "sec-websocket-protocol",
    "cookie", "authorization"]

/-- `fwd_headers`: under each name, its first value if `to_str` accepts it. -/
def wsForwardedHeaders (headers : HeaderMap) : List (String × String) :=
  wsForwardedHeaderNames.filterMap fun name => ((headers.get name).bind toStr).map (name, ·)

/-- The `upgradeRequest` step of a tunnelled upgrade: the session id `new_v4`
draws, the host as `process_alb_request` reads it, `path_and_query`, the
forwarded headers, and the subprotocols of `sec-websocket-protocol` split at
commas and trimmed. -/
def albUpgradeEvent (sid : Uuid) (req : HttpRequest) : Event :=
  let headers := wsForwardedHeaders req.headers
  .upgradeRequest sid (albTargetHost req.headers req.uri) (req.uri.pathAndQuery.getD "/") headers
    ((headers.lookup "sec-websocket-protocol").map fun v => (v.data.splitOn ',').map trim)

/-- The role patterns `new` reads from `std::env::var("ALLOWED_ROLE_ARNS").ok()`:
its comma-separated entries, each trimmed; `*` alone on `none`. -/
def allowedRolePatternsOf : Option String → List String
  | some s => (s.data.splitOn ',').map trim
  | none => ["*"]

/-- `SKIP_IAM_VALIDATION` lowercases to `true`. -/
def skipIamValidationOf : Option String → Bool
  | some s => s.toLower == "true"
  | none => false

/-- The `DefaultAuthService` that `new` builds, given `presigned_url.parse()`,
the HTTP client, `ALLOWED_ROLE_ARNS` and `SKIP_IAM_VALIDATION`. -/
def serviceAuth (parseUri : String → Except String String)
    (get : String → Except String HttpReply) (allowedRoleArns skipIamValidation : Option String) :
    DefaultAuthService :=
  ⟨parseUri, get, allowedRolePatternsOf allowedRoleArns, skipIamValidationOf skipIamValidation⟩

theorem allowedRolePatternsOf_ne_nil (env : Option String) : allowedRolePatternsOf env ≠ [] := by
  cases env with
  | some s => simpa [allowedRolePatternsOf, List.splitOn] using List.splitOnP_ne_nil _ s.data
  | none => simp [allowedRolePatternsOf]

/-- On a non-empty list, `is_role_allowed` is whether some pattern matches:
`*` matches every ARN. -/
theorem isRoleAllowed_of_ne_nil {patterns : List String} (h : patterns ≠ []) (arn : String) :
    isRoleAllowed patterns arn = patterns.any (matchesArnPattern arn) := by
  have hstar : patterns.contains "*" = true → patterns.any (matchesArnPattern arn) = true :=
    fun hc => List.any_eq_true.mpr ⟨"*", by simpa using hc, by simp [matchesArnPattern]⟩
  cases hc : patterns.contains "*" <;>
    simp_all [isRoleAllowed, List.isEmpty_iff]

/-- For every input `std::env::var("ALLOWED_ROLE_ARNS").ok()` and every ARN, the
configured server admits the ARN exactly when one of the value's trimmed,
comma-separated entries matches it; on `none`, which is an unset variable and
also a set one that is not Unicode, it admits every ARN. -/
theorem serviceAuth_isRoleAllowed (parseUri : String → Except String String)
    (get : String → Except String HttpReply) (allowedRoleArns skipIamValidation : Option String)
    (arn : String) :
    isRoleAllowed (serviceAuth parseUri get allowedRoleArns skipIamValidation).allowedRolePatterns
        arn =
      match allowedRoleArns with
      | some s => ((s.data.splitOn ',').map trim).any (matchesArnPattern arn)
      | none => true := by
  rw [serviceAuth, isRoleAllowed_of_ne_nil (allowedRolePatternsOf_ne_nil _)]
  cases allowedRoleArns <;> simp [allowedRolePatternsOf, matchesArnPattern]

end Server

end AnywhereMesh
