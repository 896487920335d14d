import AnywhereMesh.Client.Proxy
import AnywhereMesh.Common.Text

/-! `EcsAnywhereClient::run` and `connect_and_handle` (`client/client_impl.rs`):
connect to the ingress, the IAM handshake, then the `select!` loop over the
socket, the heartbeat channel, the health monitor's reconnect signal and
`proxy_tx`, until one of its exits; `run` then sleeps and starts over. The
agent's `ws_proxy` is created once, with the client, and every attempt hands
it the tunnel frames it receives. What the loop writes upstream is left out
here (it changes nothing the loop or the proxy reads), and so are successful
writes, which are steps that change no state of the agent.

Proved: a session stays in the reverse proxy's table through every return of
`connect_and_handle` and every reconnect, until the ingress closes it or both of
its tasks have ended. And the health monitor polls
the endpoint with its scheme swapped, trailing slashes trimmed and `/health`
appended: the first `/` of a `ws://` or `wss://` endpoint is the scheme's own,
so the branch that would drop the endpoint's path never runs. -/

namespace AnywhereMesh.Client

/-- Where `run` is. -/
inductive Attempt
  /-- `connect_async` to the ingress endpoint. -/
  | connecting
  /-- The IAM handshake: waiting for the `IamAuthResponse`. -/
  | authenticating
  /-- The `select!` loop. -/
  | running
  /-- `connect_and_handle` has returned; `run` sleeps before the next attempt. -/
  | returned
  deriving DecidableEq, Repr

/-- What `ws_receiver.next()` yields. -/
inductive Received
  /-- A text frame, as `serde_json` parses it; `none` when it does not parse. -/
  | text (m : Option IngressMessage)
  | close
  /-- A read error. -/
  | error
  /-- The end of the stream. -/
  | ended
  /-- A binary, ping or pong frame. -/
  | other
  deriving DecidableEq, Repr

/-- An `EcsAnywhereClient` in `run`: where it is, and its `ws_proxy`, which all
attempts share. -/
structure Agent where
  attempt : Attempt
  proxy : ReverseProxy

def Agent.init : Agent := ⟨.connecting, ReverseProxy.new⟩

/-- What can happen next. -/
inductive AgentEvent
  /-- `connect_async` to the ingress succeeds, or fails and the attempt returns. -/
  | connect (ok : Bool)
  /-- `ws_receiver.next()` yields; a `WebSocketProxyInit` dials the local
  endpoint, and `dial` is how that ends. -/
  | receive (r : Received) (dial : Except String Unit)
  /-- A write on `ws_sender` fails: the auth request, the registration, a
  heartbeat, a message of `proxy_tx`, a proxied response. -/
  | sendFailed
  /-- The health monitor sees a new server `instance_id`. -/
  | instanceChanged
  /-- `run`'s five-second sleep ends. -/
  | retry
  /-- A step of a session's tasks, which run whatever the loop does. -/
  | session (e : SessionEvent)

namespace Agent

/-- The agent after an event; `none` when it cannot happen. -/
def step (a : Agent) : AgentEvent → Option Agent
  | .connect ok =>
    if a.attempt = .connecting then
      some { a with attempt := if ok then .authenticating else .returned }
    else none
  | .receive r dial =>
    match a.attempt, r with
    | .authenticating, .text (some (.iamAuthResponse resp)) =>
      some { a with attempt := if resp.success then .running else .returned }
    | .authenticating, .text _ | .authenticating, .other => some a
    | .authenticating, _ => some { a with attempt := .returned }
    | .running, .text (some m) => some { a with proxy := (a.proxy.handleIngressMessage dial m).1 }
    | .running, .other => some a
    | .running, _ => some { a with attempt := .returned }
    | _, _ => none
  | .sendFailed =>
    if a.attempt = .authenticating ∨ a.attempt = .running then
      some { a with attempt := .returned }
    else none
  | .instanceChanged =>
    if a.attempt = .running then some { a with attempt := .returned } else none
  | .retry => if a.attempt = .returned then some { a with attempt := .connecting } else none
  | .session e => (a.proxy.sessionStep e).map fun r => { a with proxy := r.1 }

/-- Runs events one after another. -/
def execAll : Agent → List AgentEvent → Option Agent
  | a, [] => some a
  | a, e :: es => (a.step e).bind fun a' => execAll a' es

/-! ### Returning and reconnecting -/

/-- An attempt authenticates and opens session 5 to the local endpoint. -/
def openSession : List AgentEvent :=
  [.connect true, .receive (.text (some (.iamAuthResponse ⟨true, none, none⟩))) (.ok ()),
    .receive (.text (some (.webSocketProxyInit 5 "api.example.com" "/" [] none))) (.ok ())]

def sessionOpened : Agent := (init.execAll openSession).getD init

/-- The ingress then closes the socket. -/
def afterServerClose : Agent := (sessionOpened.step (.receive .close (.ok ()))).getD init

variable {a a' : Agent}

/-- A session stays in the table at a step unless the step handles a close from
the ingress for it or is its joining task's. -/
theorem mem_sessions_step {e : AgentEvent} (h : a.step e = some a') {sid : Uuid}
    (hs : sid ∈ a.proxy.sessions)
    (hclose : ∀ dial code reason,
      e ≠ .receive (.text (some (.webSocketProxyClose sid code reason))) dial)
    (hrel : e ≠ .session (.release sid)) : sid ∈ a'.proxy.sessions := by
  cases e with
  | session e =>
    obtain ⟨r, hr, rfl⟩ := Option.map_eq_some'.mp h
    exact ReverseProxy.mem_sessions_sessionStep hr hs (fun he => hrel (he ▸ rfl))
  | receive r dial =>
    simp only [step] at h
    split at h <;> (try cases h) <;> try exact hs
    next m =>
      exact ReverseProxy.mem_sessions_handleIngressMessage dial hs
        fun code reason hm => hclose dial code reason (hm ▸ rfl)
  | _ =>
    simp only [step] at h
    split at h <;> cases h
    all_goals exact hs

/-- A session stays in the table over any run, through every return of
`connect_and_handle` and every reconnect, until the ingress closes it or both of
its tasks have ended. -/
theorem session_survives_reconnect {es : List AgentEvent} (h : a.execAll es = some a') {sid : Uuid}
    (hs : sid ∈ a.proxy.sessions)
    (hclose : ∀ dial code reason,
      AgentEvent.receive (.text (some (.webSocketProxyClose sid code reason))) dial ∉ es)
    (hrel : AgentEvent.session (.release sid) ∉ es) : sid ∈ a'.proxy.sessions := by
  induction es generalizing a with
  | nil => exact Option.some.inj h ▸ hs
  | cons e es ih =>
    obtain ⟨b, hb, h⟩ := Option.bind_eq_some.mp h
    refine ih h (mem_sessions_step hb hs (fun dial code reason he => ?_) ?_)
      (fun dial code reason hm => hclose dial code reason (List.mem_cons_of_mem _ hm))
      (fun hm => hrel (List.mem_cons_of_mem _ hm))
    · exact hclose dial code reason (he ▸ List.mem_cons_self _ _)
    · exact fun he => hrel (he ▸ List.mem_cons_self _ _)

/-- `connect_and_handle` has returned with session 5 in the table and nothing,
no close either, written to its local socket. -/
theorem session_survives_reconnect_serverClose :
    afterServerClose.attempt = .returned ∧ afterServerClose.proxy.written 5 = [] ∧
      5 ∈ afterServerClose.proxy.sessions :=
  ⟨rfl, rfl, session_survives_reconnect
    (show sessionOpened.execAll [.receive .close (.ok ())] = some afterServerClose from rfl)
    (by decide) (by simp) (by simp)⟩

end Agent

/-! ### The health monitor's URL -/

def websocketToHttpHealthUrl (ingressEndpoint : String) : Option String :=
  let url :=
    if "wss://".data.isPrefixOf ingressEndpoint.data then
      replaceFirst ingressEndpoint.data "wss://".data "https://".data
    else if "ws://".data.isPrefixOf ingressEndpoint.data then
      replaceFirst ingressEndpoint.data "ws://".data "http://".data
    else ingressEndpoint.data
  match findByte '/' url with
  | some idx =>
    if idx > 7 then
      /- `split_at(idx)` at the first `/` keeps what comes before it -/
      some (⟨url.takeWhile (· ≠ '/')⟩ ++ "/health")
    else some (⟨trimEndMatches '/' url⟩ ++ "/health")
  | none => some (⟨trimEndMatches '/' url⟩ ++ "/health")

/-- The first `/` of a `ws://` or `wss://` endpoint is the scheme's own, at byte
5 or 6 once the scheme is swapped, so the URL is the whole swapped endpoint,
path included, with trailing slashes trimmed and `/health` appended. -/
theorem websocketToHttpHealthUrl_keeps_path (rest : String) :
    websocketToHttpHealthUrl ("ws://" ++ rest) =
        some (⟨trimEndMatches '/' ("http://" ++ rest).data⟩ ++ "/health") ∧
      websocketToHttpHealthUrl ("wss://" ++ rest) =
        some (⟨trimEndMatches '/' ("https://" ++ rest).data⟩ ++ "/health") := by
  have hws : ("ws://" ++ rest).data = "ws://".data ++ rest.data := rfl
  have hwss : ("wss://" ++ rest).data = "wss://".data ++ rest.data := rfl
  have hpre : "ws://".data.isPrefixOf ("ws://".data ++ rest.data) = true := by
    simp [List.isPrefixOf]
  have hnot : "wss://".data.isPrefixOf ("ws://".data ++ rest.data) = false := by
    simp [List.isPrefixOf]
  have hpre' : "wss://".data.isPrefixOf ("wss://".data ++ rest.data) = true := by
    simp [List.isPrefixOf]
  constructor
  · simp only [websocketToHttpHealthUrl, hws, hnot, hpre, replaceFirst_of_isPrefixOf _ hpre]
    simp only [findByte]
    rfl
  · simp only [websocketToHttpHealthUrl, hwss, hpre', replaceFirst_of_isPrefixOf _ hpre']
    simp only [findByte]
    rfl

/-- An endpoint with a path: the monitor polls `/health` below the path, not the
server's own `/health`. -/
theorem health_url_of_endpoint_with_path :
    websocketToHttpHealthUrl "ws://h:8082/ws" = some "http://h:8082/ws/health" := by
  decide

end AnywhereMesh.Client
