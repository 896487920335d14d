import AnywhereMesh.Server.Router
import AnywhereMesh.Common.Frames

/-! `CombinedIngressService::start_ws_tunnel_from_alb` as a task, with the task
it spawns and that task's two pumps. The handler resolves the host, sends the
`WebSocketProxyInit` to the agent, and only then inserts the session and the
init waiter; the spawned task awaits the downstream upgrade and the init ack,
runs `alb_to_agent` and `agent_to_alb` until both have finished
(`tokio::join!`), tells the agent, and removes the waiter and the session.
`alb_to_agent` moves one downstream frame per step, so its steps are the
downstream client's; `agent_to_alb` takes the next frame of the session's
channel, whose only sender left once the handler has returned is the one in
`ws_sessions`. -/

namespace AnywhereMesh.Server

/-- The message `alb_to_agent` sends to the agent for a downstream frame. -/
def albToAgentMessage (sid : Uuid) : WsFrame → Option IngressMessage := wsFrameMessage sid

/-- The host resolution of `start_ws_tunnel_from_alb`: `match_host_to_service`
over all registrations, then a health check of that one match. -/
def wsResolve (host : String) (regs : List ServiceRegistration)
    (connections : Table ConnectionInfo) (now : ℕ) : Resolution :=
  match matchHostToService host regs with
  | none => .notFound
  | some m => if (selectHealthyInstance [m] connections now).isNone then .noHealthy else .selected m

/-- Where the tunnel of one session is. -/
inductive TunnelPhase
  /-- The handler reads the registrations. -/
  | resolving
  /-- The handler reads the connections and resolves the host. -/
  | checking (regs : List ServiceRegistration)
  /-- The handler reads the agent's sender and sends the `WebSocketProxyInit`. -/
  | initiating (agent : Uuid)
  /-- The handler inserts the session. -/
  | registering (agent : Uuid)
  /-- The handler inserts the init waiter, spawns the task and answers 101. -/
  | arming (agent : Uuid)
  /-- The task awaits the downstream upgrade. -/
  | upgrading (agent : Uuid)
  /-- The task awaits the init ack. -/
  | awaitingAck (agent : Uuid)
  /-- The pumps run; the flags say which of the two have not finished. -/
  | pumping (agent : Uuid) (albToAgent agentToAlb : Bool)
  /-- Both pumps have finished; the task tells the agent. -/
  | notifying (agent : Uuid)
  /-- The task removes the waiter, then the session. -/
  | releasingWaiter
  | releasingSession
  | finished
  /-- The handler answered without opening a tunnel. -/
  | rejected (status : UInt16) (body : String)
  /-- The handler's future was dropped. -/
  | dropped
  deriving DecidableEq, Repr

/-- One `start_ws_tunnel_from_alb` call and what it spawned. -/
structure TunnelTask where
  host : String
  path : String
  headers : List (String × String)
  subprotocols : Option (List String)
  phase : TunnelPhase
  deriving DecidableEq

/-- The `WebSocketProxyInit` the handler sends. -/
def TunnelTask.init (t : TunnelTask) (sid : Uuid) : IngressMessage :=
  .webSocketProxyInit sid t.host t.path t.headers t.subprotocols

/-- The steps of the handler and the task that need nothing from outside the
server; the upgrade, downstream frames and write failures are the downstream
client's. -/
def tunnelStep (sid : Uuid) (t : TunnelTask) (s : Ingress) :
    TunnelPhase → Option (Option Section × TunnelPhase)
  | .resolving => some (none, .checking s.registrations.values)
  | .checking regs =>
    some (none, match wsResolve t.host regs s.connections s.clock with
      | .notFound => .rejected 404 "Service Not Found"
      | .noHealthy => .rejected 503 "No healthy service available"
      | .selected m => .initiating m.id)
  | .initiating agent =>
    if agent ∈ s.connectionSenders then
      if (s.outbound agent).isSome then some (some (.sendOn agent (t.init sid)), .registering agent)
      else some (none, .rejected 502 "Upstream init failed")
    else some (none, .rejected 502 "No upstream connection")
  | .registering agent => some (some (.insertSession sid ⟨agent⟩), .arming agent)
  | .arming agent => some (some (.insertWaiter sid), .upgrading agent)
  | .upgrading _ => none
  | .awaitingAck agent =>
    match s.initAcks sid with
    | some ack => some (none, if ack.success then .pumping agent true true else .releasingWaiter)
    | none => if sid ∉ s.wsInitWaiters then some (none, .releasingWaiter) else none
  | .pumping agent a true =>
    match s.albOut sid with
    | _ :: _ => some (some (.recvAlbOut sid), .pumping agent a true)
    | [] => if sid ∈ s.wsSessions then none else some (none, .pumping agent a false)
  | .pumping agent false false => some (none, .notifying agent)
  | .pumping _ true false => none
  | .notifying agent =>
    some (some (.sendOn agent (.webSocketProxyClose sid none (some "alb connection closed"))),
      .releasingWaiter)
  | .releasingWaiter => some (some (.removeWaiter sid), .releasingSession)
  | .releasingSession => some (some (.removeSession sid), .finished)
  | .finished | .rejected _ _ | .dropped => none

/-- The sections a tunnel runs: sends to an agent, and the session's own
entries and channel. -/
theorem tunnelStep_section {sid : Uuid} {t : TunnelTask} {s : Ingress} {ph p : TunnelPhase}
    {sec : Section} (h : tunnelStep sid t s ph = some (some sec, p)) :
    (∃ c msg, sec = .sendOn c msg) ∨ (∃ sess, sec = .insertSession sid sess) ∨
      sec = .insertWaiter sid ∨ sec = .recvAlbOut sid ∨ sec = .removeWaiter sid ∨
      sec = .removeSession sid := by
  cases ph <;> simp only [tunnelStep] at h <;> (repeat' split at h) <;>
    simp only [Option.some.injEq, Prod.mk.injEq, reduceCtorEq, false_and] at h <;>
    obtain ⟨rfl, -⟩ := h <;> simp

/-- The handler's phases, at which hyper may drop its future. -/
def TunnelPhase.inHandler : TunnelPhase → Bool
  | .resolving | .checking _ | .initiating _ | .registering _ | .arming _ => true
  | _ => false

end AnywhereMesh.Server
