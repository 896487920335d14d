import AnywhereMesh.Common.Routing
import AnywhereMesh.Common.Base64

/-! The server's shared state and its lock sections. `DefaultRegistry`,
`DefaultRouter` and the tunnel tables of `CombinedIngressService` are separate
maps behind separate locks; every `.write().await` or `.read().await` block of
the source is one atomic step here, a `Section`, and every send on an unbounded
channel is one as well. A connection's sender is the channel created for that
connection in `handle_websocket_stream`, so the channel is named by the
connection id; a one-shot reply slot is named by the request or session id it
was created for. Tasks in flight are modelled on top of this, in `Mesh`. -/

namespace AnywhereMesh.Server

/-- `HostServiceCacheEntry`. -/
structure HostServiceCacheEntry where
  services : List ServiceRegistration
  timestamp : ℕ
  deriving DecidableEq, Repr

/-- `WsInitAck`. -/
structure WsInitAck where
  success : Bool
  message : Option String
  responseHeaders : Option (List (String × String))
  deriving DecidableEq, Repr

/-- `WsSession`. Its `alb_out_tx` is the session's own channel, `albOut` under
the session id. -/
structure WsSession where
  agentConnectionId : Uuid
  deriving DecidableEq, Repr

/-- `AlbOutboundFrame`: a frame queued for the downstream socket of a tunnel. -/
inductive AlbOutboundFrame
  | text (s : String)
  | binary (b : List UInt8)
  | close (code : Option UInt16) (reason : Option String)
  deriving DecidableEq, Repr

/-- The state of `CombinedIngressService`: its registry, router and tunnel tables,
and the contents of the channels between its tasks. -/
structure Ingress where
  /-- Wall-clock and monotonic time, in seconds. -/
  clock : ℕ
  connections : Table ConnectionInfo
  registrations : Table ServiceRegistration
  connectionSenders : Table Unit
  pendingRequests : Table Unit
  hostServiceCache : AList (fun _ : String => HostServiceCacheEntry)
  wsSessions : Table WsSession
  wsInitWaiters : Table Unit
  /-- Each connection's outbound channel; `none` once its receiver is dropped. -/
  outbound : Uuid → Option (List IngressMessage)
  albOut : Uuid → List AlbOutboundFrame
  replies : Uuid → Option ProxyResponse
  initAcks : Uuid → Option WsInitAck

/-- `CombinedIngressService::new`, at time `clock`. -/
def Ingress.init (clock : ℕ) : Ingress :=
  ⟨clock, ∅, ∅, ∅, ∅, ∅, ∅, ∅, fun _ => none, fun _ => [], fun _ => none,
    fun _ => none⟩

/-- `tx.send(m)` on connection `c`'s channel. -/
def Ingress.send (s : Ingress) (c : Uuid) (m : IngressMessage) : Ingress :=
  { s with outbound := Function.update s.outbound c ((s.outbound c).map (· ++ [m])) }

/-- The `ConnectionInfo` that `register_service` stores. -/
def connectionInfo (c : Uuid) (reg : ServiceRegistration) (now : ℕ) : ConnectionInfo :=
  ⟨c, reg.serviceName, reg.host, reg.port, now, reg.attributes⟩

/-- The frame `handle_ws_proxy_data_from_agent` forwards downstream, if any. -/
def albFrameOf (frameType : String) (payload : Option String) : Option AlbOutboundFrame :=
  match frameType, payload with
  | "text", some text => some (.text text)
  | "binary", some b64 => (Base64.decode b64).map .binary
  | _, _ => none

/-- The atomic steps of the server: one lock section or one channel operation. -/
inductive Section
  /-- `register_connection`. -/
  | registerConnection (c : Uuid)
  /-- The three blocks of `remove_connection`; the last two also end
  `deregister_service`. -/
  | removeConnectionInfo (c : Uuid)
  | removeRegistration (c : Uuid)
  | removeSender (c : Uuid)
  /-- The two blocks of `register_service`. -/
  | storeConnectionInfo (c : Uuid) (reg : ServiceRegistration)
  | storeRegistration (c : Uuid) (reg : ServiceRegistration)
  | updateHeartbeat (c : Uuid)
  /-- `send_response`: look up `c`'s sender and send on it. -/
  | sendResponse (c : Uuid) (m : IngressMessage)
  /-- A send on a clone of `c`'s sender that a task already holds. -/
  | sendOn (c : Uuid) (m : IngressMessage)
  /-- The outbound task takes the next message of `c`'s channel. -/
  | recvOutbound (c : Uuid)
  /-- The outbound task ends and drops the receiver of `c`'s channel. -/
  | closeOutbound (c : Uuid)
  | writeCache (host : String) (entry : HostServiceCacheEntry)
  | insertPending (r : Uuid)
  | removePending (r : Uuid)
  | handleResponse (resp : ProxyResponse)
  | insertSession (sid : Uuid) (sess : WsSession)
  | insertWaiter (sid : Uuid)
  | removeWaiter (sid : Uuid)
  | removeSession (sid : Uuid)
  | handleWsProxyInitAck (sid : Uuid) (ack : WsInitAck)
  | handleWsProxyDataFromAgent (sid : Uuid) (frameType : String) (payload : Option String)
  | handleWsProxyCloseFromAgent (sid : Uuid) (code : Option UInt16) (reason : Option String)
  /-- The downstream pump takes the next frame of a session's channel. -/
  | recvAlbOut (sid : Uuid)
  deriving DecidableEq, Repr

namespace Section

def apply : Section → Ingress → Ingress
  | registerConnection c, s => { s with connectionSenders := s.connectionSenders.insert c () }
  | removeConnectionInfo c, s => { s with connections := s.connections.erase c }
  | removeRegistration c, s => { s with registrations := s.registrations.erase c }
  | removeSender c, s => { s with connectionSenders := s.connectionSenders.erase c }
  | storeConnectionInfo c reg, s =>
    { s with connections := s.connections.insert c (connectionInfo c reg s.clock) }
  | storeRegistration c reg, s =>
    { s with registrations := s.registrations.insert c { reg with id := c } }
  | updateHeartbeat c, s =>
    match s.connections.lookup c with
    | some info =>
      { s with connections := s.connections.insert c { info with lastHeartbeat := s.clock } }
    | none => s
  | sendResponse c m, s => if c ∈ s.connectionSenders then s.send c m else s
  | sendOn c m, s => s.send c m
  | recvOutbound c, s =>
    match s.outbound c with
    | some (_ :: q) => { s with outbound := Function.update s.outbound c (some q) }
    | _ => s
  | closeOutbound c, s => { s with outbound := Function.update s.outbound c none }
  | writeCache host entry, s =>
    { s with hostServiceCache := s.hostServiceCache.insert host entry }
  | insertPending r, s => { s with pendingRequests := s.pendingRequests.insert r () }
  | removePending r, s => { s with pendingRequests := s.pendingRequests.erase r }
  | handleResponse resp, s =>
    if resp.id ∈ s.pendingRequests then
      { s with pendingRequests := s.pendingRequests.erase resp.id,
               replies := Function.update s.replies resp.id (some resp) }
    else s
  | insertSession sid sess, s => { s with wsSessions := s.wsSessions.insert sid sess }
  | insertWaiter sid, s => { s with wsInitWaiters := s.wsInitWaiters.insert sid () }
  | removeWaiter sid, s => { s with wsInitWaiters := s.wsInitWaiters.erase sid }
  | removeSession sid, s => { s with wsSessions := s.wsSessions.erase sid }
  | handleWsProxyInitAck sid ack, s =>
    if sid ∈ s.wsInitWaiters then
      { s with wsInitWaiters := s.wsInitWaiters.erase sid,
               initAcks := Function.update s.initAcks sid (some ack) }
    else s
  | handleWsProxyDataFromAgent sid frameType payload, s =>
    match s.wsSessions.lookup sid, albFrameOf frameType payload with
    | some _, some f => { s with albOut := Function.update s.albOut sid (s.albOut sid ++ [f]) }
    | _, _ => s
  | handleWsProxyCloseFromAgent sid code reason, s =>
    if sid ∈ s.wsSessions then
      { s with wsSessions := s.wsSessions.erase sid,
               albOut := Function.update s.albOut sid (s.albOut sid ++ [.close code reason]) }
    else s
  | recvAlbOut sid, s => { s with albOut := Function.update s.albOut sid (s.albOut sid).tail }

/-- Runs the section a task's step returns, if any. -/
def applyOpt : Option Section → Ingress → Ingress
  | some sec, s => sec.apply s
  | none, s => s

/-- What the section returns to its caller. -/
def result : Section → Ingress → IngressResult
  | updateHeartbeat c, s => if c ∈ s.connections then .ok () else .error (.registryNotFound c)
  | sendResponse c _, s =>
    if c ∈ s.connectionSenders then
      if (s.outbound c).isSome then .ok ()
      else .error (.sendFailed "Failed to send response to connection")
    else .error (.registryNotFound c)
  | handleResponse resp, s =>
    if resp.id ∈ s.pendingRequests then .ok () else .error (.registryNotFound resp.id)
  | _, _ => .ok ()

end Section

/-- Sections run one after another, with nothing in between. -/
def runSections : List Section → Ingress → Ingress
  | [], s => s
  | sec :: rest, s => runSections rest (sec.apply s)

@[simp] theorem runSections_nil (s : Ingress) : runSections [] s = s := rfl

@[simp] theorem runSections_cons (sec : Section) (rest : List Section) (s : Ingress) :
    runSections (sec :: rest) s = runSections rest (sec.apply s) := rfl

theorem runSections_append (l₁ l₂ : List Section) (s : Ingress) :
    runSections (l₁ ++ l₂) s = runSections l₂ (runSections l₁ s) := by
  induction l₁ generalizing s with
  | nil => rfl
  | cons sec rest ih => exact ih _

/-- A property of the server kept by every section is kept by every run. -/
theorem runSections_invariant {P : Ingress → Prop}
    (hstep : ∀ (sec : Section) s, P s → P (sec.apply s)) :
    ∀ (l : List Section) (s : Ingress), P s → P (runSections l s)
  | [], _, h => h
  | sec :: rest, s, h => runSections_invariant hstep rest _ (hstep sec s h)

end AnywhereMesh.Server
