import AnywhereMesh.Server.Sessions
import AnywhereMesh.Client.Proxy

/-! One agent's control channel with the WebSocket tunnels over it, end to end.
Toward the agent a frame of session `sid` goes from the downstream client
through `alb_to_agent`, the server's channel to the agent, its outbound task,
the socket, the agent's loop and `handle_data_from_server`, the session's
channel and its writer, to the local socket. Back it goes through the reader,
`proxy_tx`, the agent's loop, the socket, the server's inbound task and
`handle_ws_proxy_data_from_agent`, the session's channel and `agent_to_alb`.
Every hop is a FIFO; any number of sessions, HTTP envelopes, heartbeats and
registry frames share the channels and the socket, and every task moves when
the interleaving lets it. A task that fails to write stops, which here is a
task that takes no more steps.

Proved: for every session, what each end has been written is, as a sequence of
text and binary payloads, a sublist of what the other end sent on that session.
The invariant behind it reads each direction's payloads along the hops, from
the written end back to the sending one: what was delivered, then what waits at
each hop in order, all of it a sublist of what was sent. -/

open scoped List

namespace AnywhereMesh.Server

/-! ### The server's side of a tunnel -/

def AlbOutboundFrame.payload : AlbOutboundFrame → Option Payload
  | .text s => some (.text s)
  | .binary b => some (.binary b)
  | .close .. => none

theorem albFrameOf_payload (frameType : String) (payload : Option String) :
    (albFrameOf frameType payload).bind AlbOutboundFrame.payload =
      dataPayload frameType payload := by
  unfold albFrameOf dataPayload
  split <;> simp [AlbOutboundFrame.payload]
  cases Base64.decode _ <;> rfl

/-- The payloads for session `sid` waiting in connection `c`'s channel. -/
def Ingress.inFlight (s : Ingress) (c sid : Uuid) : List Payload :=
  ((s.outbound c).getD []).filterMap (IngressMessage.payloadFor sid)

theorem Ingress.inFlight_send (s : Ingress) (c : Uuid) (m : IngressMessage) (c' sid : Uuid) :
    (s.send c m).inFlight c' sid <+ s.inFlight c' sid ++ (m.payloadFor sid).toList := by
  unfold Ingress.send Ingress.inFlight
  by_cases h : c' = c
  · subst h
    cases s.outbound c' <;> cases hp : m.payloadFor sid <;> simp [hp]
  · simp [Function.update_noteq h]

/-- Whether a section sends a `WebSocketProxyData` frame to a connection. -/
def Section.sendsData : Section → Bool
  | .sendResponse _ m | .sendOn _ m => m.isData
  | _ => false

/-- A section that sends no data frame adds no payload to any channel. -/
theorem Section.inFlight_apply (sec : Section) (s : Ingress) (c sid : Uuid)
    (h : sec.sendsData = false) : (sec.apply s).inFlight c sid <+ s.inFlight c sid := by
  cases sec
  case sendResponse d m | sendOn d m =>
    have hm := payloadFor_of_isData h sid
    simp only [apply]
    (repeat' split) <;>
      first | exact List.Sublist.refl _ | simpa [hm] using Ingress.inFlight_send s d m c sid
  case recvOutbound d =>
    simp only [apply]
    split
    · next a q hq =>
      by_cases hd : c = d
      · subst hd
        simpa [Ingress.inFlight, hq] using List.sublist_cons_self _ _ |>.filterMap _
      · simp [Ingress.inFlight, Function.update_noteq hd]
    · exact List.Sublist.refl _
  case closeOutbound d =>
    by_cases hd : c = d
    · subst hd
      simp [apply, Ingress.inFlight]
    · simp [apply, Ingress.inFlight, Function.update_noteq hd]
  all_goals simp only [apply]; (repeat' split) <;> exact List.Sublist.refl _

theorem Ingress.inFlight_applyOpt_sendOn (s : Ingress) (c : Uuid) (o : Option IngressMessage)
    (c' sid : Uuid) :
    (Section.applyOpt (o.map (.sendOn c)) s).inFlight c' sid <+
      s.inFlight c' sid ++ (o.bind (IngressMessage.payloadFor sid)).toList := by
  cases o
  · exact List.sublist_append_left _ _
  · exact s.inFlight_send c _ c' sid

theorem runSections_inFlight {l : List Section} (hl : ∀ sec ∈ l, sec.sendsData = false)
    (s : Ingress) (c sid : Uuid) : (runSections l s).inFlight c sid <+ s.inFlight c sid := by
  induction l generalizing s with
  | nil => exact List.Sublist.refl _
  | cons sec rest ih =>
    exact (ih (fun sec' h => hl sec' (List.mem_cons_of_mem _ h)) _).trans
      (sec.inFlight_apply s c sid (hl sec (List.mem_cons_self _ _)))

/-- A handler answers the agent with responses and acks only. -/
theorem sendsData_of_mem_handleWebsocketMessage (c : Uuid)
    (authenticate : IamAuthRequest → IamAuthResponse) (f : Option IngressMessage) :
    ∀ sec ∈ sectionsOf (handleWebsocketMessage c authenticate f), sec.sendsData = false :=
    fun sec h => by
  rcases mem_handleWebsocketMessage h with ⟨_, rfl, rfl⟩ | ⟨_, rfl, rfl | rfl | rfl⟩ | rfl |
    ⟨_, rfl, rfl⟩ | ⟨_, rfl, rfl | rfl⟩ | ⟨_, _, _, _, rfl, rfl⟩ | ⟨_, _, _, rfl, rfl⟩ |
    ⟨_, _, _, rfl, rfl⟩ <;> simp [Section.sendsData, IngressMessage.isData]

theorem runSections_albOut {l : List Section} {sid : Uuid} (hl : ∀ sec ∈ l, sec.wsKey = none)
    (s : Ingress) : (runSections l s).albOut sid = s.albOut sid := by
  induction l generalizing s with
  | nil => rfl
  | cons sec rest ih =>
    rw [runSections_cons, ih (fun sec' h => hl sec' (List.mem_cons_of_mem _ h)),
      (sec.albOut_apply s (by simp [hl sec (List.mem_cons_self _ _)])).1]

theorem wsKey_of_mem_handleMessage (c : Uuid) (authenticate : IamAuthRequest → IamAuthResponse)
    (m : IngressMessage) :
    ∀ sec ∈ sectionsOf (handleMessage c authenticate m), sec.wsKey = none := fun sec h => by
  rcases mem_handleMessage h with ⟨_, rfl, rfl⟩ | ⟨_, rfl, rfl | rfl | rfl⟩ | rfl | ⟨_, rfl, rfl⟩ |
    ⟨_, rfl, rfl | rfl⟩ <;> simp [Section.wsKey]

/-- Handling a message from the agent queues on a session's downstream channel
at most the payload the message carries for that session. -/
theorem handleWebsocketMessage_albOut (c : Uuid)
    (authenticate : IamAuthRequest → IamAuthResponse) (m : IngressMessage) (s : Ingress)
    (sid : Uuid) :
    ((runSections (sectionsOf (handleWebsocketMessage c authenticate (some m))) s).albOut
        sid).filterMap AlbOutboundFrame.payload <+
      (s.albOut sid).filterMap AlbOutboundFrame.payload ++ (m.payloadFor sid).toList := by
  cases m
  case webSocketProxyInitAck =>
    simp only [handleWebsocketMessage, sectionsOf, runSections, Section.apply]
    split <;> exact List.sublist_append_left _ _
  case webSocketProxyData s' t pl =>
    simp only [handleWebsocketMessage, sectionsOf, runSections, Section.apply]
    split
    · next _ _ _ f _ hf =>
      by_cases hs : s' = sid
      · subst hs
        cases hp : f.payload <;>
          simp [IngressMessage.payloadFor, ← albFrameOf_payload, hf, hp]
      · simp [Function.update_noteq (Ne.symm hs), IngressMessage.payloadFor, hs]
    · exact List.sublist_append_left _ _
  case webSocketProxyClose s' code reason =>
    simp only [handleWebsocketMessage, sectionsOf, runSections, Section.apply]
    split
    · by_cases hs : s' = sid
      · subst hs
        simp [AlbOutboundFrame.payload]
      · simp [Function.update_noteq (Ne.symm hs)]
    · exact List.sublist_append_left _ _
  all_goals
    simp only [handleWebsocketMessage]
    rw [runSections_albOut (wsKey_of_mem_handleMessage c authenticate _)]
    exact List.sublist_append_left _ _

end AnywhereMesh.Server

namespace AnywhereMesh.Tunnel

open Server Client

/-! ### The channel and its tunnels -/

theorem filterMap_cons_eq_toList {α β : Type} (f : α → Option β) (a : α) (l : List α) :
    (a :: l).filterMap f = (f a).toList ++ l.filterMap f := by
  simp [List.filterMap_eq_flatMap_toList]

/-- One agent's control channel with the tunnels over it: the server, the
socket in each direction, the agent's `proxy_tx` and reverse proxy, and what
each session's downstream client has sent and been sent. -/
structure Pipe where
  server : Ingress
  /-- What the server's outbound task has written and the agent has not read yet. -/
  toAgent : List IngressMessage
  proxy : ReverseProxy
  /-- `proxy_tx`, the channel from the reverse proxy to the agent's loop. -/
  proxyTx : List IngressMessage
  /-- What the agent's loop has written and the server's inbound task has not read yet. -/
  toServer : List IngressMessage
  /-- What each session's `alb_to_agent` has read from its downstream client. -/
  downRead : Uuid → List WsFrame
  /-- What each session's `agent_to_alb` has written to its downstream client. -/
  downWritten : Uuid → List AlbOutboundFrame

/-- Right after the agent connected: its channel open and its sender registered. -/
def Pipe.init (agent : Uuid) : Pipe :=
  ⟨(Section.registerConnection agent).apply
      { Ingress.init 0 with outbound := Function.update (Ingress.init 0).outbound agent (some []) },
    [], ReverseProxy.new, [], [], fun _ => [], fun _ => []⟩

/-- What can happen next on the channel. -/
inductive PipeEvent
  /-- A send on the agent's channel other than a data frame: the
  `WebSocketProxyInit` of a new tunnel, the `WebSocketProxyClose` of an ended one,
  a request `route_request` forwards. -/
  | serverSend (m : IngressMessage)
  /-- A tunnel inserts or removes its session. -/
  | insertSession (sid : Uuid)
  | removeSession (sid : Uuid)
  /-- `alb_to_agent` of session `sid` reads a frame from its downstream client. -/
  | albRead (sid : Uuid) (f : WsFrame)
  /-- `agent_to_alb` of session `sid` writes the next frame of its channel. -/
  | albWrite (sid : Uuid)
  /-- The outbound task writes the next message of the agent's channel to the socket. -/
  | outbound
  /-- The outbound task fails to write and drops the channel's receiver. -/
  | writeFail
  /-- The agent's loop reads the next message and runs `handle_ingress_message`. -/
  | agentRead (dial : Except String Unit)
  /-- A step of a session's tasks on the agent. -/
  | session (e : SessionEvent)
  /-- The agent's loop writes the next message of `proxy_tx` to the socket. -/
  | forward
  /-- The agent's loop writes a message of its own: a heartbeat, a proxied response. -/
  | agentSend (m : IngressMessage)
  /-- The server's inbound task reads the next message and runs its handler. -/
  | serverRead (authenticate : IamAuthRequest → IamAuthResponse)

namespace Pipe

/-- The channel of agent `agent` after an event; `none` when it cannot happen. -/
def step (agent : Uuid) (p : Pipe) : PipeEvent → Option Pipe
  | .serverSend m =>
    if m.isData then none else some { p with server := (Section.sendOn agent m).apply p.server }
  | .insertSession sid =>
    some { p with server := (Section.insertSession sid ⟨agent⟩).apply p.server }
  | .removeSession sid => some { p with server := (Section.removeSession sid).apply p.server }
  | .albRead sid f =>
    some { p with server := Section.applyOpt ((albToAgentMessage sid f).map (.sendOn agent))
                              p.server,
                  downRead := Function.update p.downRead sid (p.downRead sid ++ [f]) }
  | .albWrite sid =>
    match p.server.albOut sid with
    | f :: _ =>
      some { p with server := (Section.recvAlbOut sid).apply p.server,
                    downWritten := Function.update p.downWritten sid (p.downWritten sid ++ [f]) }
    | [] => none
  | .outbound =>
    match p.server.outbound agent with
    | some (m :: _) =>
      some { p with server := (Section.recvOutbound agent).apply p.server,
                    toAgent := p.toAgent ++ [m] }
    | _ => none
  | .writeFail => some { p with server := (Section.closeOutbound agent).apply p.server }
  | .agentRead dial =>
    match p.toAgent with
    | m :: q =>
      some { p with toAgent := q, proxy := (p.proxy.handleIngressMessage dial m).1,
                    proxyTx := p.proxyTx ++ (p.proxy.handleIngressMessage dial m).2 }
    | [] => none
  | .session e =>
    (p.proxy.sessionStep e).map fun r => { p with proxy := r.1, proxyTx := p.proxyTx ++ r.2.toList }
  | .forward =>
    match p.proxyTx with
    | m :: q => some { p with proxyTx := q, toServer := p.toServer ++ [m] }
    | [] => none
  | .agentSend m => if m.isData then none else some { p with toServer := p.toServer ++ [m] }
  | .serverRead authenticate =>
    match p.toServer with
    | m :: q =>
      some { p with server :=
                      runSections (sectionsOf (handleWebsocketMessage agent authenticate (some m)))
                        p.server,
                    toServer := q }
    | [] => none

/-- Runs events one after another. -/
def execAll (agent : Uuid) : Pipe → List PipeEvent → Option Pipe
  | p, [] => some p
  | p, e :: es => (p.step agent e).bind fun p' => execAll agent p' es

inductive Reachable (agent : Uuid) : Pipe → Prop
  | init : Reachable agent (Pipe.init agent)
  | step {p p' : Pipe} {e : PipeEvent} : Reachable agent p → p.step agent e = some p' →
      Reachable agent p'

theorem Reachable.execAll {agent : Uuid} {p p' : Pipe} (h : Reachable agent p) :
    ∀ {es : List PipeEvent}, p.execAll agent es = some p' → Reachable agent p'
  | [], he => Option.some.inj he ▸ h
  | e :: es, he => by
    obtain ⟨q, hq, he⟩ := Option.bind_eq_some.mp he
    exact (h.step hq).execAll he

/-! ### Payloads along each direction -/

/-- Toward session `sid`'s local socket, in order: what it has been written,
what its channel holds, what is on the socket and in the server's channel. -/
def towardLocal (agent sid : Uuid) (p : Pipe) : List Payload :=
  p.proxy.localOut sid ++ p.toAgent.filterMap (IngressMessage.payloadFor sid) ++
    p.server.inFlight agent sid

/-- Toward session `sid`'s downstream client, in order: what it has been
written, what its channel holds, what is on the socket and in `proxy_tx`. -/
def towardDown (sid : Uuid) (p : Pipe) : List Payload :=
  (p.downWritten sid ++ p.server.albOut sid).filterMap AlbOutboundFrame.payload ++
    (p.toServer ++ p.proxyTx).filterMap (IngressMessage.payloadFor sid)

variable {agent : Uuid} {p p' : Pipe}

/-- A server section that sends no data frame adds nothing toward a local socket. -/
theorem towardLocal_server (sec : Section) (h : sec.sendsData = false) (sid : Uuid) :
    ({ p with server := sec.apply p.server } : Pipe).towardLocal agent sid <+
      p.towardLocal agent sid :=
  (sec.inFlight_apply p.server agent sid h).append_left _

/-- A step adds toward a session's local socket at most what its downstream
client sent in the same step. -/
theorem step_towardLocal {e : PipeEvent} (h : p.step agent e = some p') (sid : Uuid) :
    ∃ X, (p'.downRead sid).filterMap WsFrame.payload =
        (p.downRead sid).filterMap WsFrame.payload ++ X ∧
      p'.towardLocal agent sid <+ p.towardLocal agent sid ++ X := by
  cases e with
  | serverSend m =>
    simp only [step] at h
    split at h <;> cases h
    next hm =>
      have hsec : (Section.sendOn agent m).sendsData = false := by
        simpa [Section.sendsData] using hm
      exact ⟨[], by simp, by simpa using towardLocal_server _ hsec sid⟩
  | insertSession s | removeSession s | writeFail =>
    cases h
    refine ⟨[], by simp, ?_⟩
    rw [List.append_nil]
    exact towardLocal_server _ (by rfl) sid
  | albRead s f =>
    cases h
    refine ⟨((albToAgentMessage s f).bind (IngressMessage.payloadFor sid)).toList, ?_, ?_⟩
    · by_cases hs : s = sid
      · subst hs
        cases hf : f.payload <;> simp [albToAgentMessage, payloadFor_wsFrameMessage, hf]
      · simp [Function.update_noteq (Ne.symm hs), albToAgentMessage,
          payloadFor_wsFrameMessage_ne hs]
    · simpa only [towardLocal, List.append_assoc] using
        ((p.server.inFlight_applyOpt_sendOn agent _ agent sid).append_left _).append_left _
  | albWrite s =>
    simp only [step] at h
    split at h <;> cases h
    exact ⟨[], by simp, by simpa using towardLocal_server (.recvAlbOut s) rfl sid⟩
  | outbound =>
    simp only [step] at h
    split at h <;> cases h
    next m q hq =>
      refine ⟨[], by simp, ?_⟩
      simp [towardLocal, Ingress.inFlight, Section.apply, hq, filterMap_cons_eq_toList]
  | agentRead dial =>
    simp only [step] at h
    split at h <;> cases h
    next m q hq =>
      refine ⟨[], by simp, ?_⟩
      simpa only [towardLocal, hq, filterMap_cons_eq_toList, List.append_assoc,
        List.append_nil] using
        ((p.proxy.localOut_handleIngressMessage dial m sid).append_right _)
  | session e =>
    obtain ⟨r, hr, rfl⟩ := Option.map_eq_some'.mp h
    exact ⟨[], by simp, by simpa [towardLocal] using ReverseProxy.localOut_sessionStep hr sid⟩
  | forward =>
    simp only [step] at h
    split at h <;> cases h
    exact ⟨[], by simp, by simp [towardLocal]⟩
  | agentSend m =>
    simp only [step] at h
    split at h <;> cases h
    exact ⟨[], by simp, by simp [towardLocal]⟩
  | serverRead authenticate =>
    simp only [step] at h
    split at h <;> cases h
    next m q hq =>
      have hs := runSections_inFlight (sendsData_of_mem_handleWebsocketMessage agent authenticate
        (some m)) p.server agent sid
      exact ⟨[], by simp, by simpa [towardLocal] using hs⟩

/-- A step adds toward a session's downstream client at most what its local
socket was read in the same step. -/
theorem step_towardDown {e : PipeEvent} (h : p.step agent e = some p') (sid : Uuid) :
    ∃ X, (p'.proxy.read sid).filterMap WsFrame.payload =
        (p.proxy.read sid).filterMap WsFrame.payload ++ X ∧
      p'.towardDown sid <+ p.towardDown sid ++ X := by
  cases e with
  | serverSend m =>
    simp only [step] at h
    split at h <;> cases h
    exact ⟨[], by simp, by simp [towardDown, Section.apply, Ingress.send]⟩
  | insertSession s | removeSession s | writeFail =>
    cases h
    exact ⟨[], by simp, by simp [towardDown, Section.apply]⟩
  | albRead s f =>
    cases h
    refine ⟨[], by simp, ?_⟩
    cases albToAgentMessage s f <;> simp [towardDown, Section.applyOpt, Section.apply, Ingress.send]
  | albWrite s =>
    simp only [step] at h
    split at h <;> cases h
    next f q hq =>
      refine ⟨[], by simp, ?_⟩
      by_cases hs : s = sid
      · subst hs
        simp [towardDown, Section.apply, hq]
      · simp [towardDown, Section.apply, Function.update_noteq (Ne.symm hs)]
  | outbound =>
    simp only [step] at h
    split at h <;> cases h
    next m q hq =>
      exact ⟨[], by simp, by simp [towardDown, Section.apply, hq]⟩
  | agentRead dial =>
    simp only [step] at h
    split at h <;> cases h
    next m q hq =>
      exact ⟨[], by simp [ReverseProxy.read_handleIngressMessage],
        by simp [towardDown, ReverseProxy.handleIngressMessage_sent]⟩
  | session e =>
    obtain ⟨r, hr, rfl⟩ := Option.map_eq_some'.mp h
    refine ⟨(r.2.bind (IngressMessage.payloadFor sid)).toList,
      ReverseProxy.read_sessionStep hr sid, ?_⟩
    cases r.2 <;> simp [towardDown, filterMap_cons_eq_toList]
  | forward =>
    simp only [step] at h
    split at h <;> cases h
    next m q hq =>
      exact ⟨[], by simp, by simp [towardDown, hq]⟩
  | agentSend m =>
    simp only [step] at h
    split at h <;> cases h
    next hm =>
      exact ⟨[], by simp,
        by simp [towardDown, payloadFor_of_isData (Bool.not_eq_true _ ▸ hm)]⟩
  | serverRead authenticate =>
    simp only [step] at h
    split at h <;> cases h
    next m q hq =>
      have hs := handleWebsocketMessage_albOut agent authenticate m p.server sid
      refine ⟨[], by simp, ?_⟩
      simpa [towardDown, hq, filterMap_cons_eq_toList] using
        (hs.append_left ((p.downWritten sid).filterMap AlbOutboundFrame.payload)).append_right
          ((q ++ p.proxyTx).filterMap (IngressMessage.payloadFor sid))

/-! ### Every reachable state -/

/-- Each direction of every session: what has been delivered and what waits on
the way is, in order, a sublist of what was sent. -/
structure Inv (agent : Uuid) (p : Pipe) : Prop where
  toward_local : ∀ sid, p.towardLocal agent sid <+ (p.downRead sid).filterMap WsFrame.payload
  toward_down : ∀ sid, p.towardDown sid <+ (p.proxy.read sid).filterMap WsFrame.payload

theorem inv_init (agent : Uuid) : (Pipe.init agent).Inv agent :=
  ⟨fun _ => by simp [towardLocal, ReverseProxy.localOut, ReverseProxy.new, Ingress.inFlight,
      Pipe.init, Section.apply, Ingress.init],
    fun _ => by simp [towardDown, Pipe.init, Section.apply, Ingress.init]⟩

theorem Inv.step {e : PipeEvent} (hi : p.Inv agent) (h : p.step agent e = some p') :
    p'.Inv agent := by
  refine ⟨fun sid => ?_, fun sid => ?_⟩
  · obtain ⟨X, hr, hs⟩ := step_towardLocal h sid
    rw [hr]
    exact hs.trans ((hi.toward_local sid).append_right X)
  · obtain ⟨X, hr, hs⟩ := step_towardDown h sid
    rw [hr]
    exact hs.trans ((hi.toward_down sid).append_right X)

theorem Reachable.inv (h : Reachable agent p) : p.Inv agent := by
  induction h with
  | init => exact inv_init agent
  | step _ hs ih => exact ih.step hs

/-- Over every interleaving, for every session and in both directions, the text
and binary payloads written to one end are a sublist of those read from the
other end on that session: in the order they were sent, none twice, none from
another session, binary ones byte for byte after the base64 round trip. -/
theorem tunnel_frames_in_order (h : Reachable agent p) (sid : Uuid) :
    (p.proxy.written sid).filterMap OutboundToLocal.payload <+
        (p.downRead sid).filterMap WsFrame.payload ∧
      (p.downWritten sid).filterMap AlbOutboundFrame.payload <+
        (p.proxy.read sid).filterMap WsFrame.payload := by
  have hi := h.inv
  refine ⟨List.Sublist.trans ?_ (hi.toward_local sid),
    List.Sublist.trans ?_ (hi.toward_down sid)⟩
  · simp [towardLocal, ReverseProxy.localOut, List.append_assoc]
  · simp [towardDown, List.append_assoc]

/-- Session 5 over agent 1: the init goes out and is answered, the downstream
client sends a text and a binary frame, the local socket answers with a text
frame, and every hop moves. -/
def echo : List PipeEvent :=
  [.serverSend (.webSocketProxyInit 5 "api.example.com" "/" [] none), .insertSession 5,
    .outbound, .agentRead (.ok ()), .forward, .serverRead denyAll,
    .albRead 5 (.text "hi"), .albRead 5 (.binary [1, 2, 3]), .outbound, .outbound,
    .agentRead (.ok ()), .agentRead (.ok ()), .session (.writerSend 5), .session (.writerSend 5),
    .session (.localRead 5 (.text "ok")), .forward, .serverRead denyAll, .albWrite 5]

def echoPipe : Pipe := ((Pipe.init 1).execAll 1 echo).getD (Pipe.init 1)

theorem tunnel_frames_in_order_echo :
    (echoPipe.proxy.written 5).filterMap OutboundToLocal.payload =
        [.text "hi", .binary [1, 2, 3]] ∧
      (echoPipe.downWritten 5).filterMap AlbOutboundFrame.payload = [.text "ok"] ∧
      ((echoPipe.proxy.written 5).filterMap OutboundToLocal.payload <+
          (echoPipe.downRead 5).filterMap WsFrame.payload ∧
        (echoPipe.downWritten 5).filterMap AlbOutboundFrame.payload <+
          (echoPipe.proxy.read 5).filterMap WsFrame.payload) :=
  ⟨rfl, rfl, tunnel_frames_in_order
    (Reachable.init.execAll (show (Pipe.init 1).execAll 1 echo = some echoPipe from rfl)) 5⟩

end Pipe

end AnywhereMesh.Tunnel
