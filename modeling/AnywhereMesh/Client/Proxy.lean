import AnywhereMesh.Common.Frames

/-! The agent's `WebSocketReverseProxy` (`client/proxy/ws.rs`) and the tasks
`handle_init` spawns for each session: a writer that drains the session's
channel into its local socket, a reader that sends upstream what it reads from
the local socket, and a task that joins the two and then removes the session.
The session table holds each session's channel sender; the channel is `toLocal`
under the session id. A local socket is kept as what has been written to it and
what has been read from it. `handle_ingress_message`, which the agent's loop
runs on every text frame from the ingress, hands the tunnel frames to the
proxy. The local endpoint and the URL built from it are left out: they choose
which socket a session opens, not what happens on it. -/

namespace AnywhereMesh.Client

open scoped List

/-- `OutboundToLocal`: a frame queued for a session's local socket. -/
inductive OutboundToLocal
  | text (s : String)
  | binary (b : List UInt8)
  | ping
  | pong
  | close (code : Option UInt16) (reason : Option String)
  deriving DecidableEq, Repr

def OutboundToLocal.payload : OutboundToLocal → Option Payload
  | .text s => some (.text s)
  | .binary b => some (.binary b)
  | _ => none

/-- A `WebSocketReverseProxy`, with its sessions' tasks and local sockets. -/
structure ReverseProxy where
  /-- `sessions`: the sessions whose channel sender the table holds. -/
  sessions : Table Unit
  /-- Each session's channel to its writer. -/
  toLocal : Uuid → List OutboundToLocal
  /-- Whether a session's writer, and its reader, still run. -/
  writing : Uuid → Bool
  reading : Uuid → Bool
  /-- What each session's local socket has been sent, and what has been read from it. -/
  written : Uuid → List OutboundToLocal
  read : Uuid → List WsFrame

namespace ReverseProxy

/-- `WebSocketReverseProxy::new`. -/
def new : ReverseProxy :=
  ⟨∅, fun _ => [], fun _ => false, fun _ => false, fun _ => [], fun _ => []⟩

/-- `handle_init`, given how `connect_async` to the local endpoint ended: on
success the session's sender is stored and its writer and reader start. The ack
goes to `upstream_tx` either way. -/
def handleInit (p : ReverseProxy) (sid : Uuid) (dial : Except String Unit) :
    ReverseProxy × IngressMessage :=
  match dial with
  | .ok () =>
    ({ p with sessions := p.sessions.insert sid (), toLocal := Function.update p.toLocal sid [],
              writing := Function.update p.writing sid true,
              reading := Function.update p.reading sid true },
      .webSocketProxyInitAck sid true none none)
  | .error e => (p, .webSocketProxyInitAck sid false (some e) none)

/-- The frame `handle_data_from_server` queues for a data frame, if any. -/
def toLocalFrame (frameType : String) (payload : Option String) : Option OutboundToLocal :=
  match frameType, payload with
  | "text", some text => some (.text text)
  | "binary", some b64 => (Base64.decode b64).map .binary
  | "ping", _ => some .ping
  | "pong", _ => some .pong
  | _, _ => none

theorem toLocalFrame_payload (frameType : String) (payload : Option String) :
    (toLocalFrame frameType payload).bind OutboundToLocal.payload =
      dataPayload frameType payload := by
  unfold toLocalFrame dataPayload
  split <;> simp [OutboundToLocal.payload]
  cases Base64.decode _ <;> rfl

/-- `handle_data_from_server`. -/
def handleDataFromServer (p : ReverseProxy) (sid : Uuid) (frameType : String)
    (payload : Option String) : ReverseProxy :=
  match p.sessions.lookup sid, toLocalFrame frameType payload with
  | some _, some f => { p with toLocal := Function.update p.toLocal sid (p.toLocal sid ++ [f]) }
  | _, _ => p

/-- `handle_close_from_server`: the sender is removed, after queueing a close. -/
def handleCloseFromServer (p : ReverseProxy) (sid : Uuid) (code : Option UInt16)
    (reason : Option String) : ReverseProxy :=
  if sid ∈ p.sessions then
    { p with sessions := p.sessions.erase sid,
             toLocal := Function.update p.toLocal sid (p.toLocal sid ++ [.close code reason]) }
  else p

/-- The tunnel frames of `handle_ingress_message`: the proxy afterwards and what
it sent on `proxy_tx`. Every other message leaves the proxy alone. -/
def handleIngressMessage (p : ReverseProxy) (dial : Except String Unit) :
    IngressMessage → ReverseProxy × List IngressMessage
  | .webSocketProxyInit sid .. => ((p.handleInit sid dial).1, [(p.handleInit sid dial).2])
  | .webSocketProxyData sid frameType payload => (p.handleDataFromServer sid frameType payload, [])
  | .webSocketProxyClose sid code reason => (p.handleCloseFromServer sid code reason, [])
  | _ => (p, [])

end ReverseProxy

/-- A step of one of a session's tasks. -/
inductive SessionEvent
  /-- The writer sends the next frame of the channel to the local socket. -/
  | writerSend (sid : Uuid)
  /-- The send fails: the frame is lost and the writer ends. -/
  | writerFail (sid : Uuid)
  /-- The channel is closed and empty, its senders dropped: the writer ends. -/
  | writerEnd (sid : Uuid)
  /-- The reader reads a frame from the local socket. -/
  | localRead (sid : Uuid) (f : WsFrame)
  /-- Both have ended; the joining task removes the session. -/
  | release (sid : Uuid)
  deriving DecidableEq, Repr

namespace ReverseProxy

/-- The proxy after a step of a session's tasks, with what the reader sent on
its clone of `upstream_tx`; `none` when the step cannot happen. The reader
sends what the server's `alb_to_agent` sends for the same frame. -/
def sessionStep (p : ReverseProxy) : SessionEvent → Option (ReverseProxy × Option IngressMessage)
  | .writerSend sid =>
    match p.writing sid, p.toLocal sid with
    | true, f :: q =>
      some ({ p with toLocal := Function.update p.toLocal sid q,
                     written := Function.update p.written sid (p.written sid ++ [f]) }, none)
    | _, _ => none
  | .writerFail sid =>
    match p.writing sid, p.toLocal sid with
    | true, _ :: q =>
      some ({ p with toLocal := Function.update p.toLocal sid q,
                     writing := Function.update p.writing sid false }, none)
    | _, _ => none
  | .writerEnd sid =>
    if p.writing sid ∧ sid ∉ p.sessions ∧ p.toLocal sid = [] then
      some ({ p with writing := Function.update p.writing sid false }, none)
    else none
  | .localRead sid f =>
    if p.reading sid then
      some ({ p with reading := Function.update p.reading sid f.continues,
                     read := Function.update p.read sid (p.read sid ++ [f]) }, wsFrameMessage sid f)
    else none
  | .release sid =>
    if !p.writing sid && !p.reading sid then
      some ({ p with sessions := p.sessions.erase sid }, none)
    else none

/-! ### Who removes a session -/

variable {p p' : ReverseProxy} {sid : Uuid}

/-- Only a close from the server for the session itself removes it from the table. -/
theorem mem_sessions_handleIngressMessage (dial : Except String Unit) {m : IngressMessage}
    (h : sid ∈ p.sessions) (hm : ∀ code reason, m ≠ .webSocketProxyClose sid code reason) :
    sid ∈ (p.handleIngressMessage dial m).1.sessions := by
  cases m <;> simp only [handleIngressMessage]
  case webSocketProxyInit s _ _ _ _ =>
    cases dial <;> simp [handleInit, AList.mem_insert, h]
  case webSocketProxyData s t pl =>
    simp only [handleDataFromServer]
    split <;> exact h
  case webSocketProxyClose s code reason =>
    have hs : s ≠ sid := by rintro rfl; exact hm code reason rfl
    simp only [handleCloseFromServer]
    split <;> simp [AList.mem_erase, hs.symm, h]
  all_goals exact h

/-- Only the joining task of the session itself removes it from the table. -/
theorem mem_sessions_sessionStep {e : SessionEvent} {o : Option IngressMessage}
    (h : p.sessionStep e = some (p', o)) (hs : sid ∈ p.sessions) (he : e ≠ .release sid) :
    sid ∈ p'.sessions := by
  cases e <;> simp only [sessionStep] at h <;> (repeat' split at h) <;>
    simp only [Option.some.injEq, Prod.mk.injEq, reduceCtorEq] at h <;> obtain ⟨rfl, -⟩ := h
  case release.isTrue s _ =>
    have hne : s ≠ sid := fun hs' => he (hs' ▸ rfl)
    simp [AList.mem_erase, hne.symm, hs]
  all_goals exact hs

/-! ### What a session's local socket is sent -/

/-- The payloads a session's local socket has been written and has still queued, in order. -/
def localOut (p : ReverseProxy) (sid : Uuid) : List Payload :=
  (p.written sid ++ p.toLocal sid).filterMap OutboundToLocal.payload

/-- Handling a message from the ingress queues for a session at most the payload
the message carries for it, after what the session had queued. -/
theorem localOut_handleIngressMessage (dial : Except String Unit) (m : IngressMessage)
    (sid : Uuid) :
    (p.handleIngressMessage dial m).1.localOut sid <+
      p.localOut sid ++ (m.payloadFor sid).toList := by
  cases m <;> simp only [handleIngressMessage, IngressMessage.payloadFor, Option.toList_none,
    List.append_nil]
  case webSocketProxyInit s _ _ _ _ =>
    cases dial
    · exact List.Sublist.refl _
    · by_cases hs : s = sid
      · subst hs
        simp [handleInit, localOut]
      · simp [handleInit, localOut, Function.update_noteq (Ne.symm hs)]
  case webSocketProxyData s t pl =>
    simp only [handleDataFromServer]
    split
    · next _ _ _ f _ hf =>
      by_cases hs : s = sid
      · subst hs
        cases hp : f.payload <;> simp [localOut, ← toLocalFrame_payload, hf, hp]
      · simp [localOut, Function.update_noteq (Ne.symm hs), hs]
    · exact List.sublist_append_left _ _
  case webSocketProxyClose s code reason =>
    simp only [handleCloseFromServer]
    split
    · by_cases hs : s = sid
      · subst hs
        simp [localOut, OutboundToLocal.payload]
      · simp [localOut, Function.update_noteq (Ne.symm hs)]
    · exact List.Sublist.refl _
  all_goals exact List.Sublist.refl _

/-- What handling a message sends on `proxy_tx` carries no payload. -/
theorem handleIngressMessage_sent (dial : Except String Unit) (m : IngressMessage) (sid : Uuid) :
    (p.handleIngressMessage dial m).2.filterMap (IngressMessage.payloadFor sid) = [] := by
  cases m <;> simp only [handleIngressMessage, List.filterMap_nil]
  case webSocketProxyInit => cases dial <;> rfl

theorem read_handleIngressMessage (dial : Except String Unit) (m : IngressMessage) :
    (p.handleIngressMessage dial m).1.read = p.read := by
  cases m <;> simp only [handleIngressMessage]
  case webSocketProxyInit => cases dial <;> rfl
  case webSocketProxyData => simp only [handleDataFromServer]; split <;> rfl
  case webSocketProxyClose => simp only [handleCloseFromServer]; split <;> rfl

/-- A session task's step only moves frames from a channel to its socket, or drops them. -/
theorem localOut_sessionStep {e : SessionEvent} {o : Option IngressMessage}
    (h : p.sessionStep e = some (p', o)) (sid : Uuid) : p'.localOut sid <+ p.localOut sid := by
  cases e <;> simp only [sessionStep] at h <;> (repeat' split at h) <;>
    simp only [Option.some.injEq, Prod.mk.injEq, reduceCtorEq] at h <;> obtain ⟨rfl, -⟩ := h
  case writerSend.h_1 s _ _ f q _ hq =>
    by_cases hs : s = sid
    · subst hs
      simp [localOut, hq]
    · simp [localOut, Function.update_noteq (Ne.symm hs)]
  case writerFail.h_1 s _ _ f q _ hq =>
    by_cases hs : s = sid
    · subst hs
      simpa [localOut, hq] using
        ((List.sublist_cons_self f q).filterMap OutboundToLocal.payload).append_left
          ((p.written s).filterMap OutboundToLocal.payload)
    · simp [localOut, Function.update_noteq (Ne.symm hs)]
  all_goals exact List.Sublist.refl _

/-- What the reader sends upstream carries, for each session, the payloads it
read from that session's socket. -/
theorem read_sessionStep {e : SessionEvent} {o : Option IngressMessage}
    (h : p.sessionStep e = some (p', o)) (sid : Uuid) :
    (p'.read sid).filterMap WsFrame.payload =
      (p.read sid).filterMap WsFrame.payload ++
        (o.bind (IngressMessage.payloadFor sid)).toList := by
  cases e <;> simp only [sessionStep] at h <;> (repeat' split at h) <;>
    simp only [Option.some.injEq, Prod.mk.injEq, reduceCtorEq] at h <;> obtain ⟨rfl, rfl⟩ := h
  case localRead.isTrue s f _ =>
    by_cases hs : s = sid
    · subst hs
      cases hf : f.payload <;> simp [payloadFor_wsFrameMessage, hf]
    · simp [Function.update_noteq (Ne.symm hs), payloadFor_wsFrameMessage_ne hs]
  all_goals simp

end ReverseProxy

end AnywhereMesh.Client
