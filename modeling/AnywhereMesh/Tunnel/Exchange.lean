import AnywhereMesh.Server.Replies
import AnywhereMesh.Tunnel.HttpRoundTrip

/-! The HTTP path end to end: the server with every agent connected to it. An
agent runs `handle_ingress_message` on each message it reads from its socket,
and answers a `ProxyRequestForward` with the response of
`ProxyHandler::handle_request`, which asks its own local service; everything
else an agent writes (its handshake, registration and heartbeats, its reverse
proxy's tunnel frames) is any message other than a `ProxyResponse`. An agent may
also read a message and drop it, as its loop does during the handshake. Each
socket is a FIFO in each direction, and the server's steps are those of `Mesh`,
interleaved freely with the agents'.

Proved: in every reachable state, a request whose `route_request` finished
returned one of the router's own errors for it, or the answer that an agent
which received that very request computed from it. Concurrent requests,
heartbeats and tunnel traffic never hand a request another request's answer.
And what `process_alb_request` then builds for the downstream client is what it
builds when it calls that agent's handler directly, which `alb_round_trip`
describes. -/

namespace AnywhereMesh

open Server Client

namespace Client

/-- The message `handle_ingress_message` writes back itself for one it read:
`ProxyResponse(response)` for a `ProxyRequestForward`. -/
def ProxyHandler.responseMessage (p : ProxyHandler) : IngressMessage → Option IngressMessage
  | .proxyRequestForward proxyRequest => some (.proxyResponse (p.handleRequest proxyRequest))
  | _ => none

theorem except_bind_eq_ok {ε α β : Type} {x : Except ε α} {f : α → Except ε β} {b : β}
    (h : x >>= f = .ok b) : ∃ a, x = .ok a ∧ f a = .ok b := by
  cases x with
  | error e => cases h
  | ok a => exact ⟨a, rfl, h⟩

theorem ProxyHandler.forwardRequest_id {p : ProxyHandler} {req : ProxyRequest}
    {resp : ProxyResponse} (h : p.forwardRequest req = .ok resp) : resp.id = req.id := by
  obtain ⟨_, -, h⟩ := except_bind_eq_ok h
  obtain ⟨_, -, h⟩ := except_bind_eq_ok h
  obtain ⟨_, -, h⟩ := except_bind_eq_ok h
  cases h
  rfl

/-- The agent answers under the request's id, whether its local service answered or not. -/
theorem ProxyHandler.handleRequest_id (p : ProxyHandler) (req : ProxyRequest) :
    (p.handleRequest req).id = req.id := by
  unfold ProxyHandler.handleRequest
  split
  · exact ProxyHandler.forwardRequest_id ‹_›
  · rfl

end Client

/-- Whether a message is a `ProxyResponse`. -/
def IngressMessage.isProxyResponse : IngressMessage → Bool
  | .proxyResponse _ => true
  | _ => false

/-- Whether a step of the server reads or writes an agent's socket. -/
def Server.Event.socketIO : Server.Event → Bool
  | .outbound _ | .receive .. => true
  | _ => false

/-- The server and the sockets of its agents. -/
structure Exchange where
  mesh : Mesh
  /-- What the server's outbound task has written to each connection and its agent not read. -/
  toAgent : Uuid → List IngressMessage
  /-- What each agent has written and the server's inbound task not read. -/
  toServer : Uuid → List IngressMessage
  /-- What each agent's loop has read, in order. -/
  received : Uuid → List IngressMessage

/-- What moves the exchange. -/
inductive ExchangeEvent
  /-- A step of the server that touches no agent's socket. -/
  | server (e : Server.Event)
  /-- The outbound task of connection `c` writes the next message of its channel. -/
  | outbound (c : Uuid)
  /-- Agent `c` reads the next message; it runs `handle_ingress_message` on it
  when `handled`, and drops it otherwise. -/
  | agentRead (c : Uuid) (handled : Bool)
  /-- Agent `c` writes a message of its own. -/
  | agentSend (c : Uuid) (msg : IngressMessage)
  /-- The inbound task of connection `c` reads the next message. -/
  | serverRead (c : Uuid) (authenticate : IamAuthRequest → IamAuthResponse)

namespace Exchange

def init : Exchange := ⟨Mesh.init, fun _ => [], fun _ => [], fun _ => []⟩

variable (handler : Uuid → ProxyHandler)

/-- The exchange after an event, agent `c` answering with `handler c`; `none`
when the event cannot happen. -/
def exec (x : Exchange) : ExchangeEvent → Option Exchange
  | .server e => if e.socketIO then none else (x.mesh.exec e).map fun m => { x with mesh := m }
  | .outbound c =>
    match x.mesh.ingress.outbound c with
    | some (msg :: _) =>
      some { x with mesh := x.mesh.run (.recvOutbound c),
                    toAgent := Function.update x.toAgent c (x.toAgent c ++ [msg]) }
    | _ => none
  | .agentRead c handled =>
    match x.toAgent c with
    | msg :: q =>
      some { x with toAgent := Function.update x.toAgent c q,
                    received := Function.update x.received c (x.received c ++ [msg]),
                    toServer := Function.update x.toServer c (x.toServer c ++
                      (if handled then (handler c).responseMessage msg else none).toList) }
    | [] => none
  | .agentSend c msg =>
    if msg.isProxyResponse then none
    else some { x with toServer := Function.update x.toServer c (x.toServer c ++ [msg]) }
  | .serverRead c authenticate =>
    match x.toServer c with
    | msg :: q =>
      (x.mesh.exec (.receive c (some msg) authenticate)).map fun m =>
        { x with mesh := m, toServer := Function.update x.toServer c q }
    | [] => none

def execAll : Exchange → List ExchangeEvent → Option Exchange
  | x, [] => some x
  | x, ev :: evs => (x.exec handler ev).bind fun x' => execAll x' evs

inductive Reachable : Exchange → Prop
  | init : Reachable init
  | step {x x' : Exchange} {ev : ExchangeEvent} : Reachable x → x.exec handler ev = some x' →
      Reachable x'

variable {handler}

theorem Reachable.execAll {x x' : Exchange} (h : Reachable handler x) :
    ∀ {evs : List ExchangeEvent}, x.execAll handler evs = some x' → Reachable handler x'
  | [], he => Option.some.inj he ▸ h
  | ev :: evs, he => by
    obtain ⟨y, hy, he⟩ := Option.bind_eq_some.mp he
    exact (h.step hy).execAll he

/-! ### What each event does -/

section

variable {x x' : Exchange}

theorem exec_server_inv {e : Server.Event} (h : x.exec handler (.server e) = some x') :
    e.socketIO = false ∧ ∃ m, Server.Step x.mesh e m ∧ x' = { x with mesh := m } := by
  simp only [exec] at h
  split at h
  · cases h
  next he =>
  obtain ⟨m, hm, rfl⟩ := Option.map_eq_some'.mp h
  exact ⟨Bool.eq_false_iff.mpr he, m, Step.of_exec hm, rfl⟩

theorem exec_outbound_inv {c : Uuid} (h : x.exec handler (.outbound c) = some x') :
    ∃ msg q, x.mesh.ingress.outbound c = some (msg :: q) ∧
      x' = { x with mesh := x.mesh.run (.recvOutbound c),
                    toAgent := Function.update x.toAgent c (x.toAgent c ++ [msg]) } := by
  simp only [exec] at h
  split at h <;> cases h
  next msg q hq => exact ⟨msg, q, hq, rfl⟩

theorem exec_agentRead_inv {c : Uuid} {handled : Bool}
    (h : x.exec handler (.agentRead c handled) = some x') :
    ∃ msg q, x.toAgent c = msg :: q ∧
      x' = { x with toAgent := Function.update x.toAgent c q,
                    received := Function.update x.received c (x.received c ++ [msg]),
                    toServer := Function.update x.toServer c (x.toServer c ++
                      (if handled then (handler c).responseMessage msg else none).toList) } := by
  simp only [exec] at h
  split at h <;> cases h
  next msg q hq => exact ⟨msg, q, hq, rfl⟩

theorem exec_agentSend_inv {c : Uuid} {msg : IngressMessage}
    (h : x.exec handler (.agentSend c msg) = some x') :
    msg.isProxyResponse = false ∧
      x' = { x with toServer := Function.update x.toServer c (x.toServer c ++ [msg]) } := by
  simp only [exec] at h
  split at h <;> cases h
  next hm => exact ⟨Bool.eq_false_iff.mpr hm, rfl⟩

/-- The inbound task reads the next message of its socket by a `receive` step,
which leaves the shared state and the route tasks alone. -/
theorem exec_serverRead_inv {c : Uuid} {a : IamAuthRequest → IamAuthResponse}
    (h : x.exec handler (.serverRead c a) = some x') :
    ∃ msg q m, x.toServer c = msg :: q ∧ Server.Step x.mesh (.receive c (some msg) a) m ∧
      m.ingress = x.mesh.ingress ∧ m.routes = x.mesh.routes ∧
      x' = { x with mesh := m, toServer := Function.update x.toServer c q } := by
  simp only [exec] at h
  split at h
  case h_2 => cases h
  next msg q hq =>
  obtain ⟨m, hm, rfl⟩ := Option.map_eq_some'.mp h
  have hs := Step.of_exec hm
  have hshared : m.ingress = x.mesh.ingress ∧ m.routes = x.mesh.routes := by
    cases hs; exact ⟨rfl, rfl⟩
  exact ⟨msg, q, m, hq, hs, hshared.1, hshared.2, rfl⟩

/-- An event moves the server by one of its steps, or leaves it alone. -/
theorem exec_mesh {ev : ExchangeEvent} (h : x.exec handler ev = some x') :
    x'.mesh = x.mesh ∨ ∃ e, Server.Step x.mesh e x'.mesh := by
  cases ev with
  | server e =>
    obtain ⟨-, m, hs, rfl⟩ := exec_server_inv h
    exact .inr ⟨e, hs⟩
  | outbound c =>
    obtain ⟨msg, q, hq, rfl⟩ := exec_outbound_inv h
    exact .inr ⟨_, .outbound _ c msg q hq⟩
  | agentRead c handled =>
    obtain ⟨_, _, -, rfl⟩ := exec_agentRead_inv h
    exact .inl rfl
  | agentSend c msg =>
    obtain ⟨-, rfl⟩ := exec_agentSend_inv h
    exact .inl rfl
  | serverRead c a =>
    obtain ⟨_, _, m, -, hs, -, -, rfl⟩ := exec_serverRead_inv h
    exact .inr ⟨_, hs⟩

end

theorem Reachable.mesh {x : Exchange} (h : Reachable handler x) : Server.Reachable x.mesh := by
  induction h with
  | init => exact ⟨[], .nil _⟩
  | step _ hs ih =>
    rcases exec_mesh hs with he | ⟨e, he⟩
    · exact he ▸ ih
    · exact ih.step he

/-! ### Answers -/

variable (handler)

/-- Agent `c` received `req` and answered it with `resp`. -/
def AnsweredBy (x : Exchange) (req : ProxyRequest) (resp : ProxyResponse) : Prop :=
  ∃ c, .proxyRequestForward req ∈ x.received c ∧ resp = (handler c).handleRequest req

/-- `resp` is an agent's answer to the request of a route task. -/
def Answers (x : Exchange) (resp : ProxyResponse) : Prop :=
  ∃ req, RequestOf x.mesh.routes req ∧ AnsweredBy handler x req resp

/-- Where the forwarded requests and the answers are: every forwarded request
on its way to an agent is a route task's own, and every answer on its way back,
queued, filed or returned is an agent's answer to a route task's request. -/
structure Correlated (x : Exchange) : Prop where
  forwards : ∀ c req, .proxyRequestForward req ∈ (x.mesh.ingress.outbound c).getD [] ++ x.toAgent c →
    RequestOf x.mesh.routes req
  answers : ∀ c resp, .proxyResponse resp ∈ x.toServer c → Answers handler x resp
  replies : RepliesFrom (Answers handler x) x.mesh

variable {handler}

/-- The route tasks keep their requests, and the agents what they have read. -/
def Grows (x x' : Exchange) : Prop :=
  (∀ req, RequestOf x.mesh.routes req → RequestOf x'.mesh.routes req) ∧
    ∀ c, x.received c <+: x'.received c

theorem Answers.grow {x x' : Exchange} {resp : ProxyResponse} (h : Answers handler x resp)
    (hg : Grows x x') : Answers handler x' resp :=
  let ⟨req, hreq, c, hc, hresp⟩ := h
  ⟨req, hg.1 req hreq, c, (hg.2 c).subset hc, hresp⟩

theorem Grows.of_mesh {x x' : Exchange} (hm : x'.mesh = x.mesh) (hr : ∀ c, x.received c <+: x'.received c) :
    Grows x x' :=
  ⟨fun _ h => hm ▸ h, hr⟩

theorem Grows.of_step {x x' : Exchange} {e : Server.Event} (hs : Server.Step x.mesh e x'.mesh)
    (hr : x'.received = x.received) : Grows x x' :=
  ⟨fun _ h => h.step hs, fun _ => hr ▸ List.prefix_refl _⟩

/-! ### Every event keeps the correlation -/

section

variable {x x' : Exchange}

theorem Correlated.exec_server {e : Server.Event} (hc : Correlated handler x)
    (hw : x.mesh.WellFormed) (h : x.exec handler (.server e) = some x') : Correlated handler x' := by
  obtain ⟨he, m, hs, rfl⟩ := exec_server_inv h
  have hg : Grows x { x with mesh := m } := Grows.of_step hs rfl
  refine ⟨fun c req hm => ?_, fun c resp hr => (hc.answers c resp hr).grow hg,
    hs.repliesFrom hw hc.replies (fun _ h => h.grow hg) fun _ _ _ _ hrecv _ => ?_⟩
  · rcases List.mem_append.mp hm with hm | hm
    · rcases hs.mem_outbound_forward hw hm with hm | hr
      · exact hg.1 _ (hc.forwards c req (List.mem_append_left _ hm))
      · exact hr
    · exact hg.1 _ (hc.forwards c req (List.mem_append_right _ hm))
  · subst hrecv
    exact nomatch he

theorem Correlated.exec_outbound {c : Uuid} (hc : Correlated handler x) (hw : x.mesh.WellFormed)
    (h : x.exec handler (.outbound c) = some x') : Correlated handler x' := by
  obtain ⟨msg, q, hq, rfl⟩ := exec_outbound_inv h
  have hs : Server.Step x.mesh (.outbound c) (x.mesh.run (.recvOutbound c)) :=
    .outbound _ c msg q hq
  refine ⟨fun d req hm => hc.forwards d req ?_, fun d resp hr => (hc.answers d resp hr).grow
    (Grows.of_step hs rfl), hs.repliesFrom hw hc.replies (fun _ h => h.grow (Grows.of_step hs rfl))
    fun _ _ _ _ he => nomatch he⟩
  by_cases hd : d = c
  · subst hd
    simp only [Mesh.run_ingress, Section.apply, hq, Function.update_same, Option.getD_some,
      List.mem_append, List.mem_singleton] at hm
    simp only [hq, Option.getD_some, List.mem_append, List.mem_cons]
    tauto
  · simpa [Section.apply, hq, Function.update_noteq hd] using hm

theorem Correlated.exec_agentRead {c : Uuid} {handled : Bool} (hc : Correlated handler x)
    (h : x.exec handler (.agentRead c handled) = some x') : Correlated handler x' := by
  obtain ⟨msg, q, hq, rfl⟩ := exec_agentRead_inv h
  have hrec : ∀ d, x.received d <+: Function.update x.received c (x.received c ++ [msg]) d :=
    fun d => by
      by_cases hd : d = c
      · subst hd; simp
      · simp [Function.update_noteq hd]
  refine ⟨fun d req hm => hc.forwards d req ?_, fun d resp hr => ?_,
    hc.replies.mono fun _ h => h.grow (Grows.of_mesh rfl hrec)⟩
  · by_cases hd : d = c
    · subst hd
      simp only [Function.update_same, List.mem_append] at hm
      simp only [hq, List.mem_append, List.mem_cons]
      tauto
    · simpa [Function.update_noteq hd] using hm
  · by_cases hd : d = c
    · subst hd
      simp only [Function.update_same, List.mem_append] at hr
      rcases hr with hr | hr
      · exact (hc.answers d resp hr).grow (Grows.of_mesh rfl hrec)
      cases handled <;> simp only [Bool.false_eq_true, if_false, if_true, Option.toList_none,
        List.not_mem_nil] at hr
      cases msg <;> simp only [ProxyHandler.responseMessage, Option.toList_some,
        Option.toList_none, List.mem_singleton, List.not_mem_nil,
        IngressMessage.proxyResponse.injEq] at hr
      next req => exact ⟨req, hc.forwards d req (by simp [hq]), d, by simp, hr⟩
    · exact (hc.answers d resp (by simpa [Function.update_noteq hd] using hr)).grow
        (Grows.of_mesh rfl hrec)

theorem Correlated.exec_agentSend {c : Uuid} {msg : IngressMessage} (hc : Correlated handler x)
    (h : x.exec handler (.agentSend c msg) = some x') : Correlated handler x' := by
  obtain ⟨hm, rfl⟩ := exec_agentSend_inv h
  refine ⟨hc.forwards, fun d resp hr => ?_, hc.replies⟩
  by_cases hd : d = c
  · subst hd
    simp only [Function.update_same, List.mem_append, List.mem_singleton] at hr
    rcases hr with hr | rfl
    · exact hc.answers d resp hr
    · exact nomatch hm
  · exact hc.answers d resp (by simpa [Function.update_noteq hd] using hr)

theorem Correlated.exec_serverRead {c : Uuid} {a : IamAuthRequest → IamAuthResponse}
    (hc : Correlated handler x) (hw : x.mesh.WellFormed)
    (h : x.exec handler (.serverRead c a) = some x') : Correlated handler x' := by
  obtain ⟨msg, q, m, hq, hs, hing, hroutes, rfl⟩ := exec_serverRead_inv h
  have hg : Grows x { x with mesh := m, toServer := Function.update x.toServer c q } :=
    Grows.of_step hs rfl
  refine ⟨fun d req hmem => ?_, fun d resp hr => ?_, hs.repliesFrom hw hc.replies
    (fun _ h => h.grow hg) fun d f a' resp he hf => ?_⟩
  · have := hc.forwards d req (by simpa only [hing] using hmem)
    simpa only [RequestOf, hroutes] using this
  · by_cases hd : d = c
    · subst hd
      exact (hc.answers d resp (by simp [hq] at hr ⊢; exact .inr hr)).grow hg
    · exact (hc.answers d resp (by simpa [Function.update_noteq hd] using hr)).grow hg
  · simp only [Server.Event.receive.injEq] at he
    obtain ⟨rfl, rfl, -⟩ := he
    cases hf
    exact (hc.answers c resp (by simp [hq])).grow hg

theorem Correlated.exec {ev : ExchangeEvent} (hc : Correlated handler x) (hw : x.mesh.WellFormed)
    (h : x.exec handler ev = some x') : Correlated handler x' := by
  cases ev with
  | server e => exact hc.exec_server hw h
  | outbound c => exact hc.exec_outbound hw h
  | agentRead c handled => exact hc.exec_agentRead h
  | agentSend c msg => exact hc.exec_agentSend h
  | serverRead c a => exact hc.exec_serverRead hw h

end

theorem Reachable.correlated {x : Exchange} (h : Reachable handler x) :
    x.mesh.WellFormed ∧ Correlated handler x := by
  induction h with
  | init =>
    exact ⟨Mesh.wellFormed_init, fun _ _ h => by simp [Exchange.init, Mesh.init, Ingress.init] at h,
      fun _ _ h => (nomatch h),
      ⟨fun _ _ _ h => (nomatch h), fun _ _ h => (nomatch h), fun _ _ _ h => (nomatch h)⟩⟩
  | step hr hs ih => exact ⟨(Reachable.step hr hs).mesh.wellFormed, ih.2.exec ih.1 hs⟩

/-- In every reachable state, under every interleaving of the server's tasks and
the agents, a request whose `route_request` finished returned one of the
router's own errors for it, or the answer that an agent which received that
very request computed from it. -/
theorem route_returns_own_answer {x : Exchange} (h : Reachable handler x) {r : Uuid}
    {t : RouteTask} {resp : ProxyResponse} (ht : x.mesh.routes r = some t)
    (hf : t.phase = .finished resp) :
    resp ∈ routerErrors t.request.id ∨ ∃ c, .proxyRequestForward t.request ∈ x.received c ∧
      resp = (handler c).handleRequest t.request := by
  obtain ⟨hw, hc⟩ := h.correlated
  refine (hc.replies.returned r t resp ht hf).imp_right
    fun ⟨hid, req, ⟨t', ht', hreq⟩, c, hrecv, hresp⟩ => ?_
  have hreqId : req.id = r := by
    rw [← hw.routes r t ht, ← hid, hresp, ProxyHandler.handleRequest_id]
  rw [hreqId, ht, Option.some.injEq] at ht'
  subst ht' hreq
  exact ⟨c, hrecv, hresp⟩

/-- Connection 1 registers `api.example.com` and its agent answers with
`cookieEcho`; the request that `process_alb_request` builds for `obsTextRequest`
is routed to it, forwarded, answered and returned. -/
def albExchange : List ExchangeEvent :=
  [.server (.accept 1), .agentSend 1 (.serviceRegistration apiRegistration),
    .serverRead 1 denyAll] ++ List.replicate 3 (.server (.inbound 1)) ++
  .server (.request (albProxyRequest 9 obsTextRequest)) :: List.replicate 6 (.server (.route 9)) ++
  [.outbound 1, .outbound 1, .agentRead 1 true, .agentRead 1 true, .serverRead 1 denyAll,
    .server (.inbound 1), .server (.route 9)]

def albExchanged : Exchange :=
  ((init.execAll fun _ => cookieEcho) albExchange).getD init

theorem route_returns_own_answer_alb :
    cookieEcho.handleRequest (albProxyRequest 9 obsTextRequest) ∉ routerErrors 9 ∧
      (cookieEcho.handleRequest (albProxyRequest 9 obsTextRequest) ∈ routerErrors 9 ∨
        ∃ c, .proxyRequestForward (albProxyRequest 9 obsTextRequest) ∈ albExchanged.received c ∧
          cookieEcho.handleRequest (albProxyRequest 9 obsTextRequest) =
            cookieEcho.handleRequest (albProxyRequest 9 obsTextRequest)) :=
  ⟨by decide, route_returns_own_answer
    ((Reachable.init).execAll
      (show (init.execAll fun _ => cookieEcho) albExchange = some albExchanged from rfl))
    (show albExchanged.mesh.routes 9 = some ⟨albProxyRequest 9 obsTextRequest,
      .finished (cookieEcho.handleRequest (albProxyRequest 9 obsTextRequest))⟩ by decide)
    rfl⟩

end Exchange

end AnywhereMesh
