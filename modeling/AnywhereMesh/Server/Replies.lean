import AnywhereMesh.Server.Pending

/-! What `route_request` returns, over whole runs of the server. It returns one
of its own four error responses, or the reply that `handle_response` filed in
its request's slot; `handle_response` takes a `ProxyResponse` frame from any
connection and files it under the id the frame carries, as long as an entry
waits under that id. Proved: in every run, a route task that finished returned
one of its errors, or a `ProxyResponse` that carries its request's id and that
some connection sent during the run. Which connection sent it is never
checked: any connection that knows a pending id can answer it.

The step lemmas say what one step does to the channels toward the agents, to
the reply slots, to the route tasks and to the inbound tasks' queues; the
invariant `RepliesFrom` is stated for any property of the replies, so that
`Tunnel/Exchange` can use it with what the agents answer. -/

namespace AnywhereMesh.Server

/-- The responses `route_request` makes itself for request `id`. -/
def routerErrors (id : Uuid) : List ProxyResponse :=
  [createErrorResponse id 404 "Service Not Found",
    createErrorResponse id 503 "No healthy service available",
    createErrorResponse id 504 "Gateway Timeout",
    createErrorResponse id 503 "Service Unavailable"]

/-- `req` is the request of the route task filed under its id. -/
def RequestOf (routes : Uuid → Option RouteTask) (req : ProxyRequest) : Prop :=
  ∃ t, routes req.id = some t ∧ t.request = req

/-! ### Route tasks -/

theorem failureResponse_mem_routerErrors (id : Uuid) (err : IngressError) :
    failureResponse id err ∈ routerErrors id := by
  cases err <;> simp [failureResponse, routerErrors]

/-- A route task returns one of its errors, or what its request's slot holds. -/
theorem routeStep_finished {req : ProxyRequest} {s : Ingress} {ph : RoutePhase}
    {sec : Option Section} {resp : ProxyResponse}
    (h : routeStep req s ph = some (sec, .finished resp)) :
    resp ∈ routerErrors req.id ∨ s.replies req.id = some resp := by
  cases ph <;> simp only [routeStep] at h <;> (repeat' split at h) <;>
    simp only [Option.some.injEq, Prod.mk.injEq, reduceCtorEq, false_and, and_false] at h
  all_goals obtain ⟨-, h⟩ := h
  all_goals first
    | (cases h; exact .inr ‹_›)
    | (cases h; exact .inl (failureResponse_mem_routerErrors _ _))
    | (cases h; simp [routerErrors])
    | (unfold afterMatching at h; split at h <;> cases h; simp [routerErrors])

section

variable {m m' : Mesh} {e : Event}

/-- What a step does to the route tasks: nothing, a new task for a fresh
request, or one task's own step or drop. -/
theorem Step.routes_cases (h : Step m e m') :
    m'.routes = m.routes ∨
      (∃ req, m.routes req.id = none ∧
        m'.routes = Function.update m.routes req.id (some ⟨req, .findMatching⟩)) ∨
      ∃ r t p, m.routes r = some t ∧
        m'.routes = Function.update m.routes r (some { t with phase := p }) ∧
        ((∃ sec, routeStep t.request m.ingress t.phase = some (sec, p)) ∨
          p = .dropped t.phase.holdsEntry) := by
  cases h with
  | request req hr => exact .inr (.inl ⟨req, hr, rfl⟩)
  | route r t sec p ht hs => exact .inr (.inr ⟨r, t, p, ht, rfl, .inl ⟨sec, hs⟩⟩)
  | dropRoute r t ht => exact .inr (.inr ⟨r, t, _, ht, rfl, .inr rfl⟩)
  | _ => exact .inl rfl

/-- A route task keeps its request for ever. -/
theorem Step.routes_request (h : Step m e m') {r : Uuid} {t : RouteTask}
    (ht : m.routes r = some t) : ∃ t', m'.routes r = some t' ∧ t'.request = t.request := by
  rcases h.routes_cases with he | ⟨req, hn, he⟩ | ⟨r', t₀, p, h₀, he, -⟩ <;> rw [he]
  · exact ⟨t, ht, rfl⟩
  · have hr : r ≠ req.id := by rintro rfl; simp [ht] at hn
    exact ⟨t, by rw [Function.update_noteq hr, ht], rfl⟩
  · by_cases hr : r = r'
    · subst hr
      rw [ht, Option.some.injEq] at h₀
      exact ⟨_, Function.update_same _ _ _, h₀ ▸ rfl⟩
    · exact ⟨t, by rw [Function.update_noteq hr, ht], rfl⟩

theorem RequestOf.step {req : ProxyRequest} (hr : RequestOf m.routes req) (h : Step m e m') :
    RequestOf m'.routes req :=
  let ⟨_, ht, hreq⟩ := hr
  let ⟨t', ht', ht'req⟩ := h.routes_request ht
  ⟨t', ht', ht'req.trans hreq⟩

/-- What a step does to the inbound tasks' queues: a section queued after the
step was queued before, or the step is the receive of the frame it handles. -/
theorem Step.mem_inbound (h : Step m e m') {c : Uuid} {t' : ConnTask}
    (ht' : m'.conns c = some t') {sec : Section} (hs : sec ∈ t'.inbound) :
    (∃ t, m.conns c = some t ∧ sec ∈ t.inbound) ∨
      ∃ f authenticate, e = .receive c f authenticate ∧
        sec ∈ sectionsOf (handleWebsocketMessage c authenticate f) := by
  cases h with
  | accept d =>
    by_cases hcd : c = d
    · subst hcd; simp only [Mesh.setConn_conns_self, Option.some.injEq] at ht'; subst ht'
      cases hs
    · exact .inl ⟨t', by simpa [hcd] using ht', hs⟩
  | receive d f a t ht =>
    by_cases hcd : c = d
    · subst hcd; simp only [Mesh.setConn_conns_self, Option.some.injEq] at ht'; subst ht'
      exact .inr ⟨f, a, rfl, hs⟩
    · exact .inl ⟨t', by simpa [hcd] using ht', hs⟩
  | readEnd d t ht | select d t ht | cleanup d t _ _ ht =>
    by_cases hcd : c = d
    · subst hcd; simp only [Mesh.setConn_conns_self, Option.some.injEq] at ht'; subst ht'
      exact .inl ⟨t, ht, hs⟩
    · exact .inl ⟨t', by simpa [hcd] using ht', hs⟩
  | inbound d t sec' rest ht hi =>
    by_cases hcd : c = d
    · subst hcd; simp only [Mesh.setConn_conns_self, Option.some.injEq] at ht'; subst ht'
      exact .inl ⟨t, ht, hi ▸ List.mem_cons_of_mem _ hs⟩
    · exact .inl ⟨t', by simpa [hcd] using ht', hs⟩
  | _ => exact .inl ⟨t', ht', hs⟩

end

/-! ### Sections that carry a request or a reply -/

/-- Whether a section sends a forwarded request or files a reply. -/
def Section.carriesHttp : Section → Bool
  | .sendResponse _ (.proxyRequestForward _) | .sendOn _ (.proxyRequestForward _)
  | .handleResponse _ => true
  | _ => false

/-- The message a section puts on a connection's channel, if any. -/
def Section.sent : Section → Option IngressMessage
  | .sendResponse _ m | .sendOn _ m => some m
  | _ => none

theorem Section.sent_ne_forward {sec : Section} (h : sec.carriesHttp = false)
    (req : ProxyRequest) : sec.sent ≠ some (.proxyRequestForward req) := by
  cases sec
  case sendResponse _ m | sendOn _ m => cases m <;> simp_all [sent, carriesHttp]
  all_goals simp [sent]

theorem Section.replies_apply {sec : Section} (h : sec.carriesHttp = false) (s : Ingress) :
    (sec.apply s).replies = s.replies := by
  cases sec
  case handleResponse => simp [carriesHttp] at h
  all_goals simp only [apply] <;> (repeat' split) <;> rfl

theorem Ingress.mem_outbound_send (s : Ingress) (c d : Uuid) (m : IngressMessage)
    {msg : IngressMessage} (h : msg ∈ ((s.send d m).outbound c).getD []) :
    msg ∈ (s.outbound c).getD [] ∨ c = d ∧ msg = m := by
  by_cases hc : c = d
  · subst hc
    cases hs : s.outbound c <;> simp_all [Ingress.send]
  · exact .inl (by simpa [Ingress.send, Function.update_noteq hc] using h)

/-- A message on a channel after a section was there before, or the section
sent it on that channel. -/
theorem Section.mem_outbound_apply (sec : Section) (s : Ingress) {c : Uuid}
    {msg : IngressMessage} (h : msg ∈ ((sec.apply s).outbound c).getD []) :
    msg ∈ (s.outbound c).getD [] ∨ sec = .sendResponse c msg ∨ sec = .sendOn c msg := by
  cases sec
  case sendResponse d m =>
    simp only [apply] at h
    split at h
    · exact (s.mem_outbound_send c d m h).imp_right fun ⟨hc, hm⟩ => .inl (by rw [hc, hm])
    · exact .inl h
  case sendOn d m =>
    exact (s.mem_outbound_send c d m h).imp_right fun ⟨hc, hm⟩ => .inr (by rw [hc, hm])
  case recvOutbound d =>
    left
    simp only [apply] at h
    split at h
    · next q hq =>
      by_cases hc : c = d
      · subst hc; simp only [Function.update_same, Option.getD_some] at h; simp [hq, h]
      · simpa [Function.update_noteq hc] using h
    · exact h
  case closeOutbound d =>
    left
    by_cases hc : c = d
    · subst hc; simp [apply] at h
    · simpa [apply, Function.update_noteq hc] using h
  all_goals left; revert h; simp only [apply]; (repeat' split) <;> exact id

/-- The handler of a frame files a reply only for a `ProxyResponse` frame. -/
theorem handleResponse_mem_handleWebsocketMessage {c : Uuid}
    {authenticate : IamAuthRequest → IamAuthResponse} {f : Option IngressMessage}
    {resp : ProxyResponse}
    (h : Section.handleResponse resp ∈ sectionsOf (handleWebsocketMessage c authenticate f)) :
    f = some (.proxyResponse resp) := by
  rcases mem_handleWebsocketMessage h with ⟨_, -, h⟩ | ⟨_, -, h | h | h⟩ | h | ⟨_, rfl, h⟩ |
    ⟨_, -, h | h⟩ | ⟨_, _, _, _, -, h⟩ | ⟨_, _, _, -, h⟩ | ⟨_, _, _, -, h⟩ <;> simp_all

theorem tunnelStep_carriesHttp {sid : Uuid} {t : TunnelTask} {s : Ingress} {ph p : TunnelPhase}
    {sec : Section} (h : tunnelStep sid t s ph = some (some sec, p)) : sec.carriesHttp = false := by
  cases ph <;> simp only [tunnelStep] at h <;> (repeat' split at h) <;>
    simp only [Option.some.injEq, Prod.mk.injEq, reduceCtorEq, false_and] at h <;>
    obtain ⟨rfl, -⟩ := h <;> rfl

/-- A route task sends no section that carries a request or a reply, but its
own request from `sending`, after which it waits. -/
theorem routeStep_carriesHttp {req : ProxyRequest} {s : Ingress} {ph p : RoutePhase}
    {sec : Section} (h : routeStep req s ph = some (some sec, p)) :
    sec.carriesHttp = false ∨ ∃ service, ph = .sending service ∧
      p = .waiting (s.clock + requestTimeout) ∧
      sec = .sendOn service.id (.proxyRequestForward req) := by
  cases ph <;> simp only [routeStep] at h <;> (repeat' split at h) <;>
    simp only [Option.some.injEq, Prod.mk.injEq, reduceCtorEq, false_and] at h <;>
    obtain ⟨rfl, rfl⟩ := h
  all_goals first | exact .inl rfl | exact .inr ⟨_, rfl, rfl, rfl⟩

/-! ### What a step does to the shared state -/

section

variable {m m' : Mesh} {e : Event}

/-- The sections only a frame's handler runs: those that act on what an agent sent. -/
def Section.handlesAgentFrame : Section → Bool
  | .handleResponse _ | .handleWsProxyInitAck _ _ | .handleWsProxyDataFromAgent _ _ _
  | .handleWsProxyCloseFromAgent _ _ _ => true
  | _ => false

/-- Where a section that a step from `m` to `m'` runs comes from. -/
inductive SectionSource (m m' : Mesh) : Section → Prop
  /-- The head of an inbound task's queue, a section of its frame's handler. -/
  | handler {c : Uuid} {t : ConnTask} {sec : Section} {rest : List Section}
      {f : Option IngressMessage} {authenticate : IamAuthRequest → IamAuthResponse} :
      m.conns c = some t → t.inbound = sec :: rest →
      sec ∈ sectionsOf (handleWebsocketMessage c authenticate f) → SectionSource m m' sec
  /-- A block of `remove_connection`, run by a connection's cleanup. -/
  | cleanup {c : Uuid} {sec : Section} : sec ∈ removeConnection c → SectionSource m m' sec
  | route {r : Uuid} {t : RouteTask} {sec : Section} {p : RoutePhase} : m.routes r = some t →
      routeStep t.request m.ingress t.phase = some (some sec, p) →
      m'.routes = Function.update m.routes r (some { t with phase := p }) →
      SectionSource m m' sec
  | tunnel {sid : Uuid} {t : TunnelTask} {sec : Section} {p : TunnelPhase} :
      m.tunnels sid = some t → tunnelStep sid t m.ingress t.phase = some (some sec, p) →
      m'.tunnels = Function.update m.tunnels sid (some { t with phase := p }) →
      SectionSource m m' sec
  /-- `alb_to_agent`'s send of a downstream frame. -/
  | downstream {sid : Uuid} {t : TunnelTask} {agent : Uuid} {b : Bool} {f : WsFrame}
      {msg : IngressMessage} : m.tunnels sid = some t → t.phase = .pumping agent true b →
      albToAgentMessage sid f = some msg →
      m'.tunnels = Function.update m.tunnels sid
        (some { t with phase := .pumping agent f.continues b }) →
      SectionSource m m' (.sendOn agent msg)
  | closeOutbound (c : Uuid) : SectionSource m m' (.closeOutbound c)
  | recvOutbound (c : Uuid) : SectionSource m m' (.recvOutbound c)
  | recvAlbOut (sid : Uuid) : SectionSource m m' (.recvAlbOut sid)

/-- A step leaves the shared state alone, moves the clock, accepts a
connection, or runs one section, from one of the places `SectionSource` names. -/
theorem Step.section_cases (h : Step m e m') (hw : m.WellFormed) :
    m'.ingress = m.ingress ∨ m'.ingress = { m.ingress with clock := m.ingress.clock + 1 } ∨
      (∃ c, m'.ingress = (Section.registerConnection c).apply
        { m.ingress with outbound := Function.update m.ingress.outbound c (some []) }) ∨
      ∃ sec : Section, m'.ingress = sec.apply m.ingress ∧ SectionSource m m' sec := by
  cases h with
  | tick => exact .inr (.inl rfl)
  | accept c => exact .inr (.inr (.inl ⟨c, rfl⟩))
  | writeFail c => exact .inr (.inr (.inr ⟨.closeOutbound c, rfl, .closeOutbound c⟩))
  | outbound c => exact .inr (.inr (.inr ⟨.recvOutbound c, rfl, .recvOutbound c⟩))
  | downstreamWriteFail sid => exact .inr (.inr (.inr ⟨.recvAlbOut sid, rfl, .recvAlbOut sid⟩))
  | inbound c t sec rest ht hi =>
    obtain ⟨f, a, hs⟩ := (hw.conns c t ht).inbound_handled
    exact .inr (.inr (.inr ⟨sec, rfl, .handler ht hi (hs.mem (hi ▸ List.mem_cons_self _ _))⟩))
  | cleanup c t sec rest ht hc =>
    exact .inr (.inr (.inr ⟨sec, rfl,
      .cleanup (((hw.conns c t ht).cleanup_suffix _ hc).mem (List.mem_cons_self sec rest))⟩))
  | route r t sec p ht hs =>
    rcases sec with _ | sec
    · exact .inl rfl
    · exact .inr (.inr (.inr ⟨sec, rfl, .route ht hs rfl⟩))
  | tunnel sid t sec p ht hs =>
    rcases sec with _ | sec
    · exact .inl rfl
    · exact .inr (.inr (.inr ⟨sec, rfl, .tunnel ht hs rfl⟩))
  | downstream sid t agent b f ht hp =>
    cases hm : albToAgentMessage sid f with
    | none => exact .inl (by simp [hm])
    | some msg => exact .inr (.inr (.inr ⟨_, by simp [hm], .downstream ht hp hm rfl⟩))
  | _ => exact .inl rfl

/-- A section that acts on an agent's frame is the head of an inbound task's queue. -/
theorem SectionSource.inbound_of_handlesAgentFrame {sec : Section} (h : SectionSource m m' sec)
    (hs : sec.handlesAgentFrame = true) :
    ∃ c t rest, m.conns c = some t ∧ t.inbound = sec :: rest := by
  cases h with
  | handler ht hi _ => exact ⟨_, _, _, ht, hi⟩
  | cleanup hc =>
    simp only [removeConnection, List.mem_cons, List.mem_singleton, List.not_mem_nil,
      or_false] at hc
    rcases hc with rfl | rfl | rfl <;> cases hs
  | route _ hr _ => rcases routeStep_section hr with ⟨_, _, rfl⟩ | rfl | ⟨_, rfl⟩ | rfl <;> cases hs
  | tunnel _ ht _ =>
    rcases tunnelStep_section ht with ⟨_, _, rfl⟩ | ⟨_, rfl⟩ | rfl | rfl | rfl | rfl <;> cases hs
  | downstream | closeOutbound | recvOutbound | recvAlbOut => cases hs

/-- A step leaves the shared state alone, moves the clock, accepts a
connection, or runs one section; a section that sends a forwarded request is a
route task's send of its own request, and one that files a reply is the head
of an inbound task's queue. -/
theorem Step.ingress_cases (h : Step m e m') (hw : m.WellFormed) :
    m'.ingress = m.ingress ∨ m'.ingress = { m.ingress with clock := m.ingress.clock + 1 } ∨
      (∃ c, m'.ingress = (Section.registerConnection c).apply
        { m.ingress with outbound := Function.update m.ingress.outbound c (some []) }) ∨
      ∃ sec : Section, m'.ingress = sec.apply m.ingress ∧
        (sec.carriesHttp = false ∨
          (∃ c t resp rest, m.conns c = some t ∧ t.inbound = .handleResponse resp :: rest ∧
            sec = .handleResponse resp) ∨
          ∃ r t service, m.routes r = some t ∧ t.phase = .sending service ∧
            m'.routes = Function.update m.routes r
              (some { t with phase := .waiting (m.ingress.clock + requestTimeout) }) ∧
            sec = .sendOn service.id (.proxyRequestForward t.request)) := by
  rcases h.section_cases hw with he | he | he | ⟨sec, he, hsrc⟩
  · exact .inl he
  · exact .inr (.inl he)
  · exact .inr (.inr (.inl he))
  refine .inr (.inr (.inr ⟨sec, he, ?_⟩))
  cases hsrc with
  | @handler c t _ rest _ _ ht hi hs =>
    rcases mem_handleWebsocketMessage hs with
      ⟨_, -, rfl⟩ | ⟨_, -, rfl | rfl | rfl⟩ | rfl | ⟨resp, -, rfl⟩ | ⟨_, -, rfl | rfl⟩ |
      ⟨_, _, _, _, -, rfl⟩ | ⟨_, _, _, -, rfl⟩ | ⟨_, _, _, -, rfl⟩
    all_goals first | exact .inl rfl | exact .inr (.inl ⟨c, t, resp, rest, ht, hi, rfl⟩)
  | cleanup hc =>
    simp only [removeConnection, List.mem_cons, List.mem_singleton, List.not_mem_nil,
      or_false] at hc
    exact .inl (by rcases hc with rfl | rfl | rfl <;> rfl)
  | route ht hs hr =>
    rcases routeStep_carriesHttp hs with hf | ⟨service, hph, rfl, rfl⟩
    · exact .inl hf
    · exact .inr (.inr ⟨_, _, service, ht, hph, hr, rfl⟩)
  | tunnel _ hs _ => exact .inl (tunnelStep_carriesHttp hs)
  | @downstream _ _ _ _ f _ _ _ hm _ =>
    refine .inl ?_
    cases f <;> simp only [albToAgentMessage, wsFrameMessage, Option.some.injEq,
      reduceCtorEq] at hm <;> subst hm <;> rfl
  | closeOutbound | recvOutbound | recvAlbOut => exact .inl rfl

/-- A forwarded request on a channel after a step was there before, or the step
is the send of a route task, which had picked the channel's connection. -/
theorem Step.forward_cases (h : Step m e m') (hw : m.WellFormed) {c : Uuid}
    {req : ProxyRequest} (hm : .proxyRequestForward req ∈ (m'.ingress.outbound c).getD []) :
    .proxyRequestForward req ∈ (m.ingress.outbound c).getD [] ∨
      ∃ r t service, m.routes r = some t ∧ t.phase = .sending service ∧ t.request = req ∧
        service.id = c := by
  rcases h.ingress_cases hw with he | he | ⟨d, he⟩ | ⟨sec, he, hsec⟩ <;> rw [he] at hm
  · exact .inl hm
  · exact .inl hm
  · left
    by_cases hc : c = d
    · subst hc; simp [Section.apply] at hm
    · simpa [Section.apply, Function.update_noteq hc] using hm
  rcases hsec with hf | ⟨_, _, _, _, -, -, rfl⟩ | ⟨r, t, service, ht, hph, -, rfl⟩
  · rcases sec.mem_outbound_apply _ hm with hm | rfl | rfl
    · exact .inl hm
    all_goals simp [Section.carriesHttp] at hf
  · exact .inl ((Section.mem_outbound_apply _ _ hm).resolve_right (by simp))
  · rcases Section.mem_outbound_apply _ _ hm with hm | hs | hs
    · exact .inl hm
    · cases hs
    · simp only [Section.sendOn.injEq, IngressMessage.proxyRequestForward.injEq] at hs
      exact .inr ⟨r, t, service, ht, hph, hs.2, hs.1⟩

/-- A forwarded request on a channel after a step was there before, or the step
is its route task's send. -/
theorem Step.mem_outbound_forward (h : Step m e m') (hw : m.WellFormed) {c : Uuid}
    {req : ProxyRequest} (hm : .proxyRequestForward req ∈ (m'.ingress.outbound c).getD []) :
    .proxyRequestForward req ∈ (m.ingress.outbound c).getD [] ∨ RequestOf m'.routes req :=
  (h.forward_cases hw hm).imp_right fun ⟨r, t, _, ht, _, hreq, _⟩ =>
    let ⟨t', ht', hreq'⟩ := h.routes_request ht
    ⟨t', by rwa [← hreq, hw.routes r t ht], hreq'.trans hreq⟩

/-- A reply in a slot after a step was there before, or the step filed it from
the head of an inbound task's queue, under the id it carries. -/
theorem Step.replies_cases (h : Step m e m') (hw : m.WellFormed) {r : Uuid}
    {resp : ProxyResponse} (hr : m'.ingress.replies r = some resp) :
    m.ingress.replies r = some resp ∨
      resp.id = r ∧ ∃ c t, m.conns c = some t ∧ .handleResponse resp ∈ t.inbound := by
  rcases h.ingress_cases hw with he | he | ⟨d, he⟩ | ⟨sec, he, hsec⟩ <;> rw [he] at hr
  · exact .inl hr
  · exact .inl hr
  · exact .inl hr
  rcases hsec with hf | ⟨c, t, resp', rest, ht, hi, rfl⟩ | ⟨_, _, _, -, -, -, rfl⟩
  · exact .inl (Section.replies_apply hf _ ▸ hr)
  · simp only [Section.apply] at hr
    split at hr
    · by_cases hrr : r = resp'.id
      · subst hrr
        simp only [Function.update_same, Option.some.injEq] at hr
        subst hr
        exact .inr ⟨rfl, c, t, ht, hi ▸ List.mem_cons_self _ _⟩
      · exact .inl (by simpa [Function.update_noteq hrr] using hr)
    · exact .inl hr
  · exact .inl hr

end

/-! ### Replies over runs -/

/-- Every reply queued for filing, filed, or returned satisfies `Q`. -/
structure RepliesFrom (Q : ProxyResponse → Prop) (m : Mesh) : Prop where
  queued : ∀ c t resp, m.conns c = some t → .handleResponse resp ∈ t.inbound → Q resp
  filed : ∀ r resp, m.ingress.replies r = some resp → resp.id = r ∧ Q resp
  returned : ∀ r t resp, m.routes r = some t → t.phase = .finished resp →
    resp ∈ routerErrors t.request.id ∨ resp.id = t.request.id ∧ Q resp

theorem RepliesFrom.mono {Q Q' : ProxyResponse → Prop} {m : Mesh} (h : RepliesFrom Q m)
    (hQ : ∀ resp, Q resp → Q' resp) : RepliesFrom Q' m :=
  ⟨fun c t resp ht hs => hQ _ (h.queued c t resp ht hs),
    fun r resp hr => (h.filed r resp hr).imp_right (hQ _),
    fun r t resp ht hf => (h.returned r t resp ht hf).imp_right (And.imp_right (hQ _))⟩

/-- A step keeps `RepliesFrom`, for a property that holds of whatever the
step's own frame carries. -/
theorem Step.repliesFrom {m m' : Mesh} {e : Event} {Q Q' : ProxyResponse → Prop}
    (h : Step m e m') (hw : m.WellFormed) (hq : RepliesFrom Q m) (hQ : ∀ resp, Q resp → Q' resp)
    (hrecv : ∀ c f authenticate resp, e = .receive c f authenticate →
      f = some (.proxyResponse resp) → Q' resp) : RepliesFrom Q' m' where
  queued c t' resp ht' hs := by
    rcases h.mem_inbound ht' hs with ⟨t, ht, hs⟩ | ⟨f, a, he, hs⟩
    · exact hQ _ (hq.queued c t resp ht hs)
    · exact hrecv c f a resp he (handleResponse_mem_handleWebsocketMessage hs)
  filed r resp hr := by
    rcases h.replies_cases hw hr with hr | ⟨hid, c, t, ht, hs⟩
    · exact (hq.filed r resp hr).imp_right (hQ _)
    · exact ⟨hid, hQ _ (hq.queued c t resp ht hs)⟩
  returned r t' resp ht' hf := by
    have old : m.routes r = some t' → _ := fun ht =>
      (hq.returned r t' resp ht hf).imp_right (And.imp_right (hQ _))
    rcases h.routes_cases with he | ⟨req, -, he⟩ | ⟨r', t, p, -, he, hp⟩ <;> rw [he] at ht'
    · exact old ht'
    · by_cases hr : r = req.id
      · subst hr; simp only [Function.update_same, Option.some.injEq] at ht'; subst ht'; cases hf
      · exact old (by rwa [Function.update_noteq hr] at ht')
    · by_cases hr : r = r'
      · subst hr
        simp only [Function.update_same, Option.some.injEq] at ht'
        subst ht'
        simp only at hf
        subst hf
        rcases hp with ⟨sec, hs⟩ | hp
        · exact (routeStep_finished hs).imp_right fun hr => (hq.filed _ _ hr).imp_right (hQ _)
        · cases hp
      · exact old (by rwa [Function.update_noteq hr] at ht')

/-- `resp` came in a `ProxyResponse` frame that some connection sent during `es`. -/
def ResponseReceived (es : List Event) (resp : ProxyResponse) : Prop :=
  ∃ c authenticate, Event.receive c (some (.proxyResponse resp)) authenticate ∈ es

theorem Run.repliesFrom {m m' : Mesh} {es es' : List Event} (h : Run m es' m')
    (hw : m.WellFormed) (hr : RepliesFrom (ResponseReceived es) m) :
    m'.WellFormed ∧ RepliesFrom (ResponseReceived (es ++ es')) m' := by
  induction h generalizing es with
  | nil => simpa using And.intro hw hr
  | @cons m₁ m₂ m₃ e es₁ hs _ ih =>
    have hr' : RepliesFrom (ResponseReceived (es ++ [e])) m₂ :=
      hs.repliesFrom hw hr (fun _ ⟨c, a, hm⟩ => ⟨c, a, List.mem_append_left _ hm⟩)
        fun c f a _ he hf => ⟨c, a, by subst he hf; simp⟩
    simpa using ih (hs.wellFormed hw) hr'

/-- In every run of the server, a request whose `route_request` finished
returned one of the router's own errors for it, or a `ProxyResponse` carrying
the request's id that some connection sent during the run. -/
theorem route_response_received {es : List Event} {m : Mesh} (h : Run Mesh.init es m)
    {r : Uuid} {t : RouteTask} {resp : ProxyResponse} (ht : m.routes r = some t)
    (hf : t.phase = .finished resp) :
    resp ∈ routerErrors t.request.id ∨ resp.id = t.request.id ∧
      ∃ c authenticate, Event.receive c (some (.proxyResponse resp)) authenticate ∈ es := by
  have hinit : RepliesFrom (ResponseReceived []) Mesh.init :=
    ⟨fun _ _ _ h => (nomatch h), fun _ _ h => (nomatch h), fun _ _ _ h => (nomatch h)⟩
  simpa using (h.repliesFrom Mesh.wellFormed_init hinit).2.returned r t resp ht hf

/-- A connection that never registered answers request 9, which `route_request`
forwarded to connection 1. -/
def foreignAnswer : ProxyResponse := ⟨9, 200, [], none⟩

def answeredByAnother : List Event :=
  forwardRequest ++ [.accept 2, .receive 2 (some (.proxyResponse foreignAnswer)) denyAll,
    .inbound 2, .route 9]

def answeredByAnotherMesh : Mesh := (Mesh.init.execAll answeredByAnother).getD Mesh.init

theorem route_response_received_foreign :
    answeredByAnotherMesh.ingress.registrations.lookup 2 = none ∧
      (foreignAnswer ∈ routerErrors apiRequest.id ∨ foreignAnswer.id = apiRequest.id ∧
        ∃ c authenticate,
          Event.receive c (some (.proxyResponse foreignAnswer)) authenticate ∈ answeredByAnother) :=
  ⟨by decide, route_response_received
    (Run.of_execAll (show Mesh.init.execAll answeredByAnother = some answeredByAnotherMesh from rfl))
    (show answeredByAnotherMesh.routes 9 = some ⟨apiRequest, .finished foreignAnswer⟩ by decide)
    rfl⟩

end AnywhereMesh.Server
