import AnywhereMesh.Server.Tunnel

/-! The whole server as a transition system. Its state is the shared `Ingress`
state and the tasks in flight: for each control connection the inbound task,
the outbound task and the cleanup of `handle_websocket_stream`; for each
downstream request a `route_request`; for each downstream upgrade a
`start_ws_tunnel_from_alb` and the task it spawned. A step is one task taking
one step, or one input from outside: the clock, an agent (a frame, the end of
its socket), or a downstream client (a request, an upgrade, a frame, a
disconnect that drops a future). Steps of different tasks interleave freely,
which is what the runtime's work-stealing scheduler allows.

Two things of the source are worth stating. `tokio::select!` over the two join
handles of a connection returns when either task finishes, and dropping a
`JoinHandle` does not abort its task, so an inbound task may go on handling
frames while, and after, the cleanup removes the connection. And every step
here is deterministic once its event is fixed, so `Mesh.exec` computes it;
concrete runs are evaluated with it. -/

namespace AnywhereMesh.Server

/-- The tasks of one control connection (`handle_websocket_stream`). -/
structure ConnTask where
  /-- The inbound task still reads frames. -/
  reading : Bool
  /-- The sections left of the frame the inbound task is handling. -/
  inbound : List Section
  /-- The sections left of `remove_connection`, once `select!` has returned. -/
  cleanup : Option (List Section)
  deriving DecidableEq

structure Mesh where
  ingress : Ingress
  conns : Uuid → Option ConnTask
  routes : Uuid → Option RouteTask
  tunnels : Uuid → Option TunnelTask

namespace Mesh

/-- The server just started, at time 0. -/
def init : Mesh := ⟨Ingress.init 0, fun _ => none, fun _ => none, fun _ => none⟩

def run (m : Mesh) (sec : Section) : Mesh := { m with ingress := sec.apply m.ingress }

/-- Runs the section a task's step returns, if any; only the shared state changes. -/
def runOpt (m : Mesh) (o : Option Section) : Mesh :=
  { m with ingress := Section.applyOpt o m.ingress }

def setConn (m : Mesh) (c : Uuid) (t : ConnTask) : Mesh :=
  { m with conns := Function.update m.conns c (some t) }

def setRoute (m : Mesh) (r : Uuid) (t : RouteTask) : Mesh :=
  { m with routes := Function.update m.routes r (some t) }

def setTunnel (m : Mesh) (sid : Uuid) (t : TunnelTask) : Mesh :=
  { m with tunnels := Function.update m.tunnels sid (some t) }

/-- `handle_websocket_stream` creates the connection's channel. -/
def openChannel (m : Mesh) (c : Uuid) : Mesh :=
  { m with
    ingress := { m.ingress with outbound := Function.update m.ingress.outbound c (some []) } }

def tick (m : Mesh) : Mesh := { m with ingress := { m.ingress with clock := m.ingress.clock + 1 } }

@[simp] theorem run_ingress (m : Mesh) (sec : Section) :
    (m.run sec).ingress = sec.apply m.ingress := rfl
@[simp] theorem run_conns (m : Mesh) (sec : Section) : (m.run sec).conns = m.conns := rfl
@[simp] theorem run_routes (m : Mesh) (sec : Section) : (m.run sec).routes = m.routes := rfl
@[simp] theorem run_tunnels (m : Mesh) (sec : Section) : (m.run sec).tunnels = m.tunnels := rfl
@[simp] theorem runOpt_none (m : Mesh) : m.runOpt none = m := rfl
@[simp] theorem runOpt_some (m : Mesh) (sec : Section) : m.runOpt (some sec) = m.run sec := rfl
@[simp] theorem runOpt_ingress (m : Mesh) (o : Option Section) :
    (m.runOpt o).ingress = Section.applyOpt o m.ingress := rfl
@[simp] theorem runOpt_conns (m : Mesh) (o : Option Section) : (m.runOpt o).conns = m.conns := rfl
@[simp] theorem runOpt_routes (m : Mesh) (o : Option Section) : (m.runOpt o).routes = m.routes :=
  rfl
@[simp] theorem runOpt_tunnels (m : Mesh) (o : Option Section) :
    (m.runOpt o).tunnels = m.tunnels := rfl
@[simp] theorem setConn_ingress (m : Mesh) (c : Uuid) (t : ConnTask) :
    (m.setConn c t).ingress = m.ingress := rfl
@[simp] theorem setConn_routes (m : Mesh) (c : Uuid) (t : ConnTask) :
    (m.setConn c t).routes = m.routes := rfl
@[simp] theorem setConn_tunnels (m : Mesh) (c : Uuid) (t : ConnTask) :
    (m.setConn c t).tunnels = m.tunnels := rfl
@[simp] theorem openChannel_conns (m : Mesh) (c : Uuid) : (m.openChannel c).conns = m.conns := rfl
@[simp] theorem setConn_conns_self (m : Mesh) (c : Uuid) (t : ConnTask) :
    (m.setConn c t).conns c = some t := Function.update_same _ _ _
@[simp] theorem setConn_conns_ne (m : Mesh) {c d : Uuid} (t : ConnTask) (h : c ≠ d) :
    (m.setConn d t).conns c = m.conns c := Function.update_noteq h _ _
@[simp] theorem setRoute_routes_self (m : Mesh) (r : Uuid) (t : RouteTask) :
    (m.setRoute r t).routes r = some t := Function.update_same _ _ _
@[simp] theorem setRoute_routes_ne (m : Mesh) {r r' : Uuid} (t : RouteTask) (h : r' ≠ r) :
    (m.setRoute r t).routes r' = m.routes r' := Function.update_noteq h _ _
@[simp] theorem setRoute_ingress (m : Mesh) (r : Uuid) (t : RouteTask) :
    (m.setRoute r t).ingress = m.ingress := rfl
@[simp] theorem setRoute_conns (m : Mesh) (r : Uuid) (t : RouteTask) :
    (m.setRoute r t).conns = m.conns := rfl
@[simp] theorem setRoute_tunnels (m : Mesh) (r : Uuid) (t : RouteTask) :
    (m.setRoute r t).tunnels = m.tunnels := rfl
@[simp] theorem setTunnel_tunnels_self (m : Mesh) (sid : Uuid) (t : TunnelTask) :
    (m.setTunnel sid t).tunnels sid = some t := Function.update_same _ _ _
@[simp] theorem setTunnel_tunnels_ne (m : Mesh) {sid sid' : Uuid} (t : TunnelTask)
    (h : sid' ≠ sid) :
    (m.setTunnel sid t).tunnels sid' = m.tunnels sid' := Function.update_noteq h _ _
@[simp] theorem setTunnel_ingress (m : Mesh) (sid : Uuid) (t : TunnelTask) :
    (m.setTunnel sid t).ingress = m.ingress := rfl
@[simp] theorem setTunnel_conns (m : Mesh) (sid : Uuid) (t : TunnelTask) :
    (m.setTunnel sid t).conns = m.conns := rfl
@[simp] theorem setTunnel_routes (m : Mesh) (sid : Uuid) (t : TunnelTask) :
    (m.setTunnel sid t).routes = m.routes := rfl

end Mesh

/-- What moves the server: an input from outside, or one step of a task. -/
inductive Event
  /-- A second passes. -/
  | tick
  /-- An agent's control connection is accepted, and gets a fresh id. -/
  | accept (c : Uuid)
  /-- The inbound task of `c` reads a text frame; the `AuthService` answers
  `authenticate` if it is asked. -/
  | receive (c : Uuid) (frame : Option IngressMessage)
      (authenticate : IamAuthRequest → IamAuthResponse)
  /-- The inbound task of `c` reads a Close frame, an error or the end of the stream. -/
  | readEnd (c : Uuid)
  /-- Writing to `c`'s socket fails, and the outbound task ends. -/
  | writeFail (c : Uuid)
  /-- A downstream HTTP request reaches `route_request`. -/
  | request (req : ProxyRequest)
  /-- A downstream WebSocket upgrade reaches `start_ws_tunnel_from_alb`; `sid` is
  the session id it will mint. -/
  | upgradeRequest (sid : Uuid) (host path : String) (headers : List (String × String))
      (subprotocols : Option (List String))
  /-- `hyper::upgrade::on` resolves, or fails. -/
  | upgrade (sid : Uuid) (ok : Bool)
  /-- `alb_to_agent` reads a downstream frame. -/
  | downstream (sid : Uuid) (f : WsFrame)
  /-- `agent_to_alb` fails to write its frame downstream. -/
  | downstreamWriteFail (sid : Uuid)
  /-- The downstream client goes away and hyper drops a future. -/
  | dropRoute (r : Uuid)
  | dropTunnel (sid : Uuid)
  /-- Steps of the server's own tasks. -/
  | inbound (c : Uuid)
  | outbound (c : Uuid)
  | select (c : Uuid)
  | cleanup (c : Uuid)
  | route (r : Uuid)
  | tunnel (sid : Uuid)

inductive Step : Mesh → Event → Mesh → Prop
  | tick (m : Mesh) : Step m .tick m.tick
  | accept (m : Mesh) (c : Uuid) (h : m.conns c = none) :
      Step m (.accept c)
        (((m.openChannel c).run (.registerConnection c)).setConn c ⟨true, [], none⟩)
  | receive (m : Mesh) (c : Uuid) (f : Option IngressMessage)
      (authenticate : IamAuthRequest → IamAuthResponse) (t : ConnTask) (ht : m.conns c = some t)
      (hr : t.reading = true) (hi : t.inbound = []) :
      Step m (.receive c f authenticate)
        (m.setConn c { t with inbound := sectionsOf (handleWebsocketMessage c authenticate f) })
  | readEnd (m : Mesh) (c : Uuid) (t : ConnTask) (ht : m.conns c = some t) (hr : t.reading = true)
      (hi : t.inbound = []) : Step m (.readEnd c) (m.setConn c { t with reading := false })
  | writeFail (m : Mesh) (c : Uuid) (hq : (m.ingress.outbound c).isSome = true) :
      Step m (.writeFail c) (m.run (.closeOutbound c))
  | inbound (m : Mesh) (c : Uuid) (t : ConnTask) (sec : Section) (rest : List Section)
      (ht : m.conns c = some t) (hi : t.inbound = sec :: rest) :
      Step m (.inbound c) ((m.run sec).setConn c { t with inbound := rest })
  | outbound (m : Mesh) (c : Uuid) (msg : IngressMessage) (q : List IngressMessage)
      (hq : m.ingress.outbound c = some (msg :: q)) : Step m (.outbound c) (m.run (.recvOutbound c))
  | select (m : Mesh) (c : Uuid) (t : ConnTask) (ht : m.conns c = some t) (hc : t.cleanup = none)
      (hend : t.reading = false ∨ m.ingress.outbound c = none) :
      Step m (.select c) (m.setConn c { t with cleanup := some (removeConnection c) })
  | cleanup (m : Mesh) (c : Uuid) (t : ConnTask) (sec : Section) (rest : List Section)
      (ht : m.conns c = some t) (hc : t.cleanup = some (sec :: rest)) :
      Step m (.cleanup c) ((m.run sec).setConn c { t with cleanup := some rest })
  | request (m : Mesh) (req : ProxyRequest) (h : m.routes req.id = none) :
      Step m (.request req) (m.setRoute req.id ⟨req, .findMatching⟩)
  | route (m : Mesh) (r : Uuid) (t : RouteTask) (sec : Option Section) (p : RoutePhase)
      (ht : m.routes r = some t) (hs : routeStep t.request m.ingress t.phase = some (sec, p)) :
      Step m (.route r) ((m.runOpt sec).setRoute r { t with phase := p })
  | dropRoute (m : Mesh) (r : Uuid) (t : RouteTask) (ht : m.routes r = some t)
      (hs : t.phase.suspended = true) :
      Step m (.dropRoute r) (m.setRoute r { t with phase := .dropped t.phase.holdsEntry })
  | upgradeRequest (m : Mesh) (sid : Uuid) (host path : String) (headers : List (String × String))
      (subprotocols : Option (List String)) (h : m.tunnels sid = none) :
      Step m (.upgradeRequest sid host path headers subprotocols)
        (m.setTunnel sid ⟨host, path, headers, subprotocols, .resolving⟩)
  | tunnel (m : Mesh) (sid : Uuid) (t : TunnelTask) (sec : Option Section) (p : TunnelPhase)
      (ht : m.tunnels sid = some t) (hs : tunnelStep sid t m.ingress t.phase = some (sec, p)) :
      Step m (.tunnel sid) ((m.runOpt sec).setTunnel sid { t with phase := p })
  | upgrade (m : Mesh) (sid : Uuid) (t : TunnelTask) (agent : Uuid) (ok : Bool)
      (ht : m.tunnels sid = some t) (hp : t.phase = .upgrading agent) :
      Step m (.upgrade sid ok)
        (m.setTunnel sid { t with phase := if ok then .awaitingAck agent else .finished })
  | downstream (m : Mesh) (sid : Uuid) (t : TunnelTask) (agent : Uuid) (b : Bool)
      (f : WsFrame) (ht : m.tunnels sid = some t) (hp : t.phase = .pumping agent true b) :
      Step m (.downstream sid f)
        ((m.runOpt ((albToAgentMessage sid f).map (.sendOn agent))).setTunnel sid
          { t with phase := .pumping agent f.continues b })
  | downstreamWriteFail (m : Mesh) (sid : Uuid) (t : TunnelTask) (agent : Uuid) (a : Bool)
      (fr : AlbOutboundFrame) (q : List AlbOutboundFrame) (ht : m.tunnels sid = some t)
      (hp : t.phase = .pumping agent a true) (hq : m.ingress.albOut sid = fr :: q) :
      Step m (.downstreamWriteFail sid)
        ((m.run (.recvAlbOut sid)).setTunnel sid { t with phase := .pumping agent a false })
  | dropTunnel (m : Mesh) (sid : Uuid) (t : TunnelTask) (ht : m.tunnels sid = some t)
      (hp : t.phase.inHandler = true) :
      Step m (.dropTunnel sid) (m.setTunnel sid { t with phase := .dropped })

/-- A run: the events taken in order, from one state to another. -/
inductive Run : Mesh → List Event → Mesh → Prop
  | nil (m : Mesh) : Run m [] m
  | cons {m m' m'' : Mesh} {e : Event} {es : List Event} :
      Step m e m' → Run m' es m'' → Run m (e :: es) m''

def Reachable (m : Mesh) : Prop := ∃ es, Run Mesh.init es m

namespace Run

theorem append {m₁ m₂ m₃ : Mesh} {es₁ es₂ : List Event} (h₁ : Run m₁ es₁ m₂)
    (h₂ : Run m₂ es₂ m₃) :
    Run m₁ (es₁ ++ es₂) m₃ := by
  induction h₁ with
  | nil => exact h₂
  | cons hs _ ih => exact .cons hs (ih h₂)

/-- A property kept by every step holds all along a run. -/
theorem invariant {P : Mesh → Prop} (hstep : ∀ m e m', P m → Step m e m' → P m')
    {m m' : Mesh} {es : List Event} (h : Run m es m') (hm : P m) : P m' := by
  induction h with
  | nil => exact hm
  | cons hs _ ih => exact ih (hstep _ _ _ hm hs)

end Run

theorem Reachable.step {m m' : Mesh} {e : Event} (h : Reachable m) (hs : Step m e m') :
    Reachable m' := by
  obtain ⟨es, hr⟩ := h
  exact ⟨es ++ [e], hr.append (.cons hs (.nil _))⟩

theorem Reachable.run {m m' : Mesh} {es : List Event} (h : Reachable m) (hr : Run m es m') :
    Reachable m' := by
  obtain ⟨es₀, h₀⟩ := h
  exact ⟨es₀ ++ es, h₀.append hr⟩

/-- A property of the initial state kept by every step holds in every
reachable state. -/
theorem Reachable.invariant {P : Mesh → Prop} (h0 : P Mesh.init)
    (hstep : ∀ m e m', P m → Step m e m' → P m') {m : Mesh} (h : Reachable m) : P m := by
  obtain ⟨es, hr⟩ := h
  exact hr.invariant hstep h0

/-! ### Invariants of the parts of the state -/

section Parts

variable {m m' : Mesh} {e : Event}

/-- A property of every connection's tasks survives replacing one by a task that has it. -/
theorem Mesh.forall_setConn {P : Uuid → ConnTask → Prop}
    (hm : ∀ d t, m.conns d = some t → P d t) {c : Uuid} {t : ConnTask} (ht : P c t) :
    ∀ d t', (m.setConn c t).conns d = some t' → P d t' := by
  intro d t' hd
  by_cases hdc : d = c
  · subst hdc; simp only [Mesh.setConn, Function.update_same, Option.some.injEq] at hd
    exact hd ▸ ht
  · exact hm d t' (by simpa [Mesh.setConn, Function.update_noteq hdc] using hd)

theorem Mesh.forall_setRoute {P : Uuid → RouteTask → Prop}
    (hm : ∀ r t, m.routes r = some t → P r t) {r : Uuid} {t : RouteTask} (ht : P r t) :
    ∀ r' t', (m.setRoute r t).routes r' = some t' → P r' t' := by
  intro r' t' hr
  by_cases hrr : r' = r
  · subst hrr; simp only [Mesh.setRoute, Function.update_same, Option.some.injEq] at hr
    exact hr ▸ ht
  · exact hm r' t' (by simpa [Mesh.setRoute, Function.update_noteq hrr] using hr)

theorem Mesh.forall_setTunnel {P : Uuid → TunnelTask → Prop}
    (hm : ∀ sid t, m.tunnels sid = some t → P sid t) {sid : Uuid} {t : TunnelTask}
    (ht : P sid t) : ∀ sid' t', (m.setTunnel sid t).tunnels sid' = some t' → P sid' t' := by
  intro sid' t' hs
  by_cases hss : sid' = sid
  · subst hss; simp only [Mesh.setTunnel, Function.update_same, Option.some.injEq] at hs
    exact hs ▸ ht
  · exact hm sid' t' (by simpa [Mesh.setTunnel, Function.update_noteq hss] using hs)

theorem Mesh.runOpt_ingress_invariant {P : Ingress → Prop}
    (hsec : ∀ (sec : Section) s, P s → P (sec.apply s)) (o : Option Section)
    (hm : P m.ingress) :
    P (m.runOpt o).ingress := by
  cases o
  · exact hm
  · exact hsec _ _ hm

/-- A property of the shared state kept by every section, by the clock and by
opening a channel is kept by every step. -/
theorem Step.ingress_invariant {P : Ingress → Prop}
    (hsec : ∀ (sec : Section) s, P s → P (sec.apply s))
    (htick : ∀ s : Ingress, P s → P { s with clock := s.clock + 1 })
    (hopen : ∀ (s : Ingress) c, P s →
      P { s with outbound := Function.update s.outbound c (some []) })
    (h : Step m e m') (hm : P m.ingress) : P m'.ingress := by
  cases h with
  | tick => exact htick _ hm
  | accept c => exact hsec (.registerConnection c) _ (hopen _ c hm)
  | writeFail c => exact hsec (.closeOutbound c) _ hm
  | outbound c => exact hsec (.recvOutbound c) _ hm
  | downstreamWriteFail sid => exact hsec (.recvAlbOut sid) _ hm
  | inbound _ _ sec | cleanup _ _ sec => exact hsec sec _ hm
  | route _ _ sec | tunnel _ _ sec => exact Mesh.runOpt_ingress_invariant hsec sec hm
  | downstream sid _ agent _ f =>
    exact Mesh.runOpt_ingress_invariant hsec ((albToAgentMessage sid f).map (.sendOn agent)) hm
  | _ => exact hm

/-- A connection whose cleanup has begun keeps its task; only the cleanup's own
step moves the cleanup on, by running its next section. -/
theorem Step.cleanup_cases (h : Step m e m') {c : Uuid} {t : ConnTask} {l : List Section}
    (ht : m.conns c = some t) (hl : t.cleanup = some l) :
    (∃ t', m'.conns c = some t' ∧ t'.cleanup = some l) ∨
      ∃ t' sec rest, l = sec :: rest ∧ m'.conns c = some t' ∧ t'.cleanup = some rest ∧
        m'.ingress = sec.apply m.ingress := by
  cases h with
  | accept d hd =>
    have hcd : c ≠ d := by rintro rfl; simp [ht] at hd
    exact .inl ⟨t, by simp [hcd, ht], hl⟩
  | receive d _ _ t₀ ht₀ | readEnd d t₀ ht₀ | inbound d t₀ _ _ ht₀ =>
    by_cases hcd : c = d
    · subst hcd; rw [ht] at ht₀; cases ht₀; exact .inl ⟨_, Mesh.setConn_conns_self .., hl⟩
    · exact .inl ⟨t, by simp [hcd, ht], hl⟩
  | select d t₀ ht₀ hc₀ =>
    by_cases hcd : c = d
    · subst hcd; rw [ht] at ht₀; cases ht₀; simp [hl] at hc₀
    · exact .inl ⟨t, by simp [hcd, ht], hl⟩
  | cleanup d t₀ sec rest ht₀ hc₀ =>
    by_cases hcd : c = d
    · subst hcd; rw [ht] at ht₀; cases ht₀; rw [hl, Option.some.injEq] at hc₀
      exact .inr ⟨_, sec, rest, hc₀, Mesh.setConn_conns_self .., rfl, rfl⟩
    · exact .inl ⟨t, by simp [hcd, ht], hl⟩
  | _ => exact .inl ⟨t, ht, hl⟩

/-- A step gives a connection tasks only by accepting it. -/
theorem Step.conns_ne_none (h : Step m e m') {c : Uuid} (hc : m'.conns c ≠ none) :
    m.conns c ≠ none ∨ e = .accept c := by
  cases h with
  | accept d =>
    by_cases hcd : c = d
    · exact .inr (hcd ▸ rfl)
    · exact .inl (by simpa [hcd] using hc)
  | receive d _ _ t ht | readEnd d t ht | inbound d t _ _ ht | select d t ht | cleanup d t _ _ ht =>
    by_cases hcd : c = d
    · subst hcd; simp [ht]
    · exact .inl (by simpa [hcd] using hc)
  | _ => exact .inl hc

/-- Every connection with tasks at the end of a run had them at its start or was
accepted during it. -/
theorem Run.conns_ne_none {es : List Event} (h : Run m es m') {c : Uuid}
    (hc : m'.conns c ≠ none) :
    m.conns c ≠ none ∨ Event.accept c ∈ es := by
  induction h with
  | nil => exact .inl hc
  | cons hs _ ih =>
    rcases ih hc with h | h
    · rcases hs.conns_ne_none h with h | rfl
      · exact .inl h
      · exact .inr (List.mem_cons_self _ _)
    · exact .inr (List.mem_cons_of_mem _ h)

end Parts

/-! ### Computing a step -/

namespace Mesh

/-- The state an event leads to, or `none` when the event is not enabled. -/
def exec (m : Mesh) : Event → Option Mesh
  | .tick => some m.tick
  | .accept c =>
    match m.conns c with
    | none => some (((m.openChannel c).run (.registerConnection c)).setConn c ⟨true, [], none⟩)
    | some _ => none
  | .receive c f authenticate =>
    match m.conns c with
    | some t =>
      if t.reading = true ∧ t.inbound = [] then
        some (m.setConn c
          { t with inbound := sectionsOf (handleWebsocketMessage c authenticate f) })
      else none
    | none => none
  | .readEnd c =>
    match m.conns c with
    | some t =>
      if t.reading = true ∧ t.inbound = [] then some (m.setConn c { t with reading := false })
      else none
    | none => none
  | .writeFail c => if (m.ingress.outbound c).isSome then some (m.run (.closeOutbound c)) else none
  | .inbound c =>
    match m.conns c with
    | some ⟨reading, sec :: rest, cleanup⟩ =>
      some ((m.run sec).setConn c ⟨reading, rest, cleanup⟩)
    | _ => none
  | .outbound c =>
    match m.ingress.outbound c with
    | some (_ :: _) => some (m.run (.recvOutbound c))
    | _ => none
  | .select c =>
    match m.conns c with
    | some t =>
      if t.cleanup = none ∧ (t.reading = false ∨ m.ingress.outbound c = none) then
        some (m.setConn c { t with cleanup := some (removeConnection c) })
      else none
    | none => none
  | .cleanup c =>
    match m.conns c with
    | some ⟨reading, inbound, some (sec :: rest)⟩ =>
      some ((m.run sec).setConn c ⟨reading, inbound, some rest⟩)
    | _ => none
  | .request req =>
    match m.routes req.id with
    | none => some (m.setRoute req.id ⟨req, .findMatching⟩)
    | some _ => none
  | .route r =>
    match m.routes r with
    | some t =>
      match routeStep t.request m.ingress t.phase with
      | some (sec, p) => some ((m.runOpt sec).setRoute r { t with phase := p })
      | none => none
    | none => none
  | .dropRoute r =>
    match m.routes r with
    | some t =>
      if t.phase.suspended then some (m.setRoute r { t with phase := .dropped t.phase.holdsEntry })
      else none
    | none => none
  | .upgradeRequest sid host path headers subprotocols =>
    match m.tunnels sid with
    | none => some (m.setTunnel sid ⟨host, path, headers, subprotocols, .resolving⟩)
    | some _ => none
  | .tunnel sid =>
    match m.tunnels sid with
    | some t =>
      match tunnelStep sid t m.ingress t.phase with
      | some (sec, p) => some ((m.runOpt sec).setTunnel sid { t with phase := p })
      | none => none
    | none => none
  | .upgrade sid ok =>
    match m.tunnels sid with
    | some ⟨host, path, headers, subprotocols, .upgrading agent⟩ =>
      some (m.setTunnel sid
        ⟨host, path, headers, subprotocols, if ok then .awaitingAck agent else .finished⟩)
    | _ => none
  | .downstream sid f =>
    match m.tunnels sid with
    | some ⟨host, path, headers, subprotocols, .pumping agent true b⟩ =>
      some ((m.runOpt ((albToAgentMessage sid f).map (.sendOn agent))).setTunnel sid
        ⟨host, path, headers, subprotocols, .pumping agent f.continues b⟩)
    | _ => none
  | .downstreamWriteFail sid =>
    match m.tunnels sid, m.ingress.albOut sid with
    | some ⟨host, path, headers, subprotocols, .pumping agent a true⟩, _ :: _ =>
      some ((m.run (.recvAlbOut sid)).setTunnel sid
        ⟨host, path, headers, subprotocols, .pumping agent a false⟩)
    | _, _ => none
  | .dropTunnel sid =>
    match m.tunnels sid with
    | some t =>
      if t.phase.inHandler then some (m.setTunnel sid { t with phase := .dropped }) else none
    | none => none

/-- The events of a list, one after another. -/
def execAll (m : Mesh) : List Event → Option Mesh
  | [] => some m
  | e :: es => (m.exec e).bind fun m' => m'.execAll es

end Mesh

theorem Step.of_exec {m m' : Mesh} {e : Event} (h : m.exec e = some m') : Step m e m' := by
  cases e with
  | tick => cases h; exact .tick m
  | accept c =>
    simp only [Mesh.exec] at h
    split at h <;> cases h
    next hc => exact .accept m c hc
  | receive c f authenticate =>
    simp only [Mesh.exec] at h
    split at h <;> (try split at h) <;> cases h
    next t ht hc => exact .receive m c f authenticate t ht hc.1 hc.2
  | readEnd c =>
    simp only [Mesh.exec] at h
    split at h <;> (try split at h) <;> cases h
    next t ht hc => exact .readEnd m c t ht hc.1 hc.2
  | writeFail c =>
    simp only [Mesh.exec] at h
    split at h <;> cases h
    next hq => exact .writeFail m c hq
  | inbound c =>
    simp only [Mesh.exec] at h
    split at h <;> cases h
    next sec rest _ ht => exact .inbound m c _ sec rest ht rfl
  | outbound c =>
    simp only [Mesh.exec] at h
    split at h <;> cases h
    next msg q hq => exact .outbound m c msg q hq
  | select c =>
    simp only [Mesh.exec] at h
    split at h <;> (try split at h) <;> cases h
    next t ht hc => exact .select m c t ht hc.1 hc.2
  | cleanup c =>
    simp only [Mesh.exec] at h
    split at h <;> cases h
    next sec rest ht => exact .cleanup m c _ sec rest ht rfl
  | request req =>
    simp only [Mesh.exec] at h
    split at h <;> cases h
    next hr => exact .request m req hr
  | route r =>
    simp only [Mesh.exec] at h
    split at h <;> (try split at h) <;> cases h
    exact .route m r _ _ _ ‹_› ‹_›
  | dropRoute r =>
    simp only [Mesh.exec] at h
    split at h <;> (try split at h) <;> cases h
    next t ht hs => exact .dropRoute m r t ht hs
  | upgradeRequest sid host path headers subprotocols =>
    simp only [Mesh.exec] at h
    split at h <;> cases h
    next ht => exact .upgradeRequest m sid host path headers subprotocols ht
  | tunnel sid =>
    simp only [Mesh.exec] at h
    split at h <;> (try split at h) <;> cases h
    exact .tunnel m sid _ _ _ ‹_› ‹_›
  | upgrade sid ok =>
    simp only [Mesh.exec] at h
    split at h <;> cases h
    next agent ht => exact .upgrade m sid _ agent ok ht rfl
  | downstream sid f =>
    simp only [Mesh.exec] at h
    split at h <;> cases h
    next agent b ht => exact .downstream m sid _ agent b f ht rfl
  | downstreamWriteFail sid =>
    simp only [Mesh.exec] at h
    split at h <;> cases h
    next agent a fr q ht hq => exact .downstreamWriteFail m sid _ agent a fr q ht rfl hq
  | dropTunnel sid =>
    simp only [Mesh.exec] at h
    split at h <;> (try split at h) <;> cases h
    next t ht hp => exact .dropTunnel m sid t ht hp

theorem Run.of_execAll {m m' : Mesh} {es : List Event} (h : m.execAll es = some m') :
    Run m es m' := by
  induction es generalizing m with
  | nil => cases h; exact .nil _
  | cons e es ih =>
    simp only [Mesh.execAll, Option.bind_eq_some] at h
    obtain ⟨m₁, h₁, h₂⟩ := h
    exact .cons (Step.of_exec h₁) (ih h₂)

/-- A run computed by `execAll`, with a property of where it ends. -/
theorem Run.exists_of_execAll {m : Mesh} (es : List Event) {p : Mesh → Bool}
    (h : (m.execAll es).any p = true) : ∃ m', Run m es m' ∧ p m' = true := by
  cases hm : m.execAll es with
  | none => simp [hm] at h
  | some m' => exact ⟨m', Run.of_execAll hm, by simpa [hm] using h⟩

end AnywhereMesh.Server
