import AnywhereMesh.Server.Pending

/-! The tunnel tables over whole runs. `start_ws_tunnel_from_alb` sends the
`WebSocketProxyInit` to the agent before it inserts the session and then the
init waiter, each in a lock section of its own; until then
`handle_ws_proxy_init_ack` finds no waiter and `handle_ws_proxy_data_from_agent`
no session, and both drop what the agent sent. Once both pumps run,
`tokio::join!` waits for `agent_to_alb` as well, which waits on a channel whose
only sender left is the one in `ws_sessions`; if the downstream side ends first,
nothing in the server removes that entry, so only a frame from the agent can end
the tunnel. -/

namespace AnywhereMesh.Server

/-! ### Sections that create tunnel entries -/

theorem Section.not_mem_wsSessions_apply (sec : Section) (s : Ingress) {sid : Uuid}
    (h : ∀ sess, sec ≠ .insertSession sid sess) (hs : sid ∉ s.wsSessions) :
    sid ∉ (sec.apply s).wsSessions := by
  cases sec
  case insertSession sid' sess =>
    have hne : sid ≠ sid' := by rintro rfl; exact h sess rfl
    simpa [apply, AList.mem_insert, hne] using hs
  all_goals simp only [apply]; (repeat' split) <;> simp_all [AList.mem_erase, Ingress.send]

theorem Section.no_waiter_apply (sec : Section) (s : Ingress) {sid : Uuid}
    (h : sec ≠ .insertWaiter sid) (hs : sid ∉ s.wsInitWaiters ∧ s.initAcks sid = none) :
    sid ∉ (sec.apply s).wsInitWaiters ∧ (sec.apply s).initAcks sid = none := by
  cases sec
  case insertWaiter sid' =>
    have hne : sid ≠ sid' := by rintro rfl; exact h rfl
    simpa [apply, AList.mem_insert, hne] using hs
  case handleWsProxyInitAck sid' ack =>
    simp only [apply]
    split
    · next hin =>
      have hne : sid ≠ sid' := by rintro rfl; exact hs.1 hin
      simpa [AList.mem_erase, hne, Function.update_noteq hne] using hs
    · exact hs
  all_goals simp only [apply]; (repeat' split) <;> simp_all [AList.mem_erase, Ingress.send]

/-- No frame's handler creates a session or a waiter. -/
theorem insert_not_mem_handleWebsocketMessage (c : Uuid)
    (authenticate : IamAuthRequest → IamAuthResponse) (f : Option IngressMessage) :
    ∀ sec ∈ sectionsOf (handleWebsocketMessage c authenticate f),
      (∀ sid sess, sec ≠ .insertSession sid sess) ∧ ∀ sid, sec ≠ .insertWaiter sid :=
    fun sec h => by
  rcases mem_handleWebsocketMessage h with ⟨_, rfl, rfl⟩ | ⟨_, rfl, rfl | rfl | rfl⟩ | rfl |
    ⟨_, rfl, rfl⟩ | ⟨_, rfl, rfl | rfl⟩ | ⟨_, _, _, _, rfl, rfl⟩ | ⟨_, _, _, rfl, rfl⟩ |
    ⟨_, _, _, rfl, rfl⟩ <;> simp

/-! ### Entries of a tunnel that has not made them yet -/

/-- The phases before the handler inserts the session. -/
def TunnelPhase.beforeSession : TunnelPhase → Bool
  | .resolving | .checking _ | .initiating _ | .registering _ => true
  | _ => false

/-- The phases before the handler inserts the init waiter. -/
def TunnelPhase.beforeWaiter : TunnelPhase → Bool
  | .arming _ => true
  | ph => ph.beforeSession

/-- A tunnel's step into a phase before the session (or the waiter) comes from
such a phase, and runs no section that creates the entry. -/
theorem tunnelStep_before {sid : Uuid} {t : TunnelTask} {s : Ingress} {ph p : TunnelPhase}
    {sec : Option Section} (h : tunnelStep sid t s ph = some (sec, p)) :
    (p.beforeSession = true →
        ph.beforeSession = true ∧ ∀ x ∈ sec, ∀ sess, x ≠ .insertSession sid sess) ∧
      (p.beforeWaiter = true →
        ph.beforeWaiter = true ∧ ∀ x ∈ sec, x ≠ .insertWaiter sid) := by
  cases ph <;> simp only [tunnelStep] at h <;> (repeat' split at h) <;>
    simp only [Option.some.injEq, Prod.mk.injEq, reduceCtorEq, false_and] at h <;>
    obtain ⟨rfl, rfl⟩ := h <;>
    simp_all [TunnelPhase.beforeSession, TunnelPhase.beforeWaiter]

/-- Until the tunnel of `sid` inserts its session, and then its waiter, neither
exists and no init ack is stored for it; no tunnel at all counts as before both. -/
def FreshAt (task : Option TunnelTask) (s : Ingress) (sid : Uuid) : Prop :=
  (task.all (·.phase.beforeSession) = true → sid ∉ s.wsSessions) ∧
    (task.all (·.phase.beforeWaiter) = true → sid ∉ s.wsInitWaiters ∧ s.initAcks sid = none)

def SessionsFresh (m : Mesh) : Prop := ∀ sid, FreshAt (m.tunnels sid) m.ingress sid

theorem FreshAt.apply {task : Option TunnelTask} {s : Ingress} {sid : Uuid}
    (h : FreshAt task s sid) (sec : Section) (hs : ∀ sess, sec ≠ .insertSession sid sess)
    (hw : sec ≠ .insertWaiter sid) : FreshAt task (sec.apply s) sid :=
  ⟨fun ht => sec.not_mem_wsSessions_apply _ hs (h.1 ht),
    fun ht => sec.no_waiter_apply _ hw (h.2 ht)⟩

theorem FreshAt.applyOpt {task : Option TunnelTask} {s : Ingress} {sid : Uuid}
    (h : FreshAt task s sid) {o : Option Section}
    (ho : ∀ sec ∈ o,
      (∀ sess, sec ≠ .insertSession sid sess) ∧ sec ≠ .insertWaiter sid) :
    FreshAt task (Section.applyOpt o s) sid := by
  rcases o with _ | sec
  · exact h
  · exact h.apply sec (ho sec rfl).1 (ho sec rfl).2

/-- A tunnel's own step keeps its entries fresh for as long as its phase says so. -/
theorem tunnelStep_freshAt {sid : Uuid} {t : TunnelTask} {s : Ingress} {p : TunnelPhase}
    {sec : Option Section} (hs : tunnelStep sid t s t.phase = some (sec, p))
    (h : FreshAt (some t) s sid) :
    FreshAt (some { t with phase := p }) (Section.applyOpt sec s) sid := by
  obtain ⟨h₁, h₂⟩ := tunnelStep_before hs
  constructor
  · intro hp
    obtain ⟨hb, hsec⟩ := h₁ hp
    rcases sec with _ | sec
    · exact h.1 hb
    · exact sec.not_mem_wsSessions_apply _ (hsec sec rfl) (h.1 hb)
  · intro hp
    obtain ⟨hb, hsec⟩ := h₂ hp
    rcases sec with _ | sec
    · exact h.2 hb
    · exact sec.no_waiter_apply _ (hsec sec rfl) (h.2 hb)

theorem FreshAt.of_not_before {t : TunnelTask} {s : Ingress} {sid : Uuid}
    (hs : t.phase.beforeSession = false) (hw : t.phase.beforeWaiter = false) :
    FreshAt (some t) s sid :=
  ⟨fun h => absurd h (by simp [hs]), fun h => absurd h (by simp [hw])⟩

/-- A tunnel that changes phase keeps its own entries fresh by `hself`, and
every other tunnel keeps its own by `hother`. -/
theorem Mesh.sessionsFresh_setTunnel {m : Mesh} {sid : Uuid} {t : TunnelTask}
    (hself : FreshAt (some t) m.ingress sid)
    (hother : ∀ sid', sid' ≠ sid → FreshAt (m.tunnels sid') m.ingress sid') :
    SessionsFresh (m.setTunnel sid t) := fun sid' => by
  by_cases hsid : sid' = sid
  · subst hsid
    simpa using hself
  · simpa [Mesh.setTunnel_tunnels_ne _ _ hsid] using hother sid' hsid

section

variable {m m' : Mesh} {e : Event}

theorem Step.sessionsFresh (h : Step m e m') (hw : m.WellFormed) (hf : SessionsFresh m) :
    SessionsFresh m' := by
  have noInsert : ∀ sec : Section, (∀ sid sess, sec ≠ .insertSession sid sess) →
      (∀ sid, sec ≠ .insertWaiter sid) → SessionsFresh (m.run sec) :=
    fun sec hs hw sid => (hf sid).apply sec (hs sid) (hw sid)
  cases h with
  | accept c =>
    exact fun sid =>
      FreshAt.apply (s := (m.openChannel c).ingress) (hf sid) (.registerConnection c) (by simp)
        (by simp)
  | writeFail c => exact noInsert (.closeOutbound c) (by simp) (by simp)
  | outbound c => exact noInsert (.recvOutbound c) (by simp) (by simp)
  | inbound c t sec rest ht hi =>
    obtain ⟨f, a, hs⟩ := (hw.conns c t ht).inbound_handled
    have hsec :=
      insert_not_mem_handleWebsocketMessage c a f sec (hs.mem (hi ▸ List.mem_cons_self _ _))
    exact noInsert sec hsec.1 hsec.2
  | cleanup c t sec rest ht hc =>
    have hmem := ((hw.conns c t ht).cleanup_suffix _ hc).mem (List.mem_cons_self sec rest)
    simp only [removeConnection, List.mem_cons, List.mem_singleton, List.not_mem_nil,
      or_false] at hmem
    exact noInsert sec (by rcases hmem with rfl | rfl | rfl <;> simp)
      (by rcases hmem with rfl | rfl | rfl <;> simp)
  | route r t sec p ht hs =>
    refine fun sid => (hf sid).applyOpt fun x hx => ?_
    rcases routeStep_section (Option.mem_def.mp hx ▸ hs) with
      ⟨_, _, rfl⟩ | rfl | ⟨_, rfl⟩ | rfl <;> simp
  | upgradeRequest sid host path headers subprotocols hnone =>
    have hf' := hf sid
    rw [hnone] at hf'
    exact Mesh.sessionsFresh_setTunnel ⟨fun _ => hf'.1 rfl, fun _ => hf'.2 rfl⟩
      fun sid' _ => hf sid'
  | tunnel sid t sec p ht hs =>
    refine Mesh.sessionsFresh_setTunnel (tunnelStep_freshAt hs (ht ▸ hf sid))
      fun sid' hsid => (hf sid').applyOpt fun x hx => ?_
    rcases tunnelStep_section (Option.mem_def.mp hx ▸ hs) with
      ⟨_, _, rfl⟩ | ⟨_, rfl⟩ | rfl | rfl | rfl | rfl <;> simp [Ne.symm hsid]
  | upgrade sid t agent ok =>
    exact Mesh.sessionsFresh_setTunnel (by cases ok <;> exact FreshAt.of_not_before rfl rfl)
      fun sid' _ => hf sid'
  | downstream sid t agent b f =>
    refine Mesh.sessionsFresh_setTunnel (FreshAt.of_not_before rfl rfl)
      fun sid' _ => (hf sid').applyOpt fun x hx => ?_
    obtain ⟨_, -, rfl⟩ := Option.mem_map.mp hx
    simp
  | downstreamWriteFail sid t agent a =>
    exact Mesh.sessionsFresh_setTunnel (FreshAt.of_not_before rfl rfl)
      fun sid' _ => (hf sid').apply (.recvAlbOut sid) (by simp) (by simp)
  | dropTunnel sid t =>
    exact Mesh.sessionsFresh_setTunnel (FreshAt.of_not_before rfl rfl) fun sid' _ => hf sid'
  | _ => exact hf

theorem Reachable.sessionsFresh (h : Reachable m) : m.WellFormed ∧ SessionsFresh m :=
  h.invariant (P := fun m => m.WellFormed ∧ SessionsFresh m)
    ⟨Mesh.wellFormed_init, fun _ => ⟨fun _ => by simp [Mesh.init, Ingress.init],
      fun _ => by simp [Mesh.init, Ingress.init]⟩⟩
    fun _ _ _ hm hs => ⟨hs.wellFormed hm.1, hs.sessionsFresh hm.1 hm.2⟩

end

/-! ### Replies that come before the entries -/

/-- Connection 1 registers; an upgrade for its host opens session 5, and its
handler sends the `WebSocketProxyInit` to the agent, which reads it. -/
def initSent : List Event :=
  registerOnOne ++ [.upgradeRequest 5 "api.example.com" "/" [] none, .tunnel 5, .tunnel 5,
    .tunnel 5, .outbound 1, .outbound 1]

def initSentMesh : Mesh := (Mesh.init.execAll initSent).getD Mesh.init

/-- Once the tunnel of `sid` has sent its `WebSocketProxyInit`, and until it has
inserted its init waiter, an init ack for `sid` is dropped; until it has
inserted the session, a data frame for `sid` is dropped as well. -/
theorem init_reply_dropped {m : Mesh} (h : Reachable m) {sid agent : Uuid} {t : TunnelTask}
    (ht : m.tunnels sid = some t) (ack : WsInitAck) (frameType : String)
    (payload : Option String) :
    (t.phase = .registering agent ∨ t.phase = .arming agent →
      (Section.handleWsProxyInitAck sid ack).apply m.ingress = m.ingress) ∧
    (t.phase = .registering agent →
      (Section.handleWsProxyDataFromAgent sid frameType payload).apply m.ingress = m.ingress) := by
  have hf := h.sessionsFresh.2 sid
  rw [ht] at hf
  constructor
  · intro hp
    have hw := (hf.2 (by rcases hp with hp | hp <;> simp [hp, TunnelPhase.beforeWaiter,
      TunnelPhase.beforeSession])).1
    simp [Section.apply, hw]
  · intro hp
    have hs := hf.1 (by simp [hp, TunnelPhase.beforeSession])
    simp [Section.apply, AList.lookup_eq_none.mpr hs]

theorem init_reply_dropped_initSent :
    (TunnelPhase.registering 1 = .registering 1 ∨ TunnelPhase.registering 1 = .arming 1 →
      (Section.handleWsProxyInitAck 5 ⟨true, none, none⟩).apply initSentMesh.ingress =
        initSentMesh.ingress) ∧
    (TunnelPhase.registering 1 = .registering 1 →
      (Section.handleWsProxyDataFromAgent 5 "text" (some "hello")).apply initSentMesh.ingress =
        initSentMesh.ingress) :=
  init_reply_dropped (t := ⟨"api.example.com", "/", [], none, .registering 1⟩)
    ⟨initSent, Run.of_execAll rfl⟩ (by decide) _ _ _

/-! ### `agent_to_alb` after `alb_to_agent` has ended -/

/-- The session whose tunnel entries a section may change: its session, waiter,
init ack or downstream channel. -/
def Section.wsKey : Section → Option Uuid
  | .insertSession sid _ | .insertWaiter sid | .removeWaiter sid | .removeSession sid
  | .handleWsProxyInitAck sid _ | .handleWsProxyDataFromAgent sid _ _
  | .handleWsProxyCloseFromAgent sid _ _ | .recvAlbOut sid => some sid
  | _ => none

/-- A section for another session leaves a session's channel and entry alone. -/
theorem Section.albOut_apply (sec : Section) (s : Ingress) {sid : Uuid}
    (h : sec.wsKey ≠ some sid) :
    (sec.apply s).albOut sid = s.albOut sid ∧
      (sid ∈ (sec.apply s).wsSessions ↔ sid ∈ s.wsSessions) := by
  cases sec
  case insertSession sid' _ | insertWaiter sid' | removeWaiter sid' | removeSession sid'
    | handleWsProxyInitAck sid' _ | handleWsProxyDataFromAgent sid' _ _
    | handleWsProxyCloseFromAgent sid' _ _ | recvAlbOut sid' =>
    have hne : sid ≠ sid' := fun h' => h (h' ▸ rfl)
    simp only [apply]
    (repeat' split) <;> simp [AList.mem_insert, AList.mem_erase, Function.update_noteq hne, hne]
  all_goals simp only [apply]; (repeat' split) <;> simp [Ingress.send]

/-- A tunnel's sections are for its own session, or sends to an agent. -/
theorem tunnelStep_wsKey {sid : Uuid} {t : TunnelTask} {s : Ingress} {ph p : TunnelPhase}
    {sec : Section} (h : tunnelStep sid t s ph = some (some sec, p)) :
    sec.wsKey = none ∨ sec.wsKey = some sid := by
  rcases tunnelStep_section h with ⟨_, _, rfl⟩ | ⟨_, rfl⟩ | rfl | rfl | rfl | rfl <;>
    simp [Section.wsKey]

/-- The steps of the server's own tasks, and the clock. -/
def Event.internal : Event → Bool
  | .tick | .inbound _ | .outbound _ | .select _ | .cleanup _ | .route _ | .tunnel _ => true
  | _ => false

/-- The tunnel of `sid` once `alb_to_agent` has ended while `agent_to_alb` waits:
its channel is empty, the session table holds its sender, and no inbound task
has a section for `sid` left to run. -/
structure AgentPumpBlocked (sid : Uuid) (m : Mesh) : Prop where
  pumping : ∃ t agent, m.tunnels sid = some t ∧ t.phase = .pumping agent false true
  empty : m.ingress.albOut sid = []
  held : sid ∈ m.ingress.wsSessions
  quiet : ∀ c t, m.conns c = some t → ∀ sec ∈ t.inbound, sec.wsKey ≠ some sid

section

variable {m m' : Mesh} {e : Event} {sid : Uuid}

theorem AgentPumpBlocked.run (hb : AgentPumpBlocked sid m) (sec : Section)
    (hsec : sec.wsKey ≠ some sid) : AgentPumpBlocked sid (m.run sec) :=
  have h := sec.albOut_apply m.ingress hsec
  ⟨hb.pumping, h.1.trans hb.empty, h.2.mpr hb.held, hb.quiet⟩

theorem Step.agentPumpBlocked (h : Step m e m') (he : e.internal = true) (hw : m.WellFormed)
    (hb : AgentPumpBlocked sid m) : AgentPumpBlocked sid m' := by
  cases h with
  | tick => exact ⟨hb.pumping, hb.empty, hb.held, hb.quiet⟩
  | outbound c => exact hb.run (.recvOutbound c) (by simp [Section.wsKey])
  | inbound c t sec rest ht hi =>
    have hr := hb.run sec (hb.quiet c t ht sec (hi ▸ List.mem_cons_self _ _))
    exact ⟨hr.pumping, hr.empty, hr.held, Mesh.forall_setConn hr.quiet fun sec' hsec' =>
      hb.quiet c t ht sec' (hi ▸ List.mem_cons_of_mem _ hsec')⟩
  | select c t ht =>
    exact ⟨hb.pumping, hb.empty, hb.held, Mesh.forall_setConn hb.quiet (hb.quiet c t ht)⟩
  | cleanup c t sec rest ht hc =>
    have hmem := ((hw.conns c t ht).cleanup_suffix _ hc).mem (List.mem_cons_self sec rest)
    simp only [removeConnection, List.mem_cons, List.mem_singleton, List.not_mem_nil,
      or_false] at hmem
    have hr := hb.run sec (by rcases hmem with rfl | rfl | rfl <;> simp [Section.wsKey])
    exact ⟨hr.pumping, hr.empty, hr.held, Mesh.forall_setConn hr.quiet (hb.quiet c t ht)⟩
  | route r t sec p ht hs =>
    rcases sec with _ | sec
    · exact ⟨hb.pumping, hb.empty, hb.held, hb.quiet⟩
    · have hr := hb.run sec (by
        rcases routeStep_section hs with ⟨_, _, rfl⟩ | rfl | ⟨_, rfl⟩ | rfl <;>
          simp [Section.wsKey])
      exact ⟨hr.pumping, hr.empty, hr.held, hr.quiet⟩
  | tunnel sid' t sec p ht hs =>
    by_cases hsid : sid' = sid
    · subst hsid
      obtain ⟨t₀, agent, ht₀, hp⟩ := hb.pumping
      rw [ht₀, Option.some.injEq] at ht
      subst ht
      simp [hp, tunnelStep, hb.empty, hb.held] at hs
    · have hm : AgentPumpBlocked sid (m.runOpt sec) := by
        rcases sec with _ | sec
        · exact ⟨hb.pumping, hb.empty, hb.held, hb.quiet⟩
        · exact hb.run sec (by rcases tunnelStep_wsKey hs with h | h <;> simp [h, hsid])
      obtain ⟨t₀, agent, ht₀, hp⟩ := hm.pumping
      exact ⟨⟨t₀, agent, by simpa [Ne.symm hsid] using ht₀, hp⟩, hm.empty, hm.held,
        hm.quiet⟩
  | _ => simp [Event.internal] at he

end

/-- Connection 1 registers; session 5 opens on it and the agent's ack arrives;
then the downstream client sends a Close. `alb_to_agent` forwards it and ends. -/
def downstreamClosed : List Event :=
  registerOnOne ++ [.upgradeRequest 5 "api.example.com" "/" [] none, .tunnel 5, .tunnel 5,
    .tunnel 5, .tunnel 5, .tunnel 5, .upgrade 5 true,
    .receive 1 (some (.webSocketProxyInitAck 5 true none none)) denyAll, .inbound 1, .tunnel 5,
    .downstream 5 (.close none)]

def downstreamClosedMesh : Mesh := (Mesh.init.execAll downstreamClosed).getD Mesh.init

/-- From a state where `alb_to_agent` has ended and `agent_to_alb` waits, no run
of the server's own steps ends `agent_to_alb` or removes the session: the
tunnel never sends its closing `WebSocketProxyClose`, and only a frame from
outside can end it. -/
theorem agent_pump_waits {m m' : Mesh} {es : List Event} {sid : Uuid} (hm : Reachable m)
    (hb : AgentPumpBlocked sid m) (h : Run m es m') (he : ∀ e ∈ es, e.internal = true) :
    sid ∈ m'.ingress.wsSessions ∧
      ∃ t agent, m'.tunnels sid = some t ∧ t.phase = .pumping agent false true := by
  have key : m'.WellFormed ∧ AgentPumpBlocked sid m' := by
    induction h with
    | nil => exact ⟨hm.wellFormed, hb⟩
    | cons hs _ ih =>
      simp only [List.mem_cons, forall_eq_or_imp] at he
      exact ih (hm.step hs) (hs.agentPumpBlocked he.1 hm.wellFormed hb) he.2
  exact ⟨key.2.held, key.2.pumping⟩

theorem agent_pump_waits_downstreamClosed :
    5 ∈ downstreamClosedMesh.ingress.wsSessions ∧
      ∃ t agent, downstreamClosedMesh.tunnels 5 = some t ∧
        t.phase = .pumping agent false true := by
  have hrun : Run Mesh.init downstreamClosed downstreamClosedMesh := Run.of_execAll rfl
  refine agent_pump_waits ⟨_, hrun⟩
    ⟨⟨⟨"api.example.com", "/", [], none, .pumping 1 false true⟩, 1, by decide, rfl⟩,
      by decide, by decide, ?_⟩ (.nil _) (by simp)
  intro c t ht sec hsec
  rcases hrun.conns_ne_none (c := c) (by simp [ht]) with h | h
  · exact absurd rfl h
  · simp [downstreamClosed, registerOnOne] at h
    subst h
    have : downstreamClosedMesh.conns 1 = some ⟨true, [], none⟩ := by decide
    simp [this] at ht
    simp [← ht] at hsec

end AnywhereMesh.Server
