import AnywhereMesh.Server.Replies

/-! Which agent hears about a tunnel session. The handler of
`start_ws_tunnel_from_alb` resolves the host once and sends the
`WebSocketProxyInit` to the connection it picked; every later message of the
session, each downstream frame from `alb_to_agent` and the close the spawned
task sends at the end, goes on a clone of that same connection's sender. A
session id is never reused, since the tunnel task stays after it ends. Proved:
in every run, all messages about one session on the server's channels toward
the agents sit on one channel, and that channel's connection sent a
registration that `match_host_to_service` accepts for the session's host. -/

namespace AnywhereMesh

/-- The tunnel session a control-channel message is about, if any. -/
def IngressMessage.sessionId : IngressMessage → Option Uuid
  | .webSocketProxyInit sid .. | .webSocketProxyInitAck sid .. | .webSocketProxyData sid ..
  | .webSocketProxyClose sid .. => some sid
  | _ => none

namespace Server

/-- The connection a tunnel has picked, from the handler's send of the init to
the task's close. -/
def TunnelPhase.agent? : TunnelPhase → Option Uuid
  | .initiating a | .registering a | .arming a | .upgrading a | .awaitingAck a
  | .pumping a _ _ | .notifying a => some a
  | _ => none

/-- The phases before the handler has sent the `WebSocketProxyInit`. -/
def TunnelPhase.beforeInit : TunnelPhase → Bool
  | .resolving | .checking _ | .initiating _ => true
  | _ => false

/-- `c` sent, during `es`, a registration that `match_host_to_service` accepts
for `host` once its id is overwritten by `c`. -/
def RegisteredFor (es : List Event) (host : String) (c : Uuid) : Prop :=
  ∃ reg, RegistrationReceived es c reg ∧ (matchHostToService host [{ reg with id := c }]).isSome

theorem RegisteredFor.append {es : List Event} {host : String} {c : Uuid}
    (h : RegisteredFor es host c) (es' : List Event) : RegisteredFor (es ++ es') host c :=
  let ⟨reg, hreg, hm⟩ := h
  ⟨reg, hreg.append es', hm⟩

/-- The registrations a tunnel read come from their connections' frames, and
the connection it picked registered for its host. -/
def TunnelPhase.Registered (es : List Event) (host : String) (ph : TunnelPhase) : Prop :=
  (∀ regs, ph = .checking regs →
    ∀ r ∈ regs, ∃ reg, RegistrationReceived es r.id reg ∧ r = { reg with id := r.id }) ∧
  ∀ a, ph.agent? = some a → RegisteredFor es host a

theorem TunnelPhase.Registered.append {es : List Event} {host : String} {ph : TunnelPhase}
    (h : ph.Registered es host) (es' : List Event) : ph.Registered (es ++ es') host :=
  ⟨fun regs hph r hr => let ⟨reg, hreg, hrr⟩ := h.1 regs hph r hr; ⟨reg, hreg.append es', hrr⟩,
    fun a ha => (h.2 a ha).append es'⟩

/-- A phase that keeps its connection or has none, and is not the host check,
is registered when the phase it came from is. -/
theorem TunnelPhase.Registered.of_agent {es : List Event} {host : String} {ph p : TunnelPhase}
    (h : ph.Registered es host) (hagent : p.agent? = ph.agent? ∨ p.agent? = none)
    (hp : ∀ regs, p ≠ .checking regs) : p.Registered es host :=
  ⟨fun regs hc => absurd hc (hp regs), fun a ha =>
    h.2 a (hagent.elim (fun he => he ▸ ha) fun hn => absurd (hn ▸ ha) nofun)⟩

/-! ### What a tunnel's step does to its connection -/

/-- Once the init is sent, a tunnel keeps its connection or drops it for good. -/
theorem tunnelStep_agent {sid : Uuid} {t : TunnelTask} {s : Ingress} {ph p : TunnelPhase}
    {sec : Option Section} (h : tunnelStep sid t s ph = some (sec, p))
    (hb : ph.beforeInit = false) :
    p.beforeInit = false ∧ (p.agent? = ph.agent? ∨ p.agent? = none) := by
  cases ph <;> simp only [TunnelPhase.beforeInit, reduceCtorEq] at hb <;>
    simp only [tunnelStep] at h <;> (repeat' split at h) <;>
    simp only [Option.some.injEq, Prod.mk.injEq, reduceCtorEq, false_and] at h <;>
    obtain ⟨-, rfl⟩ := h <;> simp_all [TunnelPhase.beforeInit, TunnelPhase.agent?]

/-- A tunnel's step reads the registrations from the registry, picks the
connection of the one `wsResolve` selects, and keeps it. -/
theorem tunnelStep_registered {es : List Event} {sid : Uuid} {t : TunnelTask} {s : Ingress}
    {ph p : TunnelPhase} {sec : Option Section} (h : tunnelStep sid t s ph = some (sec, p))
    (hph : ph.Registered es t.host)
    (hreg : ∀ c r, s.registrations.lookup c = some r →
      ∃ reg, RegistrationReceived es c reg ∧ r = { reg with id := c }) :
    p.Registered es t.host := by
  cases ph with
  | resolving =>
    cases h
    refine ⟨fun regs hc r hr => ?_, fun a ha => nomatch ha⟩
    cases hc
    obtain ⟨⟨c, r'⟩, hcr, rfl⟩ := List.mem_map.mp hr
    obtain ⟨reg, hreg, rfl⟩ := hreg c r' (AList.mem_lookup_iff.mpr hcr)
    exact ⟨reg, hreg, rfl⟩
  | checking regs =>
    cases h
    split
    · exact ⟨nofun, nofun⟩
    · exact ⟨nofun, nofun⟩
    · next sel hsel =>
      refine ⟨nofun, fun a ha => ?_⟩
      cases ha
      simp only [wsResolve] at hsel
      split at hsel
      · cases hsel
      · next hm =>
        split at hsel <;> cases hsel
        obtain ⟨hmem, hmatch⟩ := matchHostToService_spec hm
        obtain ⟨reg, hreg, hr⟩ := hph.1 regs rfl _ hmem
        exact ⟨reg, hreg, by rw [← hr, matchHostToService_singleton_isSome]; exact hmatch⟩
  | _ =>
    refine hph.of_agent ?_ ?_ <;>
      simp only [tunnelStep] at h <;> (repeat' split at h) <;>
      simp only [Option.some.injEq, Prod.mk.injEq, reduceCtorEq, false_and] at h <;>
      obtain ⟨-, rfl⟩ := h <;> simp_all [TunnelPhase.agent?]

/-- The messages a tunnel sends go to its connection and are about its session;
the send moves it past the init, keeping the connection or ending with it. -/
theorem tunnelStep_sendOn {sid : Uuid} {t : TunnelTask} {s : Ingress} {ph p : TunnelPhase}
    {c : Uuid} {msg : IngressMessage} (h : tunnelStep sid t s ph = some (some (.sendOn c msg), p)) :
    msg.sessionId = some sid ∧ ph.agent? = some c ∧ p.beforeInit = false ∧
      (p.agent? = some c ∨ p.agent? = none) := by
  cases ph <;> simp only [tunnelStep] at h <;> (repeat' split at h) <;>
    simp only [Option.some.injEq, Prod.mk.injEq, reduceCtorEq, false_and,
      Section.sendOn.injEq] at h <;>
    obtain ⟨⟨rfl, rfl⟩, rfl⟩ := h <;>
    simp_all [TunnelTask.init, IngressMessage.sessionId, TunnelPhase.agent?, TunnelPhase.beforeInit]

theorem sendOn_not_mem_handleWebsocketMessage (c : Uuid)
    (authenticate : IamAuthRequest → IamAuthResponse) (f : Option IngressMessage) (d : Uuid)
    (msg : IngressMessage) :
    Section.sendOn d msg ∉ sectionsOf (handleWebsocketMessage c authenticate f) := fun h => by
  rcases mem_handleWebsocketMessage h with ⟨_, -, h⟩ | ⟨_, -, h | h | h⟩ | h | ⟨_, -, h⟩ |
    ⟨_, -, h | h⟩ | ⟨_, _, _, _, -, h⟩ | ⟨_, _, _, -, h⟩ | ⟨_, _, _, -, h⟩ <;> cases h

/-- A frame's handler answers only with messages about no session. -/
theorem sessionId_of_sendResponse_mem {c d : Uuid}
    {authenticate : IamAuthRequest → IamAuthResponse} {f : Option IngressMessage}
    {msg : IngressMessage}
    (h : Section.sendResponse d msg ∈ sectionsOf (handleWebsocketMessage c authenticate f)) :
    msg.sessionId = none := by
  rcases mem_handleWebsocketMessage h with ⟨_, -, h⟩ | ⟨_, -, h | h | h⟩ | h | ⟨_, -, h⟩ |
    ⟨_, -, h | h⟩ | ⟨_, _, _, _, -, h⟩ | ⟨_, _, _, -, h⟩ | ⟨_, _, _, -, h⟩ <;>
    simp_all [IngressMessage.sessionId]

section

variable {m m' : Mesh} {e : Event}

/-- What a step does to the tunnels: nothing, a new tunnel for a fresh session
id, its own step, or a move that keeps its connection or drops it. -/
theorem Step.tunnels_cases (h : Step m e m') :
    m'.tunnels = m.tunnels ∨
      (∃ sid host path headers subprotocols, m.tunnels sid = none ∧
        m'.tunnels = Function.update m.tunnels sid
          (some ⟨host, path, headers, subprotocols, .resolving⟩)) ∨
      ∃ sid t p, m.tunnels sid = some t ∧
        m'.tunnels = Function.update m.tunnels sid (some { t with phase := p }) ∧
        ((∃ sec, tunnelStep sid t m.ingress t.phase = some (sec, p)) ∨
          ((t.phase.beforeInit = false → p.beforeInit = false) ∧
            (p.agent? = t.phase.agent? ∨ p.agent? = none) ∧ ∀ regs, p ≠ .checking regs)) := by
  cases h with
  | upgradeRequest sid host path headers subprotocols hn =>
    exact .inr (.inl ⟨sid, host, path, headers, subprotocols, hn, rfl⟩)
  | tunnel sid t sec p ht hs => exact .inr (.inr ⟨sid, t, p, ht, rfl, .inl ⟨sec, hs⟩⟩)
  | upgrade sid t agent ok ht hp =>
    refine .inr (.inr ⟨sid, t, _, ht, rfl, .inr ?_⟩)
    cases ok <;> simp [hp, TunnelPhase.beforeInit, TunnelPhase.agent?]
  | downstream sid t agent b f ht hp =>
    refine .inr (.inr ⟨sid, t, _, ht, rfl, .inr ?_⟩)
    simp [hp, TunnelPhase.beforeInit, TunnelPhase.agent?]
  | downstreamWriteFail sid t agent a fr q ht hp =>
    refine .inr (.inr ⟨sid, t, _, ht, rfl, .inr ?_⟩)
    simp [hp, TunnelPhase.beforeInit, TunnelPhase.agent?]
  | dropTunnel sid t ht =>
    exact .inr (.inr ⟨sid, t, .dropped, ht, rfl, .inr ⟨fun _ => rfl, .inr rfl, nofun⟩⟩)
  | _ => exact .inl rfl

/-- A tunnel past its init stays past it, keeping its connection or none. -/
theorem Step.tunnel_follows (h : Step m e m') {sid : Uuid} {t : TunnelTask}
    (ht : m.tunnels sid = some t) (hb : t.phase.beforeInit = false) :
    ∃ t', m'.tunnels sid = some t' ∧ t'.host = t.host ∧ t'.phase.beforeInit = false ∧
      (t'.phase.agent? = t.phase.agent? ∨ t'.phase.agent? = none) := by
  rcases h.tunnels_cases with he | ⟨sid', _, _, _, _, hn, he⟩ | ⟨sid', t₀, p, h₀, he, hmove⟩ <;>
    rw [he]
  · exact ⟨t, ht, rfl, hb, .inl rfl⟩
  · have hne : sid ≠ sid' := by rintro rfl; simp [ht] at hn
    exact ⟨t, by rw [Function.update_noteq hne, ht], rfl, hb, .inl rfl⟩
  · by_cases hs : sid = sid'
    · subst hs
      rw [ht, Option.some.injEq] at h₀
      subst h₀
      refine ⟨_, Function.update_same _ _ _, rfl, ?_⟩
      rcases hmove with ⟨sec, hstep⟩ | ⟨hbp, hagent, -⟩
      · exact tunnelStep_agent hstep hb
      · exact ⟨hbp hb, hagent⟩
    · exact ⟨t, by rw [Function.update_noteq hs, ht], rfl, hb, .inl rfl⟩

/-- A message about session `sid` on a channel after a step was there before,
or the step is a send of the tunnel of `sid` to the connection it picked, which
moves the tunnel past its init, keeping that connection or none. -/
theorem Step.session_cases (h : Step m e m') (hw : m.WellFormed) {c sid : Uuid}
    {msg : IngressMessage} (hm : msg ∈ (m'.ingress.outbound c).getD [])
    (hs : msg.sessionId = some sid) :
    msg ∈ (m.ingress.outbound c).getD [] ∨
      ∃ t p, m.tunnels sid = some t ∧ t.phase.agent? = some c ∧
        m'.tunnels sid = some { t with phase := p } ∧ p.beforeInit = false ∧
        (p.agent? = some c ∨ p.agent? = none) := by
  rcases h.section_cases hw with he | he | ⟨d, he⟩ | ⟨sec, he, hsrc⟩ <;> rw [he] at hm
  · exact .inl hm
  · exact .inl hm
  · left
    by_cases hc : c = d
    · subst hc; simp [Section.apply] at hm
    · simpa [Section.apply, Function.update_noteq hc] using hm
  rcases sec.mem_outbound_apply _ hm with hm | rfl | rfl
  · exact .inl hm
  · cases hsrc with
    | handler _ _ hh => simp [sessionId_of_sendResponse_mem hh] at hs
    | cleanup hc => simp [removeConnection] at hc
    | route _ hr _ => rcases routeStep_section hr with ⟨_, _, h⟩ | h | ⟨_, h⟩ | h <;> cases h
    | tunnel _ ht _ =>
      rcases tunnelStep_section ht with ⟨_, _, h⟩ | ⟨_, h⟩ | h | h | h | h <;> cases h
  · cases hsrc with
    | handler _ _ hh => exact absurd hh (sendOn_not_mem_handleWebsocketMessage _ _ _ _ _)
    | cleanup hc => simp [removeConnection] at hc
    | route _ hr _ =>
      rcases routeStep_section hr with ⟨_, _, h⟩ | h | ⟨_, h⟩ | h <;> cases h
      simp [IngressMessage.sessionId] at hs
    | @tunnel sid' t _ p ht hstep he =>
      obtain ⟨hsid, hagent, hb, hp⟩ := tunnelStep_sendOn hstep
      obtain rfl : sid' = sid := Option.some.inj (hsid.symm.trans hs)
      exact .inr ⟨t, p, ht, hagent, by rw [he, Function.update_same], hb, hp⟩
    | @downstream sid' t _ b f _ ht hp hmsg he =>
      have hsid : sid' = sid := by
        cases f <;> simp only [albToAgentMessage, wsFrameMessage, Option.some.injEq,
          reduceCtorEq] at hmsg <;> subst hmsg <;> simpa [IngressMessage.sessionId] using hs
      subst hsid
      exact .inr ⟨t, .pumping _ f.continues b, ht, by simp [hp, TunnelPhase.agent?],
        by rw [he, Function.update_same], rfl, by simp [TunnelPhase.agent?]⟩

end

/-! ### Sessions over runs -/

/-- Every registration stored comes from its connection's frame; every tunnel
is registered; every message about a session sits on the channel of a
connection registered for the session's host, which the session's tunnel, past
its init, still holds or has let go of; and two messages about one session sit
on one channel. -/
structure SessionsRouted (es : List Event) (m : Mesh) : Prop where
  registrations : RegistrationsFromFrames es m
  tunnels : ∀ sid t, m.tunnels sid = some t → t.phase.Registered es t.host
  messages : ∀ c msg sid, msg ∈ (m.ingress.outbound c).getD [] → msg.sessionId = some sid →
    ∃ t, m.tunnels sid = some t ∧ t.phase.beforeInit = false ∧
      (t.phase.agent? = some c ∨ t.phase.agent? = none) ∧ RegisteredFor es t.host c
  oneChannel : ∀ c d msg msg' sid, msg ∈ (m.ingress.outbound c).getD [] →
    msg.sessionId = some sid → msg' ∈ (m.ingress.outbound d).getD [] →
    msg'.sessionId = some sid → c = d

/-- A message about a session sits on the channel of the connection its tunnel holds. -/
theorem SessionsRouted.channel_eq_agent {es : List Event} {m : Mesh} (hq : SessionsRouted es m)
    {c sid a : Uuid} {msg : IngressMessage} {t : TunnelTask}
    (hm : msg ∈ (m.ingress.outbound c).getD []) (hs : msg.sessionId = some sid)
    (ht : m.tunnels sid = some t) (ha : t.phase.agent? = some a) : c = a := by
  obtain ⟨t₀, ht₀, -, hc, -⟩ := hq.messages c msg sid hm hs
  rw [ht, Option.some.injEq] at ht₀
  subst ht₀
  rcases hc with hc | hc <;> rw [ha] at hc
  exacts [(Option.some.inj hc).symm, nomatch hc]

theorem Step.sessionsRouted {m m' : Mesh} {e : Event} {es : List Event} (h : Step m e m')
    (hw : m.WellFormed) (hq : SessionsRouted es m) : SessionsRouted (es ++ [e]) m' where
  registrations := h.registrationsFromFrames hw hq.registrations
  tunnels := by
    have old : ∀ sid t, m.tunnels sid = some t → t.phase.Registered (es ++ [e]) t.host :=
      fun sid t ht => (hq.tunnels sid t ht).append _
    rcases h.tunnels_cases with he | ⟨sid, _, _, _, _, -, he⟩ | ⟨sid, t, p, ht, he, hmove⟩ <;>
      rw [he]
    · exact old
    · exact Mesh.forall_setTunnel (m := m) old ⟨nofun, nofun⟩
    · refine Mesh.forall_setTunnel (m := m) old ?_
      rcases hmove with ⟨sec, hstep⟩ | ⟨-, hagent, hp⟩
      · exact (tunnelStep_registered hstep (hq.tunnels sid t ht) hq.registrations.stored).append _
      · exact (old sid t ht).of_agent hagent hp
  messages c msg sid hm hs := by
    rcases h.session_cases hw hm hs with hm | ⟨t, p, ht, hagent, ht', hb, hp⟩
    · obtain ⟨t, ht, hb, hc, hreg⟩ := hq.messages c msg sid hm hs
      obtain ⟨t', ht', hhost, hb', hagent'⟩ := h.tunnel_follows ht hb
      refine ⟨t', ht', hb', ?_, hhost ▸ hreg.append _⟩
      rcases hagent' with he | he
      · exact he ▸ hc
      · exact .inr he
    · exact ⟨_, ht', hb, hp, ((hq.tunnels sid t ht).2 c hagent).append _⟩
  oneChannel c d msg msg' sid hm hs hm' hs' := by
    rcases h.session_cases hw hm hs with hm | ⟨t, -, ht, hc, -⟩ <;>
      rcases h.session_cases hw hm' hs' with hm' | ⟨t', -, ht', hd, -⟩
    · exact hq.oneChannel c d msg msg' sid hm hs hm' hs'
    · exact hq.channel_eq_agent hm hs ht' hd
    · exact (hq.channel_eq_agent hm' hs' ht hc).symm
    · rw [ht, Option.some.injEq] at ht'
      subst ht'
      exact Option.some.inj (hc.symm.trans hd)

theorem Run.sessionsRouted {m m' : Mesh} {es es' : List Event} (h : Run m es' m')
    (hw : m.WellFormed) (hq : SessionsRouted es m) :
    m'.WellFormed ∧ SessionsRouted (es ++ es') m' := by
  induction h generalizing es with
  | nil => simpa using And.intro hw hq
  | @cons m₁ m₂ m₃ e es₁ hs _ ih =>
    simpa using ih (hs.wellFormed hw) (hs.sessionsRouted hw hq)

/-- In every run of the server, the messages about one tunnel session on the
server's channels toward the agents all sit on one channel, and that channel's
connection sent, during the run, a registration that `match_host_to_service`
accepts for the session's host. -/
theorem session_messages_one_agent {es : List Event} {m : Mesh} (h : Run Mesh.init es m)
    {c sid : Uuid} {msg : IngressMessage} (hm : msg ∈ (m.ingress.outbound c).getD [])
    (hs : msg.sessionId = some sid) :
    ∃ t, m.tunnels sid = some t ∧
      (∀ d msg', msg' ∈ (m.ingress.outbound d).getD [] → msg'.sessionId = some sid → d = c) ∧
      ∃ reg authenticate, Event.receive c (some (.serviceRegistration reg)) authenticate ∈ es ∧
        (matchHostToService t.host [{ reg with id := c }]).isSome := by
  have hinit : SessionsRouted [] Mesh.init :=
    ⟨⟨fun _ _ h => by simp [Mesh.init, Ingress.init] at h, fun _ _ h => (nomatch h)⟩,
      fun _ _ h => (nomatch h), fun _ _ _ h => by simp [Mesh.init, Ingress.init] at h,
      fun _ _ _ _ _ h => by simp [Mesh.init, Ingress.init] at h⟩
  have hr := (h.sessionsRouted Mesh.wellFormed_init hinit).2
  obtain ⟨t, ht, -, -, reg, ⟨a, ha⟩, hmatch⟩ := hr.messages c msg sid hm hs
  exact ⟨t, ht, fun d msg' hm' hs' => hr.oneChannel d c msg' msg sid hm' hs' hm hs,
    reg, a, by simpa using ha, hmatch⟩

/-- Connection 1 registers `api.example.com`; an upgrade for that host opens
session 5, whose handler sends the `WebSocketProxyInit` to connection 1. -/
def initQueued : List Event :=
  registerOnOne ++ [.upgradeRequest 5 "api.example.com" "/" [] none, .tunnel 5, .tunnel 5,
    .tunnel 5]

def initQueuedMesh : Mesh := (Mesh.init.execAll initQueued).getD Mesh.init

theorem session_messages_one_agent_init :
    IngressMessage.webSocketProxyInit 5 "api.example.com" "/" [] none ∈
        (initQueuedMesh.ingress.outbound 1).getD [] ∧
      (IngressMessage.webSocketProxyInit 5 "api.example.com" "/" [] none).sessionId = some 5 ∧
      ∃ t, initQueuedMesh.tunnels 5 = some t ∧
        (∀ d msg', msg' ∈ (initQueuedMesh.ingress.outbound d).getD [] →
          msg'.sessionId = some 5 → d = 1) ∧
        ∃ reg authenticate,
          Event.receive 1 (some (.serviceRegistration reg)) authenticate ∈ initQueued ∧
            (matchHostToService t.host [{ reg with id := 1 }]).isSome :=
  ⟨by decide, rfl, @session_messages_one_agent initQueued initQueuedMesh
    (Run.of_execAll (show Mesh.init.execAll initQueued = some initQueuedMesh from rfl)) 1 5
    (.webSocketProxyInit 5 "api.example.com" "/" [] none) (by decide) rfl⟩

end Server

end AnywhereMesh
