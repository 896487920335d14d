import AnywhereMesh.Server.Replies
import AnywhereMesh.Server.Sessions

/-! What reaches the downstream socket of a tunnel. `agent_to_alb` writes the
frames of the session's channel, and only `handle_ws_proxy_data_from_agent` and
`handle_ws_proxy_close_from_agent` put frames there: each takes a frame from any
connection and looks the session up by the id the frame carries.
`WsSession.agent_connection_id` is written and never read. Proved: in every run,
each frame on a session's channel is the decoded payload of a `WebSocketProxyData`
frame, or the close of a `WebSocketProxyClose` frame, that names the session and
that some connection sent during the run. Which connection sent it is never
checked: any connection that knows an open session id can write to its client. -/

namespace AnywhereMesh.Server

/-! ### Sections and steps -/

/-- A frame on a session's channel after a section was there before, or the
section is the handler of the agent's frame that carried it. -/
theorem Section.mem_albOut_apply (sec : Section) (s : Ingress) {sid : Uuid}
    {f : AlbOutboundFrame} (hf : f ∈ (sec.apply s).albOut sid) :
    f ∈ s.albOut sid ∨
      (∃ frameType payload, sec = .handleWsProxyDataFromAgent sid frameType payload ∧
        albFrameOf frameType payload = some f) ∨
      ∃ code reason, sec = .handleWsProxyCloseFromAgent sid code reason ∧
        f = .close code reason := by
  refine if hk : sec.wsKey = some sid then ?_ else .inl ((sec.albOut_apply s hk).1 ▸ hf)
  cases sec <;> simp only [Section.wsKey, reduceCtorEq, Option.some.injEq] at hk <;> subst hk <;>
    simp only [Section.apply] at hf
  case handleWsProxyDataFromAgent frameType payload =>
    split at hf
    · simp only [Function.update_same, List.mem_append, List.mem_singleton] at hf
      rcases hf with hf | rfl
      · exact .inl hf
      · exact .inr (.inl ⟨frameType, payload, rfl, by assumption⟩)
    · exact .inl hf
  case handleWsProxyCloseFromAgent code reason =>
    split at hf
    · simp only [Function.update_same, List.mem_append, List.mem_singleton] at hf
      exact hf.imp_right fun hf => .inr ⟨code, reason, rfl, hf⟩
    · exact .inl hf
  case recvAlbOut => exact .inl (List.mem_of_mem_tail (by simpa using hf))
  case handleWsProxyInitAck => exact .inl (by split at hf <;> exact hf)
  all_goals exact .inl hf

/-- The handler of a frame queues a data section for `sid` only for a
`WebSocketProxyData` frame naming `sid`. -/
theorem dataFromAgent_mem_handleWebsocketMessage {c sid : Uuid}
    {authenticate : IamAuthRequest → IamAuthResponse} {f : Option IngressMessage}
    {frameType : String} {payload : Option String}
    (h : Section.handleWsProxyDataFromAgent sid frameType payload ∈
      sectionsOf (handleWebsocketMessage c authenticate f)) :
    f = some (.webSocketProxyData sid frameType payload) := by
  rcases mem_handleWebsocketMessage h with ⟨_, -, h⟩ | ⟨_, -, h | h | h⟩ | h | ⟨_, -, h⟩ |
    ⟨_, -, h | h⟩ | ⟨_, _, _, _, -, h⟩ | ⟨_, _, _, rfl, h⟩ | ⟨_, _, _, -, h⟩ <;> simp_all

/-- The handler of a frame queues a close section for `sid` only for a
`WebSocketProxyClose` frame naming `sid`. -/
theorem closeFromAgent_mem_handleWebsocketMessage {c sid : Uuid}
    {authenticate : IamAuthRequest → IamAuthResponse} {f : Option IngressMessage}
    {code : Option UInt16} {reason : Option String}
    (h : Section.handleWsProxyCloseFromAgent sid code reason ∈
      sectionsOf (handleWebsocketMessage c authenticate f)) :
    f = some (.webSocketProxyClose sid code reason) := by
  rcases mem_handleWebsocketMessage h with ⟨_, -, h⟩ | ⟨_, -, h | h | h⟩ | h | ⟨_, -, h⟩ |
    ⟨_, -, h | h⟩ | ⟨_, _, _, _, -, h⟩ | ⟨_, _, _, -, h⟩ | ⟨_, _, _, rfl, h⟩ <;> simp_all

section

variable {m m' : Mesh} {e : Event}

/-- A frame on a session's channel after a step was there before, or the step
ran, from the head of some connection's queue, the handler of the frame that
carried it. -/
theorem Step.albOut_cases (h : Step m e m') (hw : m.WellFormed) {sid : Uuid}
    {f : AlbOutboundFrame} (hf : f ∈ m'.ingress.albOut sid) :
    f ∈ m.ingress.albOut sid ∨ ∃ c t sec rest, m.conns c = some t ∧ t.inbound = sec :: rest ∧
      ((∃ frameType payload, sec = .handleWsProxyDataFromAgent sid frameType payload ∧
          albFrameOf frameType payload = some f) ∨
        ∃ code reason, sec = .handleWsProxyCloseFromAgent sid code reason ∧
          f = .close code reason) := by
  rcases h.section_cases hw with he | he | ⟨c, he⟩ | ⟨sec, he, hsrc⟩ <;> rw [he] at hf
  · exact .inl hf
  · exact .inl hf
  · exact .inl hf
  rcases sec.mem_albOut_apply _ hf with hf | hd
  · exact .inl hf
  · obtain ⟨c, t, rest, ht, hi⟩ := hsrc.inbound_of_handlesAgentFrame
      (by rcases hd with ⟨_, _, rfl, -⟩ | ⟨_, _, rfl, -⟩ <;> rfl)
    exact .inr ⟨c, t, sec, rest, ht, hi, hd⟩

end

/-! ### Frames over runs -/

/-- `f` is what a frame naming session `sid` that some connection sent during
`es` puts on the session's channel. -/
def FrameReceived (es : List Event) (sid : Uuid) (f : AlbOutboundFrame) : Prop :=
  ∃ c authenticate,
    (∃ frameType payload,
      Event.receive c (some (.webSocketProxyData sid frameType payload)) authenticate ∈ es ∧
        albFrameOf frameType payload = some f) ∨
    ∃ code reason,
      Event.receive c (some (.webSocketProxyClose sid code reason)) authenticate ∈ es ∧
        f = .close code reason

/-- Every frame handler queued on an inbound task came in a frame received
during `es`, and every frame on a session's channel is what one put there. -/
structure FramesFrom (es : List Event) (m : Mesh) : Prop where
  queuedData : ∀ c t sid frameType payload, m.conns c = some t →
    .handleWsProxyDataFromAgent sid frameType payload ∈ t.inbound →
    ∃ authenticate,
      Event.receive c (some (.webSocketProxyData sid frameType payload)) authenticate ∈ es
  queuedClose : ∀ c t sid code reason, m.conns c = some t →
    .handleWsProxyCloseFromAgent sid code reason ∈ t.inbound →
    ∃ authenticate,
      Event.receive c (some (.webSocketProxyClose sid code reason)) authenticate ∈ es
  albOut : ∀ sid f, f ∈ m.ingress.albOut sid → FrameReceived es sid f

theorem FrameReceived.mono {es es' : List Event} (hes : ∀ e ∈ es, e ∈ es') {sid : Uuid}
    {f : AlbOutboundFrame} (h : FrameReceived es sid f) : FrameReceived es' sid f :=
  let ⟨c, a, h⟩ := h
  ⟨c, a, h.imp (fun ⟨ft, p, he, hf⟩ => ⟨ft, p, hes _ he, hf⟩)
    fun ⟨code, reason, he, hf⟩ => ⟨code, reason, hes _ he, hf⟩⟩

theorem Step.framesFrom {m m' : Mesh} {e : Event} {es : List Event} (h : Step m e m')
    (hw : m.WellFormed) (hq : FramesFrom es m) : FramesFrom (es ++ [e]) m' where
  queuedData c t' sid frameType payload ht' hs := by
    rcases h.mem_inbound ht' hs with ⟨t, ht, hs⟩ | ⟨f, a, rfl, hs⟩
    · obtain ⟨a, he⟩ := hq.queuedData c t sid frameType payload ht hs
      exact ⟨a, List.mem_append_left _ he⟩
    · exact ⟨a, by simp [dataFromAgent_mem_handleWebsocketMessage hs]⟩
  queuedClose c t' sid code reason ht' hs := by
    rcases h.mem_inbound ht' hs with ⟨t, ht, hs⟩ | ⟨f, a, rfl, hs⟩
    · obtain ⟨a, he⟩ := hq.queuedClose c t sid code reason ht hs
      exact ⟨a, List.mem_append_left _ he⟩
    · exact ⟨a, by simp [closeFromAgent_mem_handleWebsocketMessage hs]⟩
  albOut sid f hf := by
    rcases h.albOut_cases hw hf with hf | ⟨c, t, sec, rest, ht, hi, ⟨ft, p, rfl, hfr⟩ |
      ⟨code, reason, rfl, rfl⟩⟩
    · exact (hq.albOut sid f hf).mono fun _ he => List.mem_append_left _ he
    · obtain ⟨a, he⟩ := hq.queuedData c t sid ft p ht (hi ▸ List.mem_cons_self _ _)
      exact ⟨c, a, .inl ⟨ft, p, List.mem_append_left _ he, hfr⟩⟩
    · obtain ⟨a, he⟩ := hq.queuedClose c t sid code reason ht (hi ▸ List.mem_cons_self _ _)
      exact ⟨c, a, .inr ⟨code, reason, List.mem_append_left _ he, rfl⟩⟩

theorem Run.framesFrom {m m' : Mesh} {es es' : List Event} (h : Run m es' m')
    (hw : m.WellFormed) (hq : FramesFrom es m) : m'.WellFormed ∧ FramesFrom (es ++ es') m' := by
  induction h generalizing es with
  | nil => simpa using And.intro hw hq
  | @cons m₁ m₂ m₃ e es₁ hs _ ih =>
    simpa using ih (hs.wellFormed hw) (hs.framesFrom hw hq)

/-- In every run of the server, each frame on a session's downstream channel is
the decoded payload of a `WebSocketProxyData` frame naming the session, or the
close of a `WebSocketProxyClose` frame naming it, that some connection sent
during the run. -/
theorem session_frame_received {es : List Event} {m : Mesh} (h : Run Mesh.init es m)
    {sid : Uuid} {f : AlbOutboundFrame} (hf : f ∈ m.ingress.albOut sid) :
    ∃ c authenticate,
      (∃ frameType payload,
        Event.receive c (some (.webSocketProxyData sid frameType payload)) authenticate ∈ es ∧
          albFrameOf frameType payload = some f) ∨
      ∃ code reason,
        Event.receive c (some (.webSocketProxyClose sid code reason)) authenticate ∈ es ∧
          f = .close code reason := by
  have hinit : FramesFrom [] Mesh.init :=
    ⟨fun _ _ _ _ _ h => (nomatch h), fun _ _ _ _ _ h => (nomatch h), fun _ _ h => (nomatch h)⟩
  simpa using (h.framesFrom Mesh.wellFormed_init hinit).2.albOut sid f hf

/-- Connection 1 registers and an upgrade opens session 5 to it; connection 2,
which never registered, writes a text frame to the session's client. -/
def injectedFrame : List Event :=
  registerOnOne ++ [.upgradeRequest 5 "api.example.com" "/" [] none, .tunnel 5, .tunnel 5,
    .tunnel 5, .tunnel 5, .accept 2,
    .receive 2 (some (.webSocketProxyData 5 "text" (some "hi"))) denyAll, .inbound 2]

def injectedFrameMesh : Mesh := (Mesh.init.execAll injectedFrame).getD Mesh.init

theorem session_frame_received_foreign :
    injectedFrameMesh.ingress.wsSessions.lookup 5 = some ⟨1⟩ ∧
      injectedFrameMesh.ingress.registrations.lookup 2 = none ∧
      ∃ c authenticate,
        (∃ frameType payload,
          Event.receive c (some (.webSocketProxyData 5 frameType payload)) authenticate ∈
            injectedFrame ∧ albFrameOf frameType payload = some (.text "hi")) ∨
        ∃ code reason,
          Event.receive c (some (.webSocketProxyClose 5 code reason)) authenticate ∈
            injectedFrame ∧ AlbOutboundFrame.text "hi" = .close code reason :=
  ⟨by decide, by decide, session_frame_received
    (Run.of_execAll (show Mesh.init.execAll injectedFrame = some injectedFrameMesh from rfl))
    (show AlbOutboundFrame.text "hi" ∈ injectedFrameMesh.ingress.albOut 5 by decide)⟩

end AnywhereMesh.Server
