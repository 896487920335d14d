import AnywhereMesh.Server.Sessions

/-! How the task that `start_ws_tunnel_from_alb` spawns for a session ends. A
failed init ack, a dropped waiter and the end of both pumps all lead to the
task's two cleanup sections, which remove the waiter and then the session; no
other task inserts a waiter for the session, so the task ends with neither
entry left. A failed `hyper::upgrade::on` only logs: the task ends there, with
the session and the waiter the handler inserted still in their tables. -/

namespace AnywhereMesh.Server

/-- While the tunnel of `sid` is about to remove its session, its waiter is gone. -/
def WaiterReleased (m : Mesh) : Prop :=
  ∀ sid t, m.tunnels sid = some t → t.phase = .releasingSession →
    sid ∉ m.ingress.wsInitWaiters

theorem Section.not_mem_wsInitWaiters_apply (sec : Section) (s : Ingress) {sid : Uuid}
    (h : sec ≠ .insertWaiter sid) (hs : sid ∉ s.wsInitWaiters) :
    sid ∉ (sec.apply s).wsInitWaiters := by
  cases sec
  case insertWaiter sid' =>
    have hne : sid ≠ sid' := by rintro rfl; exact h rfl
    simpa [apply, AList.mem_insert, hne] using hs
  all_goals simp only [apply]; (repeat' split) <;> simp_all [AList.mem_erase, Ingress.send]

/-- A tunnel enters the session's removal only by removing the waiter. -/
theorem tunnelStep_releasingSession {sid : Uuid} {t : TunnelTask} {s : Ingress}
    {ph : TunnelPhase} {sec : Option Section}
    (h : tunnelStep sid t s ph = some (sec, .releasingSession)) :
    sec = some (.removeWaiter sid) := by
  cases ph <;> simp only [tunnelStep] at h <;> (repeat' split at h) <;>
    simp_all

/-- A tunnel finishes on its own only by removing the session. -/
theorem tunnelStep_finished {sid : Uuid} {t : TunnelTask} {s : Ingress} {ph : TunnelPhase}
    {sec : Option Section} (h : tunnelStep sid t s ph = some (sec, .finished)) :
    ph = .releasingSession ∧ sec = some (.removeSession sid) := by
  cases ph <;> simp only [tunnelStep] at h <;> (repeat' split at h) <;>
    simp_all

section

variable {m m' : Mesh} {e : Event}

theorem WaiterReleased.run (hc : WaiterReleased m) (sec : Section)
    (hsec : ∀ sid, sec ≠ .insertWaiter sid) : WaiterReleased (m.run sec) :=
  fun sid t ht hp => sec.not_mem_wsInitWaiters_apply _ (hsec sid) (hc sid t ht hp)

theorem WaiterReleased.runOpt (hc : WaiterReleased m) (o : Option Section)
    (hsec : ∀ sec ∈ o, ∀ sid, sec ≠ .insertWaiter sid) : WaiterReleased (m.runOpt o) := by
  rcases o with _ | sec
  · exact hc
  · exact hc.run sec (hsec sec rfl)

/-- Giving one tunnel a new task keeps the others' facts, and needs its own. -/
theorem WaiterReleased.setTunnel {sid : Uuid} {t : TunnelTask} (hc : WaiterReleased m)
    (hself : t.phase = .releasingSession → sid ∉ m.ingress.wsInitWaiters) :
    WaiterReleased (m.setTunnel sid t) :=
  Mesh.forall_setTunnel (P := fun sid t =>
    t.phase = .releasingSession → sid ∉ m.ingress.wsInitWaiters) hc hself

theorem Step.waiterReleased (h : Step m e m') (hw : m.WellFormed) (hc : WaiterReleased m) :
    WaiterReleased m' := by
  cases h with
  | accept c => exact fun sid t ht hp =>
      Section.not_mem_wsInitWaiters_apply (.registerConnection c) _ (by simp) (hc sid t ht hp)
  | writeFail c => exact hc.run (.closeOutbound c) (by simp)
  | outbound c => exact hc.run (.recvOutbound c) (by simp)
  | inbound c t sec rest ht hi =>
    obtain ⟨f, a, hs⟩ := (hw.conns c t ht).inbound_handled
    exact hc.run sec
      (insert_not_mem_handleWebsocketMessage c a f sec (hs.mem (hi ▸ List.mem_cons_self _ _))).2
  | cleanup c t sec rest ht hcl =>
    have hmem := ((hw.conns c t ht).cleanup_suffix _ hcl).mem (List.mem_cons_self sec rest)
    simp only [removeConnection, List.mem_cons, List.mem_singleton, List.not_mem_nil,
      or_false] at hmem
    exact hc.run sec (by rcases hmem with rfl | rfl | rfl <;> simp)
  | route r t sec p ht hs =>
    refine hc.runOpt sec fun x hx => ?_
    rcases routeStep_section (Option.mem_def.mp hx ▸ hs) with
      ⟨_, _, rfl⟩ | rfl | ⟨_, rfl⟩ | rfl <;> simp
  | upgradeRequest sid host path headers subprotocols hnone =>
    exact hc.setTunnel (by simp)
  | tunnel sid t sec p ht hs =>
    intro sid' t' ht' hp'
    by_cases hsid : sid' = sid
    · subst hsid
      simp only [Mesh.setTunnel_tunnels_self, Option.some.injEq] at ht'
      subst ht'
      rw [show p = .releasingSession from hp'] at hs
      rw [tunnelStep_releasingSession hs]
      simp [Section.apply, AList.mem_erase]
    · /- another tunnel's step inserts at most its own waiter -/
      rw [Mesh.setTunnel_tunnels_ne _ _ hsid] at ht'
      rcases sec with _ | sec
      · exact hc sid' t' ht' hp'
      · refine sec.not_mem_wsInitWaiters_apply _ ?_ (hc sid' t' ht' hp')
        rcases tunnelStep_section hs with ⟨_, _, rfl⟩ | ⟨_, rfl⟩ | rfl | rfl | rfl | rfl <;>
          simp [Ne.symm hsid]
  | upgrade sid t agent ok => exact hc.setTunnel (by cases ok <;> simp)
  | downstream sid t agent b f =>
    refine (hc.runOpt _ fun x hx => ?_).setTunnel (by simp)
    obtain ⟨_, -, rfl⟩ := Option.mem_map.mp hx
    simp
  | downstreamWriteFail sid t agent a =>
    exact (hc.run (.recvAlbOut sid) (by simp)).setTunnel (by simp)
  | dropTunnel sid t => exact hc.setTunnel (by simp)
  | _ => exact hc

end

theorem Reachable.waiterReleased {m : Mesh} (h : Reachable m) : m.WellFormed ∧ WaiterReleased m :=
  h.invariant (P := fun m => m.WellFormed ∧ WaiterReleased m)
    ⟨Mesh.wellFormed_init, fun _ _ ht => by simp [Mesh.init] at ht⟩
    fun _ _ _ hm hs => ⟨hs.wellFormed hm.1, hs.waiterReleased hm.1 hm.2⟩

/-! ### How the task ends -/

/-- When the task of `sid` finishes by a step of its own, which it takes after a
refused init ack, a dropped waiter, or the end of both pumps, neither the
session nor the waiter of `sid` is left. -/
theorem tunnel_finishes_clean {m m' : Mesh} (h : Reachable m) {sid : Uuid}
    (hs : Step m (.tunnel sid) m') (hfin : (m'.tunnels sid).map TunnelTask.phase = some .finished) :
    sid ∉ m'.ingress.wsSessions ∧ sid ∉ m'.ingress.wsInitWaiters := by
  cases hs with
  | tunnel _ t sec p ht hstep =>
    simp only [Mesh.setTunnel_tunnels_self, Option.map_some', Option.some.injEq] at hfin
    subst hfin
    obtain ⟨hph, rfl⟩ := tunnelStep_finished hstep
    have hw := h.waiterReleased.2 sid t ht hph
    simpa [Section.apply, AList.mem_erase] using hw

/-- Connection 1 registers; an upgrade for its host opens session 5, the
downstream upgrade succeeds and the agent refuses the session; the task then
takes its cleanup steps. -/
def ackRefused : List Event :=
  registerOnOne ++ [.upgradeRequest 5 "api.example.com" "/" [] none, .tunnel 5, .tunnel 5,
    .tunnel 5, .tunnel 5, .tunnel 5, .upgrade 5 true,
    .receive 1 (some (.webSocketProxyInitAck 5 false (some "refused") none)) denyAll, .inbound 1,
    .tunnel 5, .tunnel 5]

def ackRefusedMesh : Mesh := (Mesh.init.execAll ackRefused).getD Mesh.init

theorem tunnel_finishes_clean_ackRefused :
    5 ∉ ((ackRefusedMesh.exec (.tunnel 5)).getD Mesh.init).ingress.wsSessions ∧
      5 ∉ ((ackRefusedMesh.exec (.tunnel 5)).getD Mesh.init).ingress.wsInitWaiters :=
  tunnel_finishes_clean ⟨ackRefused, Run.of_execAll rfl⟩ (Step.of_exec rfl) rfl

/-- The same session, but `hyper::upgrade::on` fails. -/
def upgradeFailed : List Event :=
  registerOnOne ++ [.upgradeRequest 5 "api.example.com" "/" [] none, .tunnel 5, .tunnel 5,
    .tunnel 5, .tunnel 5, .tunnel 5, .upgrade 5 false]

def upgradeFailedMesh : Mesh := (Mesh.init.execAll upgradeFailed).getD Mesh.init

/-- The task has finished, and the session and its waiter are still there. -/
theorem upgrade_failure_keeps_entries :
    Reachable upgradeFailedMesh ∧
      (upgradeFailedMesh.tunnels 5).map TunnelTask.phase = some .finished ∧
      5 ∈ upgradeFailedMesh.ingress.wsSessions ∧
      5 ∈ upgradeFailedMesh.ingress.wsInitWaiters :=
  ⟨⟨upgradeFailed, Run.of_execAll rfl⟩, rfl, by decide, by decide⟩

end AnywhereMesh.Server
