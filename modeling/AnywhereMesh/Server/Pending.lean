import AnywhereMesh.Server.Registration

/-! The router's pending table over whole runs. `route_request` inserts its
request's entry before it forwards the request and waits; the entry leaves
either when `handle_response` takes it to deliver a reply, or when the task
itself removes it after a failed send, a closed channel or a timeout. The table
therefore agrees with the route tasks at every reachable state, with one way
for an entry to outlive its task: hyper drops the future while it waits, and no
drop guard removes the entry. A reply that comes while the task waits is always
delivered to it. -/

namespace AnywhereMesh.Server

/-! ### Sections that touch the pending table -/

def Section.touchesPending : Section → Bool
  | .insertPending _ | .removePending _ | .handleResponse _ => true
  | _ => false

theorem Section.pending_apply (sec : Section) (h : sec.touchesPending = false) (s : Ingress) :
    (sec.apply s).pendingRequests = s.pendingRequests ∧ (sec.apply s).replies = s.replies := by
  cases sec <;> simp [touchesPending] at h <;> simp only [apply] <;> (repeat' split) <;>
    simp [Ingress.send]

/-- The only section of a frame's handler that touches the pending table is
`handle_response`. -/
theorem touchesPending_of_mem_handleWebsocketMessage (c : Uuid)
    (authenticate : IamAuthRequest → IamAuthResponse) (f : Option IngressMessage) :
    ∀ sec ∈ sectionsOf (handleWebsocketMessage c authenticate f),
      sec.touchesPending = false ∨ ∃ resp, sec = .handleResponse resp := fun sec h => by
  rcases mem_handleWebsocketMessage h with ⟨_, rfl, rfl⟩ | ⟨_, rfl, rfl | rfl | rfl⟩ | rfl |
    ⟨_, rfl, rfl⟩ | ⟨_, rfl, rfl | rfl⟩ | ⟨_, _, _, _, rfl, rfl⟩ | ⟨_, _, _, rfl, rfl⟩ |
    ⟨_, _, _, rfl, rfl⟩ <;> simp [Section.touchesPending]

/-- A route task's sections touch the pending table and the reply slots under
its own request's id only. -/
theorem routeStep_pending_ne {req : ProxyRequest} {s : Ingress} {ph p : RoutePhase}
    {sec : Option Section} (h : routeStep req s ph = some (sec, p)) {r : Uuid} (hr : r ≠ req.id) :
    (r ∈ (Section.applyOpt sec s).pendingRequests ↔ r ∈ s.pendingRequests) ∧
      (Section.applyOpt sec s).replies r = s.replies r := by
  rcases sec with _ | sec
  · exact ⟨Iff.rfl, rfl⟩
  rcases routeStep_section h with ⟨_, _, rfl⟩ | rfl | ⟨_, rfl⟩ | rfl <;>
    simp [Section.applyOpt, Section.apply, Ingress.send, AList.mem_insert, AList.mem_erase, hr]

/-! ### The tables against the phases -/

/-- What the pending table and the reply slot hold for a request whose
`route_request` is at `ph`: nothing before the insertion; from the insertion
until the wait ends (or for ever, once dropped in between), the entry or else
the reply; after the return, no entry. -/
def RoutePhase.entryAgrees (ph : RoutePhase) (pending : Prop) (reply : Option ProxyResponse) :
    Prop :=
  match ph with
  | .sending _ | .waiting _ | .cleaning _ | .dropped true => (pending ↔ reply = none)
  | .finished _ => ¬ pending
  | _ => ¬ pending ∧ reply = none

/-- What the tables hold for a request, given its task if any. -/
def RequestAgrees (task : Option RouteTask) (pending : Prop) (reply : Option ProxyResponse) :
    Prop :=
  match task with
  | none => ¬ pending ∧ reply = none
  | some t => t.phase.entryAgrees pending reply

def PendingAgrees (routes : Uuid → Option RouteTask) (s : Ingress) : Prop :=
  ∀ r, RequestAgrees (routes r) (r ∈ s.pendingRequests) (s.replies r)

theorem RoutePhase.entryAgrees_iff {ph : RoutePhase} {pending : Prop}
    {reply : Option ProxyResponse} (h : ph.entryAgrees pending reply) :
    pending ↔ ph.holdsEntry = true ∧ reply = none := by
  cases ph
  case dropped b => cases b <;> simp_all [entryAgrees, holdsEntry]
  all_goals simp_all [entryAgrees, holdsEntry]

/-- `handle_response` turns an entry into a reply. -/
theorem RoutePhase.entryAgrees_deliver {ph : RoutePhase} {reply : Option ProxyResponse}
    (h : ph.entryAgrees True reply) (resp : ProxyResponse) : ph.entryAgrees False (some resp) := by
  cases ph
  case dropped b => cases b <;> simp_all [entryAgrees]
  all_goals simp_all [entryAgrees]

/-- A dropped future keeps whatever its phase had in the tables. -/
theorem RoutePhase.entryAgrees_dropped {ph : RoutePhase} {pending : Prop}
    {reply : Option ProxyResponse} (hs : ph.suspended = true) (h : ph.entryAgrees pending reply) :
    (RoutePhase.dropped ph.holdsEntry).entryAgrees pending reply := by
  cases ph <;> simp_all [entryAgrees, holdsEntry, suspended]

theorem afterMatching_entryAgrees {pending : Prop} {reply : Option ProxyResponse}
    (h : ¬ pending ∧ reply = none) (req : ProxyRequest) (services : List ServiceRegistration) :
    (afterMatching req services).entryAgrees pending reply := by
  unfold afterMatching
  split <;> simp [RoutePhase.entryAgrees, h]

/-- One step of a route task keeps its own request's tables in agreement. -/
theorem routeStep_entryAgrees {req : ProxyRequest} {s : Ingress} {ph p : RoutePhase}
    {sec : Option Section} (h : routeStep req s ph = some (sec, p))
    (ha : ph.entryAgrees (req.id ∈ s.pendingRequests) (s.replies req.id)) :
    p.entryAgrees (req.id ∈ (Section.applyOpt sec s).pendingRequests)
      ((Section.applyOpt sec s).replies req.id) := by
  cases ph <;> simp only [routeStep] at h <;> (repeat' split at h) <;>
    simp only [Option.some.injEq, Prod.mk.injEq, reduceCtorEq, false_and] at h <;>
    obtain ⟨rfl, rfl⟩ := h
  all_goals first
    | exact afterMatching_entryAgrees
        (by simpa [RoutePhase.entryAgrees, Section.applyOpt, Section.apply] using ha) _ _
    | simp_all [RoutePhase.entryAgrees, Section.applyOpt, Section.apply, Ingress.send,
        AList.mem_insert, AList.mem_erase]

/-! ### Every step keeps the agreement -/

section

variable {routes : Uuid → Option RouteTask} {s : Ingress}

theorem PendingAgrees.applyOpt (h : PendingAgrees routes s) {o : Option Section}
    (ho : ∀ sec ∈ o, sec.touchesPending = false) :
    PendingAgrees routes (Section.applyOpt o s) := by
  rcases o with _ | sec
  · exact h
  · obtain ⟨h₁, h₂⟩ := sec.pending_apply (ho sec rfl) s
    intro r
    rw [Section.applyOpt, h₁, h₂]
    exact h r

theorem PendingAgrees.apply (h : PendingAgrees routes s) (sec : Section)
    (hsec : sec.touchesPending = false) : PendingAgrees routes (sec.apply s) :=
  h.applyOpt (o := some sec) fun _ h => Option.some.inj h ▸ hsec

theorem PendingAgrees.handleResponse (h : PendingAgrees routes s) (resp : ProxyResponse) :
    PendingAgrees routes ((Section.handleResponse resp).apply s) := by
  simp only [Section.apply]
  split
  · next hin =>
    intro r
    by_cases hr : r = resp.id
    · subst hr
      have hr := h resp.id
      simp only [AList.mem_erase, ne_eq, not_true_eq_false, false_and, Function.update_same]
      rcases hroute : routes resp.id with _ | t <;> rw [hroute] at hr
      · exact absurd hin hr.1
      · exact RoutePhase.entryAgrees_deliver (by simpa [RequestAgrees, hin] using hr) resp
    · simpa [AList.mem_erase, hr, Function.update_noteq hr] using h r
  · exact h

end

theorem Step.pendingAgrees {m m' : Mesh} {e : Event} (h : Step m e m') (hw : m.WellFormed)
    (hp : PendingAgrees m.routes m.ingress) : PendingAgrees m'.routes m'.ingress := by
  cases h with
  | accept c => exact hp.apply (.registerConnection c) rfl
  | writeFail c => exact hp.apply (.closeOutbound c) rfl
  | outbound c => exact hp.apply (.recvOutbound c) rfl
  | downstreamWriteFail sid => exact hp.apply (.recvAlbOut sid) rfl
  | inbound c t sec rest ht hi =>
    obtain ⟨f, a, hs⟩ := (hw.conns c t ht).inbound_handled
    rcases touchesPending_of_mem_handleWebsocketMessage c a f sec
      (hs.mem (hi ▸ List.mem_cons_self _ _)) with hsec | ⟨resp, rfl⟩
    · exact hp.apply sec hsec
    · exact hp.handleResponse resp
  | cleanup c t sec rest ht hc =>
    have hmem := ((hw.conns c t ht).cleanup_suffix _ hc).mem (List.mem_cons_self sec rest)
    simp only [removeConnection, List.mem_cons, List.mem_singleton, List.not_mem_nil,
      or_false] at hmem
    exact hp.apply sec (by rcases hmem with rfl | rfl | rfl <;> rfl)
  | tunnel sid t sec p ht hs =>
    refine hp.applyOpt fun sec hsec => ?_
    rcases tunnelStep_section (Option.mem_def.mp hsec ▸ hs) with
      ⟨_, _, rfl⟩ | ⟨_, rfl⟩ | rfl | rfl | rfl | rfl <;> rfl
  | downstream sid t agent b f =>
    refine hp.applyOpt fun sec hsec => ?_
    obtain ⟨_, -, rfl⟩ := Option.mem_map.mp hsec
    rfl
  | request req hr =>
    intro r
    by_cases hrr : r = req.id
    · subst hrr
      simpa [hr, RequestAgrees, RoutePhase.entryAgrees] using hp req.id
    · simpa [hrr] using hp r
  | route r t sec p ht hs =>
    have hid := hw.routes r t ht
    intro r'
    by_cases hrr : r' = r
    · subst hrr
      have hr := hp r'
      rw [ht] at hr
      simp only [Mesh.setRoute_routes_self, RequestAgrees]
      exact hid ▸ routeStep_entryAgrees hs (hid.symm ▸ hr)
    · obtain ⟨h₁, h₂⟩ := routeStep_pending_ne hs (hid.symm ▸ hrr)
      simpa only [Mesh.setRoute_routes_ne _ _ hrr, Mesh.setRoute_ingress, Mesh.runOpt_routes,
        Mesh.runOpt_ingress, h₁, h₂] using hp r'
  | dropRoute r t ht hs =>
    intro r'
    by_cases hrr : r' = r
    · subst hrr
      have hr := hp r'
      rw [ht] at hr
      rw [Mesh.setRoute_routes_self]
      exact RoutePhase.entryAgrees_dropped hs hr
    · simpa [hrr] using hp r'
  | _ => exact hp

theorem Reachable.pendingAgrees {m : Mesh} (h : Reachable m) :
    m.WellFormed ∧ PendingAgrees m.routes m.ingress :=
  h.invariant (P := fun m => m.WellFormed ∧ PendingAgrees m.routes m.ingress)
    ⟨Mesh.wellFormed_init, fun r => by simp [RequestAgrees, Mesh.init, Ingress.init]⟩
    fun _ _ _ hm hs => ⟨hs.wellFormed hm.1, hs.pendingAgrees hm.1 hm.2⟩

/-! ### The pending table of reachable states -/

/-- A request for the registered host. -/
def apiRequest : ProxyRequest := ⟨9, "GET", "/", [], none, "api.example.com"⟩

/-- `route_request` for `apiRequest` runs up to the wait for its reply. -/
def forwardRequest : List Event :=
  registerOnOne ++ .request apiRequest :: List.replicate 6 (.route 9)

def waitingMesh : Mesh := (Mesh.init.execAll forwardRequest).getD Mesh.init

/-- In every reachable state request `r` has a pending entry exactly when its
`route_request` has inserted one and neither the reply has taken its place nor
the task has removed it: the task is suspended between the insertion and the
end of its wait, or its future was dropped there. A reply handled while the
task waits is what the task returns. -/
theorem pending_iff_entry_held {m : Mesh} (h : Reachable m) (r : Uuid) :
    (r ∈ m.ingress.pendingRequests ↔
      (∃ t, m.routes r = some t ∧ t.phase.holdsEntry = true) ∧ m.ingress.replies r = none) ∧
    ∀ t deadline resp, m.routes r = some t → t.phase = .waiting deadline →
      m.ingress.replies r = none → resp.id = r →
      routeStep t.request ((Section.handleResponse resp).apply m.ingress) t.phase =
        some (none, .finished resp) := by
  obtain ⟨hw, hp⟩ := h.pendingAgrees
  have hiff : r ∈ m.ingress.pendingRequests ↔
      (∃ t, m.routes r = some t ∧ t.phase.holdsEntry = true) ∧
        m.ingress.replies r = none := by
    have hr := hp r
    rcases hroute : m.routes r with _ | t <;> rw [hroute] at hr
    · simp [hr.1]
    · simpa using RoutePhase.entryAgrees_iff hr
  refine ⟨hiff, fun t d resp ht hph hnone hid => ?_⟩
  have hin : r ∈ m.ingress.pendingRequests :=
    hiff.2 ⟨⟨t, ht, by simp [hph, RoutePhase.holdsEntry]⟩, hnone⟩
  rw [hph]
  simp [routeStep, Section.apply, hw.routes r t ht, hid, hin]

theorem pending_iff_entry_held_waitingMesh :
    (9 ∈ waitingMesh.ingress.pendingRequests ↔
      (∃ t, waitingMesh.routes 9 = some t ∧ t.phase.holdsEntry = true) ∧
        waitingMesh.ingress.replies 9 = none) ∧
    ∀ t deadline resp, waitingMesh.routes 9 = some t → t.phase = .waiting deadline →
      waitingMesh.ingress.replies 9 = none → resp.id = 9 →
      routeStep t.request ((Section.handleResponse resp).apply waitingMesh.ingress) t.phase =
        some (none, .finished resp) :=
  pending_iff_entry_held ⟨forwardRequest, Run.of_execAll rfl⟩ 9

/-- The downstream client of `apiRequest` goes away while `route_request`
waits: the entry stays, with no task left to remove it. -/
theorem pending_outlives_dropped_request :
    ¬ ∀ m, Reachable m → ∀ r, r ∈ m.ingress.pendingRequests ↔
      ∃ t, m.routes r = some t ∧ t.phase.suspended = true ∧ t.phase.holdsEntry = true := by
  intro h
  obtain ⟨m, hrun, hp⟩ := Run.exists_of_execAll (m := waitingMesh) [.dropRoute 9]
    (p := fun m => decide (9 ∈ m.ingress.pendingRequests) &&
      (m.routes 9).map RouteTask.phase == some (.dropped true))
    (by decide)
  have hreach : Reachable m := Reachable.run ⟨forwardRequest, Run.of_execAll rfl⟩ hrun
  simp only [Bool.and_eq_true, decide_eq_true_eq, beq_iff_eq, Option.map_eq_some'] at hp
  obtain ⟨hin, t, ht, hph⟩ := hp
  obtain ⟨t', ht', hs, -⟩ := (h m hreach 9).1 hin
  rw [ht, Option.some.injEq] at ht'
  subst ht'
  simp [hph, RoutePhase.suspended] at hs

end AnywhereMesh.Server
