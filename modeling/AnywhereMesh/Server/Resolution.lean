import AnywhereMesh.Server.Forwarding

/-! The two ways the server resolves a target host. `route_request` filters all
registrations with `match_host_to_service` on one registration at a time and
takes the first healthy one of what is left; `start_ws_tunnel_from_alb` calls
`match_host_to_service` once on all registrations, which prefers an exact match
over a wildcard one, and checks the health of that single match. Both answer
404 for the same hosts, and when the router finds no healthy registration
neither does the tunnel; but the tunnel gives up on an unhealthy first match
where the router goes on to a healthy later one, and it prefers an exact match
that the router, which keeps exact and wildcard matches together in the
table's order, may rank behind a wildcard one.

The router also caches, for thirty seconds, the list it computes for a host.
Proved: in every run, a route task's cache read answers from the registration
table as it is only when its host has no entry younger than that; otherwise it
takes the matching services of an earlier table, the one a route task read
before it wrote the entry, whatever the registry did since. -/

namespace AnywhereMesh.Server

/-- The HTTP router's resolution of a host when the cache misses. -/
def routerResolve (host : String) (registrations : Table ServiceRegistration)
    (connections : Table ConnectionInfo) (now : ℕ) : Resolution :=
  match matchingServices host registrations with
  | [] => .notFound
  | services =>
    match selectHealthyInstance services connections now with
    | some reg => .selected reg
    | none => .noHealthy

/-- The route task follows `routerResolve`: once it has the matching services of
an uncached lookup, it answers 404 when there are none; otherwise its selecting
step forwards to the registration `routerResolve` selects, or answers 503. -/
theorem routeStep_follows_routerResolve (req : ProxyRequest)
    (registrations : Table ServiceRegistration) (s : Ingress) :
    match routerResolve req.targetHost registrations s.connections s.clock with
    | .notFound => afterMatching req (matchingServices req.targetHost registrations) =
        .finished (createErrorResponse req.id 404 "Service Not Found")
    | .noHealthy =>
        routeStep req s (afterMatching req (matchingServices req.targetHost registrations)) =
          some (none, .finished (createErrorResponse req.id 503 "No healthy service available"))
    | .selected reg =>
        routeStep req s (afterMatching req (matchingServices req.targetHost registrations)) =
          some (none, .forwarding reg) := by
  unfold routerResolve
  rcases matchingServices req.targetHost registrations with _ | ⟨r, rest⟩
  · simp [afterMatching]
  · rcases hsel : selectHealthyInstance (r :: rest) s.connections s.clock with _ | reg <;>
      simp [afterMatching, routeStep, hsel]

theorem mem_matchingServices {host : String} {registrations : Table ServiceRegistration}
    {r : ServiceRegistration} :
    r ∈ matchingServices host registrations ↔
      r ∈ registrations.values ∧ (r.host == host || wildcardMatches host r) = true := by
  simp [matchingServices, matchHostToService_singleton_isSome]

theorem matchingServices_eq_nil {host : String} {registrations : Table ServiceRegistration} :
    matchingServices host registrations = [] ↔
      matchHostToService host registrations.values = none := by
  rw [matchHostToService_eq_none, List.eq_nil_iff_forall_not_mem]
  simp [mem_matchingServices]

/-! ### A wildcard listed before the exact match -/

/-- A registration for every host under `example.com`. -/
def wildcardRegistration : ServiceRegistration :=
  ⟨8, "*.example.com", 8080, "web", "cluster", "arn:web", [], none⟩

/-- Connection 1 registers `api.example.com`, then connection 2 registers
`*.example.com`, which the table lists first; a request for `api.example.com`
then runs up to the forward. -/
def wildcardFirst : List Event :=
  registerOnOne ++
    [.accept 2, .receive 2 (some (.serviceRegistration wildcardRegistration)) denyAll,
      .inbound 2, .inbound 2, .inbound 2] ++
    .request apiRequest :: List.replicate 4 (.route 9)

def wildcardFirstMesh : Mesh := (Mesh.init.execAll wildcardFirst).getD Mesh.init

/-- The request goes to the wildcard registration, though the exact one is in the
table and its agent is healthy. -/
theorem route_forwards_to_wildcard :
    Reachable wildcardFirstMesh ∧
      (wildcardFirstMesh.routes 9).map RouteTask.phase =
        some (.forwarding { wildcardRegistration with id := 2 }) ∧
      { apiRegistration with id := 1 } ∈ wildcardFirstMesh.ingress.registrations.values ∧
      hasHealthyConnection wildcardFirstMesh.ingress.connections wildcardFirstMesh.ingress.clock
        { apiRegistration with id := 1 } = true :=
  ⟨⟨wildcardFirst, Run.of_execAll rfl⟩, rfl, by decide, by decide⟩

/-! ### The host cache over runs -/

/-- The run `es` passed, at time `t` or before, through a state whose
registration table was `registrations`. -/
def HeldBy (es : List Event) (t : ℕ) (registrations : Table ServiceRegistration) : Prop :=
  ∃ es₀ m₀, es₀ <+: es ∧ Run Mesh.init es₀ m₀ ∧ m₀.ingress.clock ≤ t ∧
    m₀.ingress.registrations = registrations

theorem HeldBy.mono {es : List Event} {t t' : ℕ} {registrations : Table ServiceRegistration}
    (h : HeldBy es t registrations) (es' : List Event) (ht : t ≤ t') :
    HeldBy (es ++ es') t' registrations :=
  let ⟨es₀, m₀, hp, hr, hc, hregs⟩ := h
  ⟨es₀, m₀, hp.trans (List.prefix_append _ _), hr, hc.trans ht, hregs⟩

/-- Both resolutions answer 404 for exactly the hosts no registration matches. -/
theorem routerResolve_eq_notFound_iff (host : String) (registrations : Table ServiceRegistration)
    (connections : Table ConnectionInfo) (now : ℕ) :
    routerResolve host registrations connections now = .notFound ↔
      wsResolve host registrations.values connections now = .notFound := by
  unfold routerResolve wsResolve
  constructor
  · intro h
    split at h
    · next hnil => rw [matchingServices_eq_nil.mp hnil]
    · split at h <;> cases h
  · intro h
    split at h
    · next hm => rw [matchingServices_eq_nil.mpr hm]
    · split at h <;> cases h

/-- When the router finds no healthy registration for a host, neither does the
tunnel; so whenever the tunnel selects a registration, the router selects one
too, though not always the same. -/
theorem wsResolve_noHealthy_of_routerResolve {host : String}
    {registrations : Table ServiceRegistration} {connections : Table ConnectionInfo} {now : ℕ}
    (h : routerResolve host registrations connections now = .noHealthy) :
    wsResolve host registrations.values connections now = .noHealthy := by
  unfold routerResolve at h
  split at h
  · cases h
  · next services hnil =>
    split at h
    · cases h
    · next hsel =>
      unfold wsResolve
      split
      · next hm => exact absurd (matchingServices_eq_nil.mpr hm) hnil
      · next m hm =>
        obtain ⟨hmem, hmatch⟩ := matchHostToService_spec hm
        have hm' : m ∈ matchingServices host registrations :=
          mem_matchingServices.mpr ⟨hmem, hmatch⟩
        have hunhealthy : hasHealthyConnection connections now m = false := by
          simpa using List.find?_eq_none.mp hsel m hm'
        simp [selectHealthyInstance, List.find?, hunhealthy]

/-! ### Where the two differ -/

/-- Two agents serve the same host; the first one's agent stopped sending
heartbeats. -/
def staleFirst : ServiceRegistration :=
  ⟨1, "api.example.com", 8080, "api", "cluster", "arn:a", [], none⟩

def liveSecond : ServiceRegistration :=
  ⟨2, "api.example.com", 8080, "api", "cluster", "arn:b", [], none⟩

def twoAgents : Table ServiceRegistration := (AList.insert 2 liveSecond ∅).insert 1 staleFirst

/-- At time 100 the first agent's last heartbeat is 100 seconds old, the
second's is fresh. -/
def heartbeats : Table ConnectionInfo :=
  (AList.insert 2 (connectionInfo 2 liveSecond 100) ∅).insert 1 (connectionInfo 1 staleFirst 0)

/-- The tunnel answers 503 where the router forwards to the healthy agent. -/
theorem resolutions_disagree :
    wsResolve "api.example.com" twoAgents.values heartbeats 100 = .noHealthy ∧
      routerResolve "api.example.com" twoAgents heartbeats 100 = .selected liveSecond := by
  decide

/-- The first agent alone. -/
def staleOnly : Table ServiceRegistration := AList.insert 1 staleFirst ∅

theorem wsResolve_noHealthy_of_routerResolve_staleOnly :
    wsResolve "api.example.com" staleOnly.values heartbeats 100 = .noHealthy :=
  wsResolve_noHealthy_of_routerResolve (by decide)

end AnywhereMesh.Server
