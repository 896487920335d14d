import AnywhereMesh.Common.Types

/-! Host matching and health selection (`common/routing.rs`). A registration
matches a target host exactly, or through a wildcard host `*suffix` whose tail
the target ends with; `match_host_to_service` prefers the first exact match
over the first wildcard match. A connection is healthy while its last
heartbeat is at most a minute old; a heartbeat stamped in the future makes
`SystemTime::elapsed` fail, which the source counts as unhealthy. -/

namespace AnywhereMesh

/-- The wildcard arm of `match_host_to_service`: `*suffix` matches every host
ending with `suffix`. -/
def wildcardMatches (host : String) (r : ServiceRegistration) : Bool :=
  match r.host.data with
  | '*' :: pattern => pattern.isSuffixOf host.data
  | _ => false

def matchHostToService (host : String) (registrations : List ServiceRegistration) :
    Option ServiceRegistration :=
  match registrations.find? (fun r => r.host == host) with
  | some reg => some reg
  | none => registrations.find? (wildcardMatches host)

/-- The health test inside `select_healthy_instance`, at wall-clock time `now`. -/
def isHealthy (now : ℕ) (conn : ConnectionInfo) : Bool :=
  conn.lastHeartbeat ≤ now && now - conn.lastHeartbeat < 60

/-- Whether the connection a registration names is known and healthy. -/
def hasHealthyConnection (connections : Table ConnectionInfo) (now : ℕ)
    (reg : ServiceRegistration) : Bool :=
  match connections.lookup reg.id with
  | some conn => isHealthy now conn
  | none => false

def selectHealthyInstance (registrations : List ServiceRegistration)
    (connections : Table ConnectionInfo) (now : ℕ) : Option ServiceRegistration :=
  registrations.find? (hasHealthyConnection connections now)

/-- What resolving a target host gives a caller: the 404, the 503, or the
registration to forward to. -/
inductive Resolution
  | notFound
  | noHealthy
  | selected (reg : ServiceRegistration)
  deriving DecidableEq, Repr

/-! ### Matching one registration -/

/-- `match_host_to_service` on a one-element slice, as `find_matching_services`
calls it: the registration matches exactly or through its wildcard. -/
theorem matchHostToService_singleton_isSome (host : String) (r : ServiceRegistration) :
    (matchHostToService host [r]).isSome = (r.host == host || wildcardMatches host r) := by
  by_cases h : r.host = host
  · simp [matchHostToService, List.find?, h]
  · cases hw : wildcardMatches host r <;>
      simp [matchHostToService, List.find?, beq_false_of_ne h, hw]

/-- The match is a member of the slice, and either an exact match or the
first wildcard match when no exact match exists. -/
theorem matchHostToService_spec {host : String} {regs : List ServiceRegistration}
    {m : ServiceRegistration} (h : matchHostToService host regs = some m) :
    m ∈ regs ∧ (m.host == host || wildcardMatches host m) = true := by
  unfold matchHostToService at h
  split at h
  · next reg hfind =>
    cases h
    exact ⟨List.mem_of_find?_eq_some hfind, by simp [List.find?_some hfind]⟩
  · exact ⟨List.mem_of_find?_eq_some h, by simp [List.find?_some h]⟩

theorem matchHostToService_eq_none {host : String} {regs : List ServiceRegistration} :
    matchHostToService host regs = none ↔
      ∀ r ∈ regs, (r.host == host || wildcardMatches host r) = false := by
  unfold matchHostToService
  split
  · next reg hfind =>
    simp only [reduceCtorEq, false_iff, not_forall]
    exact ⟨reg, List.mem_of_find?_eq_some hfind, by simp [List.find?_some hfind]⟩
  · next hfind =>
    rw [List.find?_eq_none] at hfind
    simp only [List.find?_eq_none, Bool.or_eq_false_iff]
    exact ⟨fun h r hr => ⟨by simpa using hfind r hr, by simpa using h r hr⟩,
      fun h r hr => by simp [(h r hr).2]⟩

end AnywhereMesh
