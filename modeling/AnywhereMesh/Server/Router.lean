import AnywhereMesh.Server.Dispatcher

/-! `DefaultRouter::route_request` as a task. Its phases are the suspension
points of the source: each `.await` on a lock, on the registry or on the reply
channel is a place where the task waits, where other tasks run, and where the
hyper service may drop the whole future when the downstream client goes away.
From each phase the task takes one step, which reads the state and runs at most
one section; `routeStep` is that step. The registry is `DefaultRegistry`, whose
reads never fail, so the `?` exits of the source are never taken. -/

namespace AnywhereMesh.Server

/-- `cache_ttl`, in seconds. -/
def cacheTtl : ℕ := 30

/-- The request timeout `CombinedIngressService::new` gives the router, in seconds. -/
def requestTimeout : ℕ := 30

/-- `DefaultRouter::create_error_response`. -/
def createErrorResponse (requestId : Uuid) (statusCode : UInt16) (message : String) :
    ProxyResponse :=
  ⟨requestId, statusCode, [], some message.toUTF8.toList⟩

/-- The uncached branch of `find_matching_services`: every registration that
`match_host_to_service` accepts on its own, in the table's iteration order. -/
def matchingServices (targetHost : String) (registrations : Table ServiceRegistration) :
    List ServiceRegistration :=
  registrations.values.filter fun reg => (matchHostToService targetHost [reg]).isSome

/-- Where `route_request` is suspended. -/
inductive RoutePhase
  /-- Reading the host cache. -/
  | findMatching
  /-- The cache missed; reading the registrations. -/
  | computing
  /-- Writing the computed list into the cache. -/
  | caching (services : List ServiceRegistration)
  /-- Reading the connections to pick a healthy service. -/
  | selecting (services : List ServiceRegistration)
  /-- Inserting the pending entry. -/
  | forwarding (service : ServiceRegistration)
  /-- The entry is in; reading the service's sender to send the request. -/
  | sending (service : ServiceRegistration)
  /-- Waiting for the reply, until `deadline`. -/
  | waiting (deadline : ℕ)
  /-- Removing the pending entry after a failure. -/
  | cleaning (err : IngressError)
  /-- `route_request` returned this response. -/
  | finished (response : ProxyResponse)
  /-- The future was dropped; `holdsEntry` if its pending entry was in. -/
  | dropped (holdsEntry : Bool)
  deriving DecidableEq, Repr

/-- A `route_request` in flight. -/
structure RouteTask where
  request : ProxyRequest
  phase : RoutePhase
  deriving DecidableEq

/-- What `route_request` does once `find_matching_services` has returned. -/
def afterMatching (req : ProxyRequest) (services : List ServiceRegistration) : RoutePhase :=
  if services.isEmpty then .finished (createErrorResponse req.id 404 "Service Not Found")
  else .selecting services

/-- The response `route_request` returns for a failed forward or wait. -/
def failureResponse (requestId : Uuid) : IngressError → ProxyResponse
  | .timeout _ => createErrorResponse requestId 504 "Gateway Timeout"
  | _ => createErrorResponse requestId 503 "Service Unavailable"

/-- One step of the task from a phase: the section it runs, if any, and the next
phase; `none` while the task is blocked or done. -/
def routeStep (req : ProxyRequest) (s : Ingress) :
    RoutePhase → Option (Option Section × RoutePhase)
  | .findMatching =>
    match s.hostServiceCache.lookup req.targetHost with
    | some entry =>
      if s.clock - entry.timestamp < cacheTtl then some (none, afterMatching req entry.services)
      else some (none, .computing)
    | none => some (none, .computing)
  | .computing => some (none, .caching (matchingServices req.targetHost s.registrations))
  | .caching services =>
    some (some (.writeCache req.targetHost ⟨services, s.clock⟩), afterMatching req services)
  | .selecting services =>
    some (none, match selectHealthyInstance services s.connections s.clock with
      | some service => .forwarding service
      | none => .finished (createErrorResponse req.id 503 "No healthy service available"))
  | .forwarding service => some (some (.insertPending req.id), .sending service)
  | .sending service =>
    if service.id ∈ s.connectionSenders then
      if (s.outbound service.id).isSome then
        some (some (.sendOn service.id (.proxyRequestForward req)),
          .waiting (s.clock + requestTimeout))
      else some (none, .cleaning (.sendFailed "Failed to send request to service"))
    else some (none, .cleaning (.sendFailed "No connection sender found for service"))
  | .waiting deadline =>
    match s.replies req.id with
    | some resp => some (none, .finished resp)
    | none =>
      if req.id ∉ s.pendingRequests then
        some (none, .cleaning (.internal "Response channel closed"))
      else if deadline ≤ s.clock then some (none, .cleaning (.timeout req.id))
      else none
  | .cleaning err => some (some (.removePending req.id), .finished (failureResponse req.id err))
  | .finished _ | .dropped _ => none

/-- The sections a route task runs: the cache write, the pending entry of its
own request, and the forward of that request. -/
theorem routeStep_section {req : ProxyRequest} {s : Ingress} {ph p : RoutePhase} {sec : Section}
    (h : routeStep req s ph = some (some sec, p)) :
    (∃ host entry, sec = .writeCache host entry) ∨ sec = .insertPending req.id ∨
      (∃ c, sec = .sendOn c (.proxyRequestForward req)) ∨ sec = .removePending req.id := by
  cases ph <;> simp only [routeStep] at h <;> (repeat' split at h) <;>
    simp only [Option.some.injEq, Prod.mk.injEq, reduceCtorEq, false_and] at h <;>
    obtain ⟨rfl, -⟩ := h <;> simp

/-- The phases at which the future is suspended, and may be dropped. -/
def RoutePhase.suspended : RoutePhase → Bool
  | .finished _ | .dropped _ => false
  | _ => true

/-- The phases between inserting the pending entry and the end of the wait. -/
def RoutePhase.holdsEntry : RoutePhase → Bool
  | .sending _ | .waiting _ | .cleaning _ => true
  | .dropped h => h
  | _ => false

end AnywhereMesh.Server
