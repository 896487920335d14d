import AnywhereMesh.Server.Replies

/-! Where `route_request` sends a request. `find_matching_services` keeps, for a
host, the registrations that `match_host_to_service` accepts and caches that
list for thirty seconds; `select_healthy_instance` picks from the list, cached
or fresh, the first one whose connection heartbeats, and `forward_request` sends
on that registration's id. Proved: in every run, every `ProxyRequestForward` on
the channel toward a connection `c` carries a request whose host matches a
registration that `c` itself sent during the run. A cache hit does not read the
registrations again, so `c` need not hold that registration any more: a
connection that has registered again for another host keeps getting the old
host's requests until the entry expires. -/

namespace AnywhereMesh.Server

/-- `service` is the registration of a `ServiceRegistration` frame that its
connection sent during `es`, with its id overwritten, and `match_host_to_service`
accepts it for `host`. -/
def Serves (es : List Event) (host : String) (service : ServiceRegistration) : Prop :=
  (∃ reg, RegistrationReceived es service.id reg ∧ service = { reg with id := service.id }) ∧
    (matchHostToService host [service]).isSome

theorem Serves.append {es : List Event} {host : String} {service : ServiceRegistration}
    (h : Serves es host service) (es' : List Event) : Serves (es ++ es') host service :=
  let ⟨⟨reg, hreg, hs⟩, hm⟩ := h
  ⟨⟨reg, hreg.append es', hs⟩, hm⟩

/-- The registrations a route task holds serve its request's host. -/
def RoutePhase.AllServe (es : List Event) (host : String) : RoutePhase → Prop
  | .caching services | .selecting services => ∀ s ∈ services, Serves es host s
  | .forwarding service | .sending service => Serves es host service
  | _ => True

theorem RoutePhase.AllServe.append {es : List Event} {host : String} (es' : List Event) :
    ∀ {ph : RoutePhase}, ph.AllServe es host → ph.AllServe (es ++ es') host
  | .caching _, h | .selecting _, h => fun s hs => (h s hs).append es'
  | .forwarding _, h | .sending _, h => Serves.append h es'
  | .findMatching, _ | .computing, _ | .waiting _, _ | .cleaning _, _ | .finished _, _
  | .dropped _, _ => trivial

/-! ### The host cache -/

theorem Section.lookup_cache_apply (sec : Section) (s : Ingress) {host : String}
    {entry : HostServiceCacheEntry} (h : (sec.apply s).hostServiceCache.lookup host = some entry) :
    s.hostServiceCache.lookup host = some entry ∨ sec = .writeCache host entry := by
  cases sec
  case writeCache host' entry' =>
    by_cases hh : host = host'
    · subst hh
      simp only [apply, AList.lookup_insert, Option.some.injEq] at h
      exact .inr (h ▸ rfl)
    · exact .inl (by simpa [apply, AList.lookup_insert_ne hh] using h)
  all_goals left; revert h; simp only [apply]; (repeat' split) <;> exact id

/-- A route task writes the cache once, from its `caching` phase, under its
request's host and stamped with the current time. -/
theorem routeStep_writeCache {req : ProxyRequest} {s : Ingress} {ph p : RoutePhase}
    {host : String} {entry : HostServiceCacheEntry}
    (h : routeStep req s ph = some (some (.writeCache host entry), p)) :
    ph = .caching entry.services ∧ host = req.targetHost ∧ entry.timestamp = s.clock := by
  cases ph <;> simp only [routeStep] at h <;> (repeat' split at h) <;>
    simp only [Option.some.injEq, Prod.mk.injEq, reduceCtorEq, false_and,
      Section.writeCache.injEq] at h
  obtain ⟨⟨rfl, rfl⟩, -⟩ := h
  exact ⟨rfl, rfl, rfl⟩

theorem writeCache_not_mem_handleWebsocketMessage (c : Uuid)
    (authenticate : IamAuthRequest → IamAuthResponse) (f : Option IngressMessage)
    (host : String) (entry : HostServiceCacheEntry) :
    Section.writeCache host entry ∉ sectionsOf (handleWebsocketMessage c authenticate f) := fun h => by
  rcases mem_handleWebsocketMessage h with ⟨_, -, h⟩ | ⟨_, -, h | h | h⟩ | h | ⟨_, -, h⟩ |
    ⟨_, -, h | h⟩ | ⟨_, _, _, _, -, h⟩ | ⟨_, _, _, -, h⟩ | ⟨_, _, _, -, h⟩ <;> cases h

section

variable {m m' : Mesh} {e : Event}

/-- A cache entry after a step was there before, or the step is a route task's
cache write, now, of the list it computed for its request's host. -/
theorem Step.cache_cases (h : Step m e m') (hw : m.WellFormed) {host : String}
    {entry : HostServiceCacheEntry} (hc : m'.ingress.hostServiceCache.lookup host = some entry) :
    m.ingress.hostServiceCache.lookup host = some entry ∨
      ∃ r t, m.routes r = some t ∧ t.phase = .caching entry.services ∧
        host = t.request.targetHost ∧ entry.timestamp = m.ingress.clock := by
  rcases h.section_cases hw with he | he | ⟨c, he⟩ | ⟨sec, he, hsrc⟩ <;> rw [he] at hc
  · exact .inl hc
  · exact .inl hc
  · exact .inl hc
  rcases sec.lookup_cache_apply _ hc with hc | rfl
  · exact .inl hc
  cases hsrc with
  | handler _ _ hs => exact absurd hs (writeCache_not_mem_handleWebsocketMessage _ _ _ _ _)
  | cleanup hc => simp [removeConnection] at hc
  | route ht hs _ =>
    obtain ⟨hph, rfl, hts⟩ := routeStep_writeCache hs
    exact .inr ⟨_, _, ht, hph, rfl, hts⟩
  | tunnel _ hs _ =>
    rcases tunnelStep_section hs with ⟨_, _, h⟩ | ⟨_, h⟩ | h | h | h | h <;> cases h

end

/-! ### Route tasks -/

theorem afterMatching_allServe {es : List Event} {req : ProxyRequest}
    {services : List ServiceRegistration} (h : ∀ s ∈ services, Serves es req.targetHost s) :
    (afterMatching req services).AllServe es req.targetHost := by
  unfold afterMatching
  split
  · trivial
  · exact h

/-- A route task's step keeps what it holds serving its host, given that the
cache entry for that host does and that every stored registration is its
connection's own. -/
theorem routeStep_allServe {es : List Event} {req : ProxyRequest} {s : Ingress}
    {ph p : RoutePhase} {sec : Option Section} (h : routeStep req s ph = some (sec, p))
    (hph : ph.AllServe es req.targetHost)
    (hcache : ∀ entry, s.hostServiceCache.lookup req.targetHost = some entry →
      ∀ x ∈ entry.services, Serves es req.targetHost x)
    (hreg : ∀ c r, s.registrations.lookup c = some r →
      ∃ reg, RegistrationReceived es c reg ∧ r = { reg with id := c }) :
    p.AllServe es req.targetHost := by
  cases ph with
  | findMatching =>
    simp only [routeStep] at h
    split at h
    · next entry he =>
      split at h <;> cases h
      exacts [afterMatching_allServe (hcache entry he), trivial]
    · cases h
      trivial
  | computing =>
    cases h
    intro x hx
    obtain ⟨hv, hm⟩ := List.mem_filter.mp hx
    obtain ⟨⟨c, x'⟩, hcx, rfl⟩ := List.mem_map.mp hv
    obtain ⟨reg, hreg, rfl⟩ := hreg c x' (AList.mem_lookup_iff.mpr hcx)
    exact ⟨⟨reg, hreg, rfl⟩, hm⟩
  | caching services =>
    cases h
    exact afterMatching_allServe hph
  | selecting services =>
    cases h
    split
    · next service hsel => exact hph service (List.mem_of_find?_eq_some hsel)
    · trivial
  | forwarding service =>
    cases h
    exact hph
  | sending _ | waiting _ =>
    simp only [routeStep] at h
    (repeat' split at h) <;> cases h <;> trivial
  | cleaning err =>
    cases h
    trivial
  | finished _ | dropped _ => cases h

/-! ### Forwards over runs -/

/-- Every registration stored comes from its connection's frame; every cached
list, and every list or registration a route task holds, serves the host it is
for; and every forwarded request on a channel is for a host that a registration
of the channel's connection serves. -/
structure ForwardsServe (es : List Event) (m : Mesh) : Prop where
  registrations : RegistrationsFromFrames es m
  cache : ∀ host entry, m.ingress.hostServiceCache.lookup host = some entry →
    ∀ s ∈ entry.services, Serves es host s
  routes : ∀ r t, m.routes r = some t → t.phase.AllServe es t.request.targetHost
  forwards : ∀ c req, .proxyRequestForward req ∈ (m.ingress.outbound c).getD [] →
    ∃ s, s.id = c ∧ Serves es req.targetHost s

theorem Step.forwardsServe {m m' : Mesh} {e : Event} {es : List Event} (h : Step m e m')
    (hw : m.WellFormed) (hq : ForwardsServe es m) : ForwardsServe (es ++ [e]) m' where
  registrations := h.registrationsFromFrames hw hq.registrations
  cache host entry hc s hs := by
    rcases h.cache_cases hw hc with hc | ⟨r, t, ht, hph, rfl, -⟩
    · exact (hq.cache _ entry hc s hs).append _
    · have hall := hq.routes r t ht
      rw [hph] at hall
      exact (hall s hs).append _
  routes := by
    have old : ∀ r t, m.routes r = some t → t.phase.AllServe (es ++ [e]) t.request.targetHost :=
      fun r t ht => (hq.routes r t ht).append _
    rcases h.routes_cases with he | ⟨req, -, he⟩ | ⟨r, t, p, ht, he, hp⟩ <;> rw [he]
    · exact old
    · exact Mesh.forall_setRoute (m := m) old trivial
    · refine Mesh.forall_setRoute (m := m) old ?_
      rcases hp with ⟨sec, hs⟩ | rfl
      · exact (routeStep_allServe hs (hq.routes r t ht) (hq.cache _)
          hq.registrations.stored).append _
      · trivial
  forwards c req hm := by
    rcases h.forward_cases hw hm with hm | ⟨r, t, service, ht, hph, rfl, rfl⟩
    · exact (hq.forwards c _ hm).imp fun _ => And.imp_right (·.append _)
    · have hall := hq.routes r t ht
      rw [hph] at hall
      exact ⟨service, rfl, hall.append _⟩

theorem Run.forwardsServe {m m' : Mesh} {es es' : List Event} (h : Run m es' m')
    (hw : m.WellFormed) (hq : ForwardsServe es m) :
    m'.WellFormed ∧ ForwardsServe (es ++ es') m' := by
  induction h generalizing es with
  | nil => simpa using And.intro hw hq
  | @cons m₁ m₂ m₃ e es₁ hs _ ih =>
    simpa using ih (hs.wellFormed hw) (hs.forwardsServe hw hq)

/-- In every run of the server, a `ProxyRequestForward` on the channel toward
connection `c` carries a request whose host `match_host_to_service` accepts for
a registration that `c` sent during the run, with its id overwritten by `c`. -/
theorem forward_target_registered {es : List Event} {m : Mesh} (h : Run Mesh.init es m)
    {c : Uuid} {req : ProxyRequest}
    (hm : .proxyRequestForward req ∈ (m.ingress.outbound c).getD []) :
    ∃ reg authenticate, Event.receive c (some (.serviceRegistration reg)) authenticate ∈ es ∧
      (matchHostToService req.targetHost [{ reg with id := c }]).isSome := by
  have hinit : ForwardsServe [] Mesh.init :=
    ⟨⟨fun _ _ h => by simp [Mesh.init, Ingress.init] at h, fun _ _ h => (nomatch h)⟩,
      fun _ _ h => by simp [Mesh.init, Ingress.init] at h, fun _ _ h => (nomatch h),
      fun _ _ h => by simp [Mesh.init, Ingress.init] at h⟩
  obtain ⟨s, rfl, ⟨reg, ⟨a, ha⟩, hs⟩, hmatch⟩ :=
    (h.forwardsServe Mesh.wellFormed_init hinit).2.forwards c req hm
  exact ⟨reg, a, by simpa using ha, hs ▸ hmatch⟩

/-- Connection 1 registers `api.example.com` and request 9 caches it; connection
1 then deregisters and registers `other.example.com`, and request 10 for
`api.example.com` is still forwarded to it from the cache. -/
def reRegistration : ServiceRegistration := { apiRegistration with host := "other.example.com" }

def staleRequest : ProxyRequest := { apiRequest with id := 10 }

def staleForward : List Event :=
  forwardRequest ++ [.receive 1 (some (.serviceDeregistration 1)) denyAll, .inbound 1, .inbound 1,
    .receive 1 (some (.serviceRegistration reRegistration)) denyAll, .inbound 1, .inbound 1,
    .inbound 1, .request staleRequest, .route 10, .route 10, .route 10, .route 10]

def staleForwardMesh : Mesh := (Mesh.init.execAll staleForward).getD Mesh.init

theorem forward_target_registered_reRegistered :
    staleForwardMesh.ingress.registrations.lookup 1 = some { reRegistration with id := 1 } ∧
      (matchHostToService staleRequest.targetHost [{ reRegistration with id := 1 }]).isSome =
        false ∧
      ∃ reg authenticate,
        Event.receive 1 (some (.serviceRegistration reg)) authenticate ∈ staleForward ∧
          (matchHostToService staleRequest.targetHost [{ reg with id := 1 }]).isSome :=
  ⟨by decide, by decide, forward_target_registered
    (Run.of_execAll (show Mesh.init.execAll staleForward = some staleForwardMesh from rfl))
    (show .proxyRequestForward staleRequest ∈ (staleForwardMesh.ingress.outbound 1).getD [] by
      decide)⟩

end AnywhereMesh.Server
