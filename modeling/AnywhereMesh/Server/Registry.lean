import AnywhereMesh.Server.State

/-! The operations of `DefaultRegistry` as the lock sections they run, and the
footprint of every section. Each section reads and writes the entries of one
id only (the cache, keyed by host, apart), so everything the server keeps under
another id is left as it was. `register_service` stores the registration under
the connection id with its `id` field overwritten by it; no section stores a
registration any other way, so every registration is keyed by its own id. -/

namespace AnywhereMesh.Server

/-! ### Registry operations -/

def registerConnection (c : Uuid) : List Section := [.registerConnection c]

def removeConnection (c : Uuid) : List Section :=
  [.removeConnectionInfo c, .removeRegistration c, .removeSender c]

def registerService (c : Uuid) (reg : ServiceRegistration) : List Section :=
  [.storeConnectionInfo c reg, .storeRegistration c reg]

def deregisterService (serviceId : Uuid) : List Section :=
  [.removeRegistration serviceId, .removeConnectionInfo serviceId]

def updateHeartbeat (c : Uuid) : List Section := [.updateHeartbeat c]

/-! ### Footprint of a section -/

/-- Everything the server keeps under one id. -/
structure Entry where
  connection : Option ConnectionInfo
  registration : Option ServiceRegistration
  sender : Option Unit
  pending : Option Unit
  session : Option WsSession
  waiter : Option Unit
  outbound : Option (List IngressMessage)
  albOut : List AlbOutboundFrame
  reply : Option ProxyResponse
  initAck : Option WsInitAck

def Ingress.at (s : Ingress) (k : Uuid) : Entry :=
  ⟨s.connections.lookup k, s.registrations.lookup k, s.connectionSenders.lookup k,
    s.pendingRequests.lookup k, s.wsSessions.lookup k, s.wsInitWaiters.lookup k, s.outbound k,
    s.albOut k, s.replies k, s.initAcks k⟩

/-- The id whose entries a section may change. -/
def Section.key : Section → Option Uuid
  | .registerConnection c | .removeConnectionInfo c | .removeRegistration c | .removeSender c
  | .storeConnectionInfo c _ | .storeRegistration c _ | .updateHeartbeat c | .sendResponse c _
  | .sendOn c _ | .recvOutbound c | .closeOutbound c | .insertPending c | .removePending c
  | .insertSession c _ | .insertWaiter c | .removeWaiter c | .removeSession c
  | .handleWsProxyInitAck c _ | .handleWsProxyDataFromAgent c _ _
  | .handleWsProxyCloseFromAgent c _ _ | .recvAlbOut c => some c
  | .handleResponse resp => some resp.id
  | .writeCache _ _ => none

theorem Section.at_apply (sec : Section) (s : Ingress) {k : Uuid} (hk : sec.key ≠ some k) :
    (sec.apply s).at k = s.at k := by
  cases sec
  case writeCache => rfl
  all_goals
    simp only [key, ne_eq, Option.some.injEq] at hk
    simp only [apply]
    (repeat' split) <;>
      simp [Ingress.at, AList.lookup_insert_ne (Ne.symm hk), AList.lookup_erase_ne (Ne.symm hk),
        Function.update_noteq (Ne.symm hk), Ingress.send]

/-- Sections whose keys all differ from `k` leave everything under `k` alone. -/
theorem runSections_at {l : List Section} {k : Uuid} (hl : ∀ sec ∈ l, sec.key ≠ some k)
    (s : Ingress) : (runSections l s).at k = s.at k := by
  induction l generalizing s with
  | nil => rfl
  | cons sec rest ih =>
    simp only [List.mem_cons, forall_eq_or_imp] at hl
    rw [runSections_cons, ih hl.2, Section.at_apply sec s hl.1]

/-! ### Registrations are keyed by their own id -/

/-- Every stored registration carries the id it is stored under. -/
def IdNormalized (s : Ingress) : Prop :=
  ∀ k r, s.registrations.lookup k = some r → r.id = k

/-- A registration a section leaves under `k` was there before, or the section
stored it there, with its id overwritten by `k`. -/
theorem Section.lookup_registrations_apply (sec : Section) (s : Ingress) {k : Uuid}
    {r : ServiceRegistration} (h : (sec.apply s).registrations.lookup k = some r) :
    s.registrations.lookup k = some r ∨
      ∃ reg, sec = .storeRegistration k reg ∧ r = { reg with id := k } := by
  cases sec
  case removeRegistration c =>
    left
    by_cases hk : k = c
    · subst hk; simp [apply] at h
    · rwa [apply, AList.lookup_erase_ne hk] at h
  case storeRegistration c reg =>
    by_cases hk : k = c
    · subst hk
      simp only [apply, AList.lookup_insert, Option.some.injEq] at h
      exact .inr ⟨reg, rfl, h.symm⟩
    · left; rwa [apply, AList.lookup_insert_ne hk] at h
  all_goals left; revert h; simp only [apply]; (repeat' split) <;> exact id

theorem Section.idNormalized_apply (sec : Section) {s : Ingress} (h : IdNormalized s) :
    IdNormalized (sec.apply s) := by
  intro k r hr
  rcases sec.lookup_registrations_apply s hr with hr | ⟨reg, -, rfl⟩
  · exact h k r hr
  · rfl

/-! ### Which sections store registry entries -/

/-- The registry's three maps. -/
def Ingress.registry (s : Ingress) :
    Table ConnectionInfo × Table ServiceRegistration × Table Unit :=
  (s.connections, s.registrations, s.connectionSenders)

/-- The id under which a section may store a registry entry. -/
def Section.storeKey : Section → Option Uuid
  | .registerConnection c | .storeConnectionInfo c _ | .storeRegistration c _
  | .updateHeartbeat c => some c
  | _ => none

/-- A section that stores nothing under `k` adds `k` to none of the registry's maps. -/
theorem Section.mem_registry_apply (sec : Section) (s : Ingress) {k : Uuid}
    (hk : sec.storeKey ≠ some k) :
    (k ∈ (sec.apply s).connections → k ∈ s.connections) ∧
      (k ∈ (sec.apply s).registrations → k ∈ s.registrations) ∧
      (k ∈ (sec.apply s).connectionSenders → k ∈ s.connectionSenders) := by
  cases sec
  case registerConnection c | storeConnectionInfo c _ | storeRegistration c _ | updateHeartbeat c =>
    have hc : k ≠ c := fun h => hk (h ▸ rfl)
    simp only [apply]; (repeat' split) <;> simp [AList.mem_insert, hc]
  all_goals simp only [apply]; (repeat' split) <;> simp [AList.mem_erase, Ingress.send]

end AnywhereMesh.Server
