import AnywhereMesh.Server.WellFormed

/-! The registry over whole runs of the server. The server keeps no
authentication state: a `ServiceRegistration` frame is handled on any
connection, whether or not an `IamAuth` frame came first, and what it stores is
the frame's registration under the connection's id. Every registration of a
reachable state is such a copy, so it is keyed by its own id. The registry's
three maps are written by separate lock sections, though, so between the
sections of one operation they disagree. `remove_connection` purges a
connection only when its inbound task stays idle while the cleanup runs: when
`select!` returns on the outbound task nothing aborts the inbound one, and a
frame it handles afterwards stores the registration again, with no sender left
to reach the agent. The cleanup never looks at the tunnel tables. -/

namespace AnywhereMesh.Server

/-! ### Concrete runs -/

/-- A registration as an agent sends it. -/
def apiRegistration : ServiceRegistration :=
  ⟨7, "api.example.com", 8080, "api", "cluster", "arn:task", [], none⟩

/-- An `AuthService` that turns every request down. -/
def denyAll : IamAuthRequest → IamAuthResponse := fun _ => ⟨false, none, none⟩

/-- Connection 1 sends `apiRegistration` as its first frame, and the inbound task
handles it. -/
def registerOnOne : List Event :=
  [.accept 1, .receive 1 (some (.serviceRegistration apiRegistration)) denyAll,
    .inbound 1, .inbound 1, .inbound 1]

def registeredMesh : Mesh := (Mesh.init.execAll registerOnOne).getD Mesh.init

theorem registeredMesh_run : Run Mesh.init registerOnOne registeredMesh := Run.of_execAll rfl

/-- Connection 1's socket then ends, and `select!` starts its cleanup. -/
def startCleanup : List Event := registerOnOne ++ [.readEnd 1, .select 1]

def cleanupStarted : Mesh := (Mesh.init.execAll startCleanup).getD Mesh.init

theorem cleanupStarted_reachable : Reachable cleanupStarted :=
  ⟨startCleanup, Run.of_execAll rfl⟩

/-- The cleanup runs its three sections. -/
def cleanupSteps : List Event := [.cleanup 1, .cleanup 1, .cleanup 1]

def cleanedUp : Mesh := (cleanupStarted.execAll cleanupSteps).getD Mesh.init

/-! ### Registrations come from registration frames -/

/-- `c` received a `ServiceRegistration` frame carrying `reg`. -/
def RegistrationReceived (es : List Event) (c : Uuid) (reg : ServiceRegistration) : Prop :=
  ∃ authenticate, Event.receive c (some (.serviceRegistration reg)) authenticate ∈ es

theorem RegistrationReceived.append {es : List Event} {c : Uuid} {reg : ServiceRegistration}
    (h : RegistrationReceived es c reg) (es' : List Event) :
    RegistrationReceived (es ++ es') c reg :=
  let ⟨a, ha⟩ := h; ⟨a, List.mem_append_left _ ha⟩

/-- Every registration, stored or still to be stored by an inbound task, is a
frame its connection received. -/
structure RegistrationsFromFrames (es : List Event) (m : Mesh) : Prop where
  stored : ∀ c r, m.ingress.registrations.lookup c = some r →
    ∃ reg, RegistrationReceived es c reg ∧ r = { reg with id := c }
  queued : ∀ c t, m.conns c = some t → ∀ d reg,
    Section.storeRegistration d reg ∈ t.inbound → d = c ∧ RegistrationReceived es c reg

section

variable {m m' : Mesh} {e : Event} {es : List Event}

theorem Step.registrationsStored (h : Step m e m') (hw : m.WellFormed)
    (hr : RegistrationsFromFrames es m) {c : Uuid} {r : ServiceRegistration}
    (hc : m'.ingress.registrations.lookup c = some r) :
    ∃ reg, RegistrationReceived (es ++ [e]) c reg ∧ r = { reg with id := c } := by
  have old : m.ingress.registrations.lookup c = some r →
      ∃ reg, RegistrationReceived (es ++ [e]) c reg ∧ r = { reg with id := c } := fun hc =>
    let ⟨reg, hreg, hr⟩ := hr.stored c r hc; ⟨reg, hreg.append _, hr⟩
  rcases h.registry_cases hw with he | ⟨sec, he, hsec⟩ <;>
    simp only [Ingress.registry, Prod.mk.injEq] at he
  · exact old (he.2.1 ▸ hc)
  · rcases sec.lookup_registrations_apply _ (he.2.1 ▸ hc) with hc | ⟨reg, rfl, rfl⟩
    · exact old hc
    · rcases hsec with hk | ⟨_, _, hk⟩ | ⟨d, t, rest, rfl, ht, hi⟩
      · cases hk
      · cases hk
      · obtain ⟨rfl, hreg⟩ := hr.queued d t ht c reg (hi ▸ List.mem_cons_self _ _)
        exact ⟨reg, hreg.append _, rfl⟩

theorem Step.registrationsFromFrames (h : Step m e m') (hw : m.WellFormed)
    (hr : RegistrationsFromFrames es m) : RegistrationsFromFrames (es ++ [e]) m' := by
  refine ⟨fun c r hc => h.registrationsStored hw hr hc, ?_⟩
  have hq : ∀ c t, m.conns c = some t → ∀ d reg,
      Section.storeRegistration d reg ∈ t.inbound →
        d = c ∧ RegistrationReceived (es ++ [e]) c reg := fun c t ht d reg hd =>
    (hr.queued c t ht d reg hd).imp_right (·.append _)
  cases h with
  | receive c f authenticate t =>
    refine Mesh.forall_setConn hq fun d reg hd => ?_
    obtain ⟨rfl, rfl⟩ := storeRegistration_mem_handleWebsocketMessage hd
    exact ⟨rfl, authenticate, List.mem_append_right _ (List.mem_singleton_self _)⟩
  | inbound c t sec rest ht hi =>
    exact Mesh.forall_setConn hq fun d reg hd => hq c t ht d reg (hi ▸ List.mem_cons_of_mem _ hd)
  | readEnd c t ht | select c t ht | cleanup c t _ _ ht => exact Mesh.forall_setConn hq (hq c t ht)
  | accept c => exact Mesh.forall_setConn hq fun _ _ h => nomatch h
  | _ => exact hq

theorem Run.registrationsFromFrames {es' : List Event} (h : Run m es' m') (hw : m.WellFormed)
    (hr : RegistrationsFromFrames es m) :
    m'.WellFormed ∧ RegistrationsFromFrames (es ++ es') m' := by
  induction h generalizing es with
  | nil => exact ⟨hw, by simpa using hr⟩
  | cons hs _ ih =>
    have := ih (hs.wellFormed hw) (hs.registrationsFromFrames hw hr)
    simpa using this

end

/-- A registration stored under `c` in a state that a run reaches is the
registration of a `ServiceRegistration` frame received on `c` during that run,
with its id overwritten by `c`. Nothing else is asked of `c`: no frame is gated
on authentication. -/
theorem registration_from_frame {es : List Event} {m : Mesh} (h : Run Mesh.init es m)
    {c : Uuid} {r : ServiceRegistration} (hr : m.ingress.registrations.lookup c = some r) :
    ∃ reg authenticate, Event.receive c (some (.serviceRegistration reg)) authenticate ∈ es ∧
      r = { reg with id := c } := by
  have hinit : RegistrationsFromFrames [] Mesh.init :=
    ⟨fun _ _ h => by simp [Mesh.init, Ingress.init] at h, fun _ _ h => (nomatch h)⟩
  obtain ⟨reg, ⟨a, ha⟩, rfl⟩ :=
    ((h.registrationsFromFrames Mesh.wellFormed_init hinit).2.stored c r hr)
  exact ⟨reg, a, by simpa using ha, rfl⟩

theorem registration_from_frame_registerOnOne :
    ∃ reg authenticate,
      Event.receive 1 (some (.serviceRegistration reg)) authenticate ∈ registerOnOne ∧
        { apiRegistration with id := 1 } = { reg with id := 1 } :=
  registration_from_frame registeredMesh_run (by decide)

/-- Connection 1 holds a registration though no frame on it was ever an
`IamAuth` answered with success. -/
theorem registration_without_authentication :
    ¬ ∀ es m, Run Mesh.init es m → ∀ c r, m.ingress.registrations.lookup c = some r →
      ∃ req authenticate, Event.receive c (some (.iamAuth req)) authenticate ∈ es ∧
        (authenticate req).success = true := by
  intro h
  obtain ⟨req, a, hmem, -⟩ :=
    h _ _ registeredMesh_run 1 { apiRegistration with id := 1 } (by decide)
  simp [registerOnOne] at hmem

/-! ### Registrations are keyed by their own id -/

/-- In every reachable state each registration is stored under its own id, so
`connections[reg.id]` and `get_connection_sender(reg.id)` look up the
registration's own connection, whatever the other maps hold for it then. -/
theorem reachable_idNormalized {m : Mesh} (h : Reachable m) : IdNormalized m.ingress :=
  h.invariant (P := fun m => IdNormalized m.ingress)
    (fun _ _ h => by simp [Mesh.init, Ingress.init] at h)
    fun _ _ _ hm hs => hs.ingress_invariant (fun sec _ => sec.idNormalized_apply)
      (fun _ => id) (fun _ _ => id) hm

theorem reachable_idNormalized_registeredMesh : IdNormalized registeredMesh.ingress :=
  reachable_idNormalized ⟨_, registeredMesh_run⟩

/-- One section into the cleanup of connection 1, its registration is still
there and its connection info is gone. -/
theorem registration_outlives_connection_info :
    ¬ ∀ m, Reachable m → ∀ k r, m.ingress.registrations.lookup k = some r →
      r.id = k ∧ (∃ info, m.ingress.connections.lookup k = some info ∧ info.host = r.host) ∧
        k ∈ m.ingress.connectionSenders := by
  intro h
  obtain ⟨m, hrun, hp⟩ := Run.exists_of_execAll (m := cleanupStarted) [.cleanup 1]
    (p := fun m =>
      (m.ingress.registrations.lookup 1).isSome && (m.ingress.connections.lookup 1).isNone)
    (by decide)
  simp only [Bool.and_eq_true, Option.isSome_iff_exists, Option.isNone_iff_eq_none] at hp
  obtain ⟨⟨r, hr⟩, hc⟩ := hp
  obtain ⟨-, ⟨info, hi, -⟩, -⟩ := h m (cleanupStarted_reachable.run hrun) 1 r hr
  simp [hc] at hi

/-! ### What a frame of one agent does to another's entries -/

/-- A `ServiceDeregistration` from connection 2 naming connection 1 removes
connection 1's registration. -/
theorem deregistration_of_another_connection :
    ¬ ∀ m, Reachable m → ∀ c c' f authenticate, c ≠ c' → m.conns c ≠ none →
      m.conns c' ≠ none →
      (runSections (sectionsOf (handleWebsocketMessage c authenticate f))
        m.ingress).registrations.lookup c' = m.ingress.registrations.lookup c' := by
  intro h
  obtain ⟨m, hrun, hp⟩ := Run.exists_of_execAll (m := Mesh.init) (registerOnOne ++ [.accept 2])
    (p := fun m => (m.conns 1).isSome && (m.conns 2).isSome &&
      (m.ingress.registrations.lookup 1).isSome &&
      ((runSections (sectionsOf (handleWebsocketMessage 2 denyAll
        (some (.serviceDeregistration 1)))) m.ingress).registrations.lookup 1).isNone)
    (by decide)
  simp only [Bool.and_eq_true, Option.isSome_iff_ne_none, Option.isNone_iff_eq_none] at hp
  obtain ⟨⟨⟨h1, h2⟩, hr⟩, hd⟩ := hp
  exact hr ((h m ⟨_, hrun⟩ 2 1 _ denyAll (by decide) h2 h1).symm.trans hd)

/-! ### `remove_connection` -/

/-- What one section of `remove_connection c` does to `c`'s registry entries. -/
theorem mem_registry_removeConnection {c : Uuid} {sec : Section} (hsec : sec ∈ removeConnection c)
    (s : Ingress) :
    (c ∈ (sec.apply s).connections ↔
        sec ≠ .removeConnectionInfo c ∧ c ∈ s.connections) ∧
      (c ∈ (sec.apply s).registrations ↔
        sec ≠ .removeRegistration c ∧ c ∈ s.registrations) ∧
      (c ∈ (sec.apply s).connectionSenders ↔
        sec ≠ .removeSender c ∧ c ∈ s.connectionSenders) := by
  simp only [removeConnection, List.mem_cons, List.mem_singleton, List.not_mem_nil,
    or_false] at hsec
  rcases hsec with rfl | rfl | rfl <;> simp [Section.apply, AList.mem_erase]

/-- How far the cleanup of `c` has got; what it has removed stays removed. -/
def Purging (c : Uuid) (m : Mesh) : Prop :=
  ∃ t l, m.conns c = some t ∧ t.cleanup = some l ∧ l <:+ removeConnection c ∧
    (Section.removeConnectionInfo c ∉ l → c ∉ m.ingress.connections) ∧
    (Section.removeRegistration c ∉ l → c ∉ m.ingress.registrations) ∧
    (Section.removeSender c ∉ l → c ∉ m.ingress.connectionSenders)

/-- A map the next section of the cleanup removes `c` from, or that already
lacked `c`, lacks it afterwards. -/
theorem not_mem_of_cleanup_cons {a sec : Section} {rest : List Section} {P P' : Prop}
    (hiff : P' ↔ sec ≠ a ∧ P) (h : a ∉ sec :: rest → ¬ P) (ha : a ∉ rest) : ¬ P' := by
  rw [hiff]
  rintro ⟨hs, hp⟩
  exact h (by simp [ha, Ne.symm hs]) hp

theorem Step.purging {m m' : Mesh} {e : Event} (h : Step m e m') (hw : m.WellFormed) {c : Uuid}
    (he : e ≠ .inbound c) (hp : Purging c m) : Purging c m' := by
  obtain ⟨t, l, ht, hl, hsuf, h₁, h₂, h₃⟩ := hp
  rcases h.cleanup_cases ht hl with ⟨t', ht', hl'⟩ | ⟨t', sec, rest, rfl, ht', hl', hs⟩
  · obtain ⟨k₁, k₂, k₃⟩ := h.mem_registry hw (by simp [ht]) he
    exact ⟨t', l, ht', hl', hsuf, fun h => mt k₁ (h₁ h), fun h => mt k₂ (h₂ h),
      fun h => mt k₃ (h₃ h)⟩
  · obtain ⟨i₁, i₂, i₃⟩ :=
      mem_registry_removeConnection (hsuf.mem (List.mem_cons_self _ _)) m.ingress
    rw [← hs] at i₁ i₂ i₃
    exact ⟨t', rest, ht', hl', (List.suffix_cons _ _).trans hsuf,
      not_mem_of_cleanup_cons i₁ h₁, not_mem_of_cleanup_cons i₂ h₂,
      not_mem_of_cleanup_cons i₃ h₃⟩

theorem Run.purging {m m' : Mesh} {es : List Event} (h : Run m es m') (hw : m.WellFormed)
    {c : Uuid} (hq : Event.inbound c ∉ es) (hp : Purging c m) : Purging c m' := by
  induction h with
  | nil => exact hp
  | cons hs _ ih =>
    simp only [List.mem_cons, not_or] at hq
    exact ih (hs.wellFormed hw) hq.2 (hs.purging hw (Ne.symm hq.1) hp)

/-- Once `remove_connection c` has returned, and provided `c`'s inbound task
took no step since the cleanup began, no registry map holds `c`. The cleanup
does not touch the tunnel tables at all: sessions whose agent is `c`, and their
waiters, stay until their own tunnel or the agent's close removes them. -/
theorem removeConnection_purges {m m' : Mesh} {es : List Event} {c : Uuid} {t t' : ConnTask}
    (hm : Reachable m) (ht : m.conns c = some t) (hc : t.cleanup = some (removeConnection c))
    (hrun : Run m es m') (hquiet : Event.inbound c ∉ es)
    (ht' : m'.conns c = some t') (hdone : t'.cleanup = some []) :
    (c ∉ m'.ingress.connections ∧ c ∉ m'.ingress.registrations ∧
      c ∉ m'.ingress.connectionSenders) ∧
    ∀ s, (runSections (removeConnection c) s).wsSessions = s.wsSessions ∧
      (runSections (removeConnection c) s).wsInitWaiters = s.wsInitWaiters := by
  have hstart : Purging c m :=
    ⟨t, _, ht, hc, List.suffix_refl _, fun h => absurd (by simp [removeConnection]) h,
      fun h => absurd (by simp [removeConnection]) h,
      fun h => absurd (by simp [removeConnection]) h⟩
  obtain ⟨t'', l, ht'', hl, -, h₁, h₂, h₃⟩ := hrun.purging hm.wellFormed hquiet hstart
  rw [ht', Option.some.injEq] at ht''
  subst ht''
  rw [hdone, Option.some.injEq] at hl
  subst hl
  exact ⟨⟨h₁ (List.not_mem_nil _), h₂ (List.not_mem_nil _), h₃ (List.not_mem_nil _)⟩,
    fun _ => ⟨rfl, rfl⟩⟩

theorem removeConnection_purges_cleanedUp :
    (1 ∉ cleanedUp.ingress.connections ∧ 1 ∉ cleanedUp.ingress.registrations ∧
      1 ∉ cleanedUp.ingress.connectionSenders) ∧
    ∀ s, (runSections (removeConnection 1) s).wsSessions = s.wsSessions ∧
      (runSections (removeConnection 1) s).wsInitWaiters = s.wsInitWaiters :=
  @removeConnection_purges cleanupStarted cleanedUp cleanupSteps 1
    ⟨false, [], some (removeConnection 1)⟩ ⟨false, [], some []⟩ cleanupStarted_reachable
    (by decide) rfl (Run.of_execAll rfl) (by simp [cleanupSteps]) (by decide) rfl

/-- Connection 1 registers and becomes the agent of session 5; it sends a second
`ServiceRegistration` frame, and its socket write then fails. `select!` returns
on the outbound task and the three sections of `remove_connection 1` run, but
nothing aborts the inbound task, which then handles the frame. -/
def zombieRegistration : List Event :=
  registerOnOne ++
    [.upgradeRequest 5 "api.example.com" "/" [] none, .tunnel 5, .tunnel 5, .tunnel 5, .tunnel 5,
      .tunnel 5, .receive 1 (some (.serviceRegistration apiRegistration)) denyAll, .writeFail 1,
      .select 1, .cleanup 1, .cleanup 1, .cleanup 1, .inbound 1, .inbound 1]

def zombieMesh : Mesh := (Mesh.init.execAll zombieRegistration).getD Mesh.init

/-- After `remove_connection 1` has returned, connection 1's connection info and
registration are back, with no sender to reach its agent, and session 5 still
has connection 1 as its agent. -/
theorem removeConnection_leaves_entries :
    Reachable zombieMesh ∧ (zombieMesh.conns 1).bind ConnTask.cleanup = some [] ∧
      zombieMesh.ingress.registrations.lookup 1 = some { apiRegistration with id := 1 } ∧
      1 ∈ zombieMesh.ingress.connections ∧ 1 ∉ zombieMesh.ingress.connectionSenders ∧
      zombieMesh.ingress.wsSessions.lookup 5 = some ⟨1⟩ :=
  ⟨⟨zombieRegistration, Run.of_execAll rfl⟩, by decide⟩

end AnywhereMesh.Server
