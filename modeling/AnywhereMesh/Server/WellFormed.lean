import AnywhereMesh.Server.Mesh

/-! What every reachable state of the server satisfies by construction: the
sections a connection's inbound task still has to run are the tail of what the
handler returned for one frame, its cleanup is the tail of `remove_connection`,
and every route task is filed under its request's id. From these, the registry
inversion: a step changes the registry's maps by at most one section, and the
only steps that run a section storing an entry are an accept and an inbound
task's. -/

namespace AnywhereMesh.Server

/-- What a connection's tasks hold. -/
structure ConnTask.WellFormed (c : Uuid) (t : ConnTask) : Prop where
  inbound_handled : ∃ f authenticate,
    t.inbound <:+ sectionsOf (handleWebsocketMessage c authenticate f)
  cleanup_suffix : ∀ l, t.cleanup = some l → l <:+ removeConnection c

structure Mesh.WellFormed (m : Mesh) : Prop where
  conns : ∀ c t, m.conns c = some t → t.WellFormed c
  routes : ∀ r t, m.routes r = some t → t.request.id = r

section

variable {m m' : Mesh} {e : Event}

theorem Mesh.wellFormed_init : Mesh.init.WellFormed :=
  ⟨fun _ _ h => (nomatch h), fun _ _ h => (nomatch h)⟩

theorem Step.wellFormed (h : Step m e m') (hw : m.WellFormed) : m'.WellFormed := by
  cases h with
  | accept c =>
    exact ⟨Mesh.forall_setConn hw.conns
      ⟨⟨none, fun _ => ⟨false, none, none⟩, List.nil_suffix⟩, fun _ h => nomatch h⟩,
      hw.routes⟩
  | receive c f authenticate t ht =>
    exact ⟨Mesh.forall_setConn hw.conns
      ⟨⟨f, authenticate, List.suffix_refl _⟩, (hw.conns c t ht).cleanup_suffix⟩,
      hw.routes⟩
  | readEnd c t ht =>
    have ht := hw.conns c t ht
    exact ⟨Mesh.forall_setConn hw.conns ⟨ht.inbound_handled, ht.cleanup_suffix⟩, hw.routes⟩
  | inbound c t sec rest ht hi =>
    obtain ⟨⟨f, authenticate, hs⟩, hc⟩ := hw.conns c t ht
    rw [hi] at hs
    exact ⟨Mesh.forall_setConn hw.conns
      ⟨⟨f, authenticate, (List.suffix_cons sec rest).trans hs⟩, hc⟩, hw.routes⟩
  | select c t ht =>
    exact ⟨Mesh.forall_setConn hw.conns ⟨(hw.conns c t ht).inbound_handled,
      fun l hl => Option.some.inj hl ▸ List.suffix_refl _⟩, hw.routes⟩
  | cleanup c t sec rest ht hc =>
    have ht := hw.conns c t ht
    exact ⟨Mesh.forall_setConn hw.conns ⟨ht.inbound_handled, fun l hl =>
      Option.some.inj hl ▸ (List.suffix_cons sec rest).trans (ht.cleanup_suffix _ hc)⟩,
      hw.routes⟩
  | request req => exact ⟨hw.conns, Mesh.forall_setRoute hw.routes rfl⟩
  | route r t _ _ ht | dropRoute r t ht =>
    exact ⟨hw.conns, Mesh.forall_setRoute hw.routes (hw.routes r t ht)⟩
  | _ => exact ⟨hw.conns, hw.routes⟩

theorem Reachable.wellFormed (h : Reachable m) : m.WellFormed :=
  h.invariant Mesh.wellFormed_init fun _ _ _ hw hs => hs.wellFormed hw

/-! ### Who stores registry entries -/

theorem Mesh.runOpt_registry (o : Option Section) :
    (m.runOpt o).ingress.registry = m.ingress.registry ∨
      ∃ sec, o = some sec ∧ (m.runOpt o).ingress.registry = (sec.apply m.ingress).registry := by
  cases o
  · exact .inl rfl
  · exact .inr ⟨_, rfl, rfl⟩

/-- A step changes the registry's maps by at most one section; a section that
stores an entry is run only by an accept or by an inbound task. -/
theorem Step.registry_cases (h : Step m e m') (hw : m.WellFormed) :
    m'.ingress.registry = m.ingress.registry ∨
      ∃ sec, m'.ingress.registry = (sec.apply m.ingress).registry ∧
        (sec.storeKey = none ∨ (∃ c, e = .accept c ∧ sec = .registerConnection c) ∨
          ∃ c t rest, e = .inbound c ∧ m.conns c = some t ∧ t.inbound = sec :: rest) := by
  cases h with
  | accept c => exact .inr ⟨.registerConnection c, rfl, .inr (.inl ⟨c, rfl, rfl⟩)⟩
  | inbound c t sec rest ht hi =>
    exact .inr ⟨sec, rfl, .inr (.inr ⟨c, t, rest, rfl, ht, hi⟩)⟩
  | cleanup c t sec rest ht hc =>
    have hmem := ((hw.conns c t ht).cleanup_suffix _ hc).mem (List.mem_cons_self sec rest)
    simp only [removeConnection, List.mem_cons, List.mem_singleton, List.not_mem_nil,
      or_false] at hmem
    exact .inr ⟨sec, rfl, .inl (by rcases hmem with rfl | rfl | rfl <;> rfl)⟩
  | writeFail c => exact .inr ⟨.closeOutbound c, rfl, .inl rfl⟩
  | outbound c => exact .inr ⟨.recvOutbound c, rfl, .inl rfl⟩
  | downstreamWriteFail sid => exact .inr ⟨.recvAlbOut sid, rfl, .inl rfl⟩
  | route r t sec p ht hs =>
    rcases m.runOpt_registry sec with he | ⟨sec, rfl, he⟩
    · exact .inl he
    · refine .inr ⟨sec, he, .inl ?_⟩
      rcases routeStep_section hs with ⟨_, _, rfl⟩ | rfl | ⟨_, rfl⟩ | rfl <;> rfl
  | tunnel sid t sec p ht hs =>
    rcases m.runOpt_registry sec with he | ⟨sec, rfl, he⟩
    · exact .inl he
    · refine .inr ⟨sec, he, .inl ?_⟩
      rcases tunnelStep_section hs with
        ⟨_, _, rfl⟩ | ⟨_, rfl⟩ | rfl | rfl | rfl | rfl <;> rfl
  | downstream sid t agent b f =>
    rcases m.runOpt_registry ((albToAgentMessage sid f).map (.sendOn agent)) with
      he | ⟨sec, hs, he⟩
    · exact .inl he
    · obtain ⟨_, -, rfl⟩ := Option.map_eq_some'.mp hs
      exact .inr ⟨_, he, .inl rfl⟩
  | _ => exact .inl rfl

/-- A step adds a connection `c` to none of the registry's maps, unless it is a
step of `c`'s own inbound task. -/
theorem Step.mem_registry (h : Step m e m') (hw : m.WellFormed) {c : Uuid}
    (hc : m.conns c ≠ none) (he : e ≠ .inbound c) :
    (c ∈ m'.ingress.connections → c ∈ m.ingress.connections) ∧
      (c ∈ m'.ingress.registrations → c ∈ m.ingress.registrations) ∧
      (c ∈ m'.ingress.connectionSenders → c ∈ m.ingress.connectionSenders) := by
  rcases h.registry_cases hw with he' | ⟨sec, he', hsec⟩ <;>
    simp only [Ingress.registry, Prod.mk.injEq] at he' <;> rw [he'.1, he'.2.1, he'.2.2]
  · exact ⟨id, id, id⟩
  refine sec.mem_registry_apply _ ?_
  rcases hsec with hk | ⟨d, rfl, rfl⟩ | ⟨d, t, rest, rfl, ht, hi⟩
  · simp [hk]
  · have hd : m.conns d = none := by cases h; assumption
    simp only [Section.storeKey, ne_eq, Option.some.injEq]
    rintro rfl
    exact hc hd
  · obtain ⟨f, a, hs⟩ := (hw.conns d t ht).inbound_handled
    have hdc : d ≠ c := fun hdc => he (hdc ▸ rfl)
    rcases storeKey_of_mem_handleWebsocketMessage d a f sec (hs.mem (hi ▸ List.mem_cons_self _ _))
      with hk | hk <;> simp [hk, hdc]

end

end AnywhereMesh.Server
