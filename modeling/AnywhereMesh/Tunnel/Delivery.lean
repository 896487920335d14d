import AnywhereMesh.Tunnel.Exchange

/-! No request is delivered twice. `route_request` sends its `ProxyRequestForward`
once, from `sending`, on the sender of the service it picked; no other task of
the server sends one, and the sockets neither copy nor reorder. Proved: in every
reachable state of the exchange, an agent reads each request at most once, and
no two agents read the same request.

The invariant is stated over one stream per connection: what its agent has
read, then what it has not read yet, then what the server's channel still
holds. Moving a message along the socket leaves the stream as it is; every step
of the server leaves a part of it followed by messages that are not forwarded
requests, except the send of a route task, which adds its own request on one
connection. -/

namespace AnywhereMesh

open scoped List

namespace Server

/-- The phases of `route_request` before it has sent its request. -/
def RoutePhase.beforeSend : RoutePhase → Bool
  | .findMatching | .computing | .caching _ | .selecting _ | .forwarding _ | .sending _ => true
  | _ => false

/-- Once a route task has sent its request it never comes back before the send. -/
theorem routeStep_beforeSend {req : ProxyRequest} {s : Ingress} {ph p : RoutePhase}
    {sec : Option Section} (h : routeStep req s ph = some (sec, p)) (hb : ph.beforeSend = false) :
    p.beforeSend = false := by
  cases ph <;> simp only [RoutePhase.beforeSend, Bool.true_eq_false] at hb <;>
    simp only [routeStep] at h <;> (repeat' split at h) <;>
    simp only [Option.some.injEq, Prod.mk.injEq, reduceCtorEq, false_and] at h <;>
    obtain ⟨-, rfl⟩ := h <;> rfl

/-- The messages a section puts on connection `c`'s channel. -/
def Section.sentOn (c : Uuid) : Section → List IngressMessage
  | .sendResponse d m | .sendOn d m => if d = c then [m] else []
  | _ => []

theorem Section.sent_of_mem_sentOn {sec : Section} {c : Uuid} {msg : IngressMessage}
    (h : msg ∈ sec.sentOn c) : sec.sent = some msg := by
  cases sec <;> simp only [sentOn, List.not_mem_nil] at h <;> split at h <;>
    simp_all [sent]

theorem Ingress.outbound_send_sublist (s : Ingress) (c d : Uuid) (m : IngressMessage) :
    ((s.send d m).outbound c).getD [] <+ (s.outbound c).getD [] ++ if d = c then [m] else [] := by
  by_cases hc : d = c
  · subst hc
    cases h : s.outbound d <;> simp [Ingress.send, h]
  · simp [Ingress.send, Function.update_noteq (Ne.symm hc), hc]

/-- What a section leaves on a channel is part of what was there, followed by
what the section sent there. -/
theorem Section.outbound_apply_sublist (sec : Section) (s : Ingress) (c : Uuid) :
    ((sec.apply s).outbound c).getD [] <+ (s.outbound c).getD [] ++ sec.sentOn c := by
  cases sec
  case sendResponse d m =>
    simp only [apply, sentOn]
    split
    · exact s.outbound_send_sublist c d m
    · exact List.sublist_append_left _ _
  case sendOn d m => exact s.outbound_send_sublist c d m
  case recvOutbound d =>
    simp only [apply, sentOn, List.append_nil]
    split
    · next q hq =>
      by_cases hc : c = d
      · subst hc
        simp [hq]
      · simp [Function.update_noteq hc]
    · exact List.Sublist.refl _
  case closeOutbound d =>
    by_cases hc : c = d
    · subst hc
      simp [apply]
    · simp [apply, sentOn, Function.update_noteq hc]
  all_goals simp only [apply, sentOn, List.append_nil]; (repeat' split) <;> exact List.Sublist.refl _

section

variable {m m' : Mesh} {e : Event}

/-- A route task that has sent its request keeps it, and stays past the send. -/
theorem Step.routes_beforeSend (h : Step m e m') {r : Uuid} {t : RouteTask}
    (ht : m.routes r = some t) (hb : t.phase.beforeSend = false) :
    ∃ t', m'.routes r = some t' ∧ t'.request = t.request ∧ t'.phase.beforeSend = false := by
  rcases h.routes_cases with he | ⟨req, hn, he⟩ | ⟨r', t₀, p, h₀, he, hp⟩ <;> rw [he]
  · exact ⟨t, ht, rfl, hb⟩
  · have hr : r ≠ req.id := by rintro rfl; simp [ht] at hn
    exact ⟨t, by rw [Function.update_noteq hr, ht], rfl, hb⟩
  · by_cases hr : r = r'
    · subst hr
      rw [ht, Option.some.injEq] at h₀
      subst h₀
      refine ⟨_, Function.update_same _ _ _, rfl, ?_⟩
      rcases hp with ⟨_, hs⟩ | rfl
      · exact routeStep_beforeSend hs hb
      · rfl
    · exact ⟨t, by rw [Function.update_noteq hr, ht], rfl, hb⟩

/-- What a step leaves on the channels toward the agents: on each, part of what
was there followed by messages that are not forwarded requests; or, for the
send of a route task, also its own request on the connection it picked, the
task moving from `sending` to `waiting`. -/
theorem Step.outbound_cases (h : Step m e m') (hw : m.WellFormed) :
    (∃ added : Uuid → List IngressMessage,
      (∀ c, (m'.ingress.outbound c).getD [] <+ (m.ingress.outbound c).getD [] ++ added c) ∧
        ∀ c req, .proxyRequestForward req ∉ added c) ∨
      ∃ r t service, m.routes r = some t ∧ t.phase = .sending service ∧
        m'.routes = Function.update m.routes r
          (some { t with phase := .waiting (m.ingress.clock + requestTimeout) }) ∧
        ∀ c, (m'.ingress.outbound c).getD [] <+ (m.ingress.outbound c).getD [] ++
          if service.id = c then [.proxyRequestForward t.request] else [] := by
  have keep : ∀ c, (m.ingress.outbound c).getD [] <+ (m.ingress.outbound c).getD [] ++ [] :=
    fun c => by rw [List.append_nil]
  rcases h.ingress_cases hw with he | he | ⟨d, he⟩ | ⟨sec, he, hsec⟩ <;> rw [he]
  · exact .inl ⟨fun _ => [], keep, fun _ _ => List.not_mem_nil _⟩
  · exact .inl ⟨fun _ => [], keep, fun _ _ => List.not_mem_nil _⟩
  · refine .inl ⟨fun _ => [], fun c => ?_, fun _ _ => List.not_mem_nil _⟩
    by_cases hc : c = d
    · subst hc
      simp [Section.apply]
    · simp [Section.apply, Function.update_noteq hc]
  rcases hsec with hf | ⟨_, _, _, _, -, -, rfl⟩ | ⟨r, t, service, ht, hph, ht', rfl⟩
  · exact .inl ⟨fun c => sec.sentOn c, sec.outbound_apply_sublist _, fun c req hm =>
      Section.sent_ne_forward hf req (Section.sent_of_mem_sentOn hm)⟩
  · exact .inl ⟨fun _ => [], fun c => (Section.outbound_apply_sublist _ _ c), fun _ _ => List.not_mem_nil _⟩
  · exact .inr ⟨r, t, service, ht, hph, ht', Section.outbound_apply_sublist _ _⟩

end

end Server

open Server

namespace Exchange

/-- Everything on its way to connection `c`'s agent, in order: what the agent
has read, what it has not read yet, and what the server's channel still holds. -/
def stream (x : Exchange) (c : Uuid) : List IngressMessage :=
  x.received c ++ x.toAgent c ++ (x.mesh.ingress.outbound c).getD []

/-- Each forwarded request is on at most one stream, at most once, and only
after its route task has sent it. -/
structure Delivered (x : Exchange) : Prop where
  sent : ∀ c req, .proxyRequestForward req ∈ x.stream c →
    ∃ t, x.mesh.routes req.id = some t ∧ t.request = req ∧ t.phase.beforeSend = false
  once : ∀ c req, (x.stream c).count (.proxyRequestForward req) ≤ 1
  unique : ∀ c d req, .proxyRequestForward req ∈ x.stream c →
    .proxyRequestForward req ∈ x.stream d → c = d

section

variable {x x' : Exchange}

/-- The tasks that have sent their request keep it. -/
def SentKept (x x' : Exchange) : Prop :=
  ∀ r t, x.mesh.routes r = some t → t.phase.beforeSend = false →
    ∃ t', x'.mesh.routes r = some t' ∧ t'.request = t.request ∧ t'.phase.beforeSend = false

/-- Streams that keep a part of themselves, followed by messages that are not
forwarded requests, keep the invariant. -/
theorem Delivered.of_sublist (hd : Delivered x) (hk : SentKept x x')
    {added : Uuid → List IngressMessage}
    (hs : ∀ c, x'.stream c <+ x.stream c ++ added c)
    (ha : ∀ c req, .proxyRequestForward req ∉ added c) : Delivered x' := by
  have hmem : ∀ c req, .proxyRequestForward req ∈ x'.stream c →
      .proxyRequestForward req ∈ x.stream c := fun c req h =>
    (List.mem_append.mp ((hs c).subset h)).resolve_right (ha c req)
  refine ⟨fun c req h => ?_, fun c req => ?_, fun c d req hc hd' =>
    hd.unique c d req (hmem c req hc) (hmem d req hd')⟩
  · obtain ⟨t, ht, rfl, hb⟩ := hd.sent c req (hmem c req h)
    obtain ⟨t', ht', hreq, hb'⟩ := hk _ t ht hb
    exact ⟨t', ht', hreq, hb'⟩
  · calc (x'.stream c).count (.proxyRequestForward req)
        ≤ (x.stream c ++ added c).count (.proxyRequestForward req) := (hs c).count_le _
      _ = (x.stream c).count (.proxyRequestForward req) := by
          rw [List.count_append, List.count_eq_zero_of_not_mem (ha c req), Nat.add_zero]
      _ ≤ 1 := hd.once c req

/-- The send of a route task keeps the invariant: its request was on no stream,
and it is now on the one of the connection it picked. -/
theorem Delivered.of_send (hd : Delivered x) (hw : x.mesh.WellFormed) {r : Uuid} {t : RouteTask}
    {service : ServiceRegistration} {p : RoutePhase} (ht : x.mesh.routes r = some t)
    (hph : t.phase = .sending service)
    (hroutes : x'.mesh.routes = Function.update x.mesh.routes r (some { t with phase := p }))
    (hp : p.beforeSend = false)
    (hs : ∀ c, x'.stream c <+ x.stream c ++
      if service.id = c then [.proxyRequestForward t.request] else []) : Delivered x' := by
  have hr : t.request.id = r := hw.routes r t ht
  have hfresh : ∀ c, .proxyRequestForward t.request ∉ x.stream c := fun c h => by
    obtain ⟨t₀, h₀, -, hb⟩ := hd.sent c _ h
    rw [hr, ht, Option.some.injEq] at h₀
    subst h₀
    simp [hph, RoutePhase.beforeSend] at hb
  have hmem : ∀ c req, .proxyRequestForward req ∈ x'.stream c →
      .proxyRequestForward req ∈ x.stream c ∨ req = t.request ∧ service.id = c := fun c req h => by
    rcases List.mem_append.mp ((hs c).subset h) with h | h
    · exact .inl h
    · split at h <;> simp_all
  refine ⟨fun c req h => ?_, fun c req => ?_, fun c d req hc hd' => ?_⟩
  · rcases hmem c req h with h | ⟨rfl, -⟩
    · obtain ⟨t₀, h₀, rfl, hb⟩ := hd.sent c _ h
      by_cases h₀r : t₀.request.id = r
      · rw [h₀r, ht, Option.some.injEq] at h₀
        subst h₀
        simp [hph, RoutePhase.beforeSend] at hb
      · exact ⟨t₀, by rw [hroutes, Function.update_noteq h₀r, h₀], rfl, hb⟩
    · exact ⟨{ t with phase := p }, by rw [hroutes, hr, Function.update_same], rfl, hp⟩
  · refine ((hs c).count_le _).trans ?_
    rw [List.count_append]
    by_cases hreq : req = t.request
    · subst hreq
      rw [List.count_eq_zero_of_not_mem (hfresh c), Nat.zero_add]
      split <;> simp
    · have hnot : IngressMessage.proxyRequestForward req ∉
          if service.id = c then [IngressMessage.proxyRequestForward t.request] else [] := by
        split <;> simp [hreq]
      rw [List.count_eq_zero_of_not_mem hnot, Nat.add_zero]
      exact hd.once c req
  · rcases hmem c req hc with hc | ⟨hreq, hcs⟩ <;> rcases hmem d req hd' with hd' | ⟨hreq', hds⟩
    · exact hd.unique c d req hc hd'
    · exact absurd hc (hreq' ▸ hfresh c)
    · exact absurd hd' (hreq ▸ hfresh d)
    · exact hcs.symm.trans hds

theorem Delivered.of_stream (hd : Delivered x) (hr : x'.mesh.routes = x.mesh.routes)
    (hs : x'.stream = x.stream) : Delivered x' :=
  ⟨fun c req h => hr ▸ hd.sent c req (hs ▸ h), fun c req => hs ▸ hd.once c req,
    fun c d req hc hd' => hd.unique c d req (hs ▸ hc) (hs ▸ hd')⟩

/-- After a step of the server alone, a stream is part of what it was, followed
by what the server's channel gained. -/
theorem stream_sublist {m : Mesh} {c : Uuid} {l : List IngressMessage}
    (h : (m.ingress.outbound c).getD [] <+ (x.mesh.ingress.outbound c).getD [] ++ l) :
    { x with mesh := m }.stream c <+ x.stream c ++ l := by
  simpa only [stream, List.append_assoc] using h.append_left (x.received c ++ x.toAgent c)

/-- Every event keeps the invariant. -/
theorem Delivered.exec {ev : ExchangeEvent} (hd : Delivered x) (hw : x.mesh.WellFormed)
    (h : x.exec handler ev = some x') : Delivered x' := by
  cases ev with
  | server e =>
    obtain ⟨-, m, hs, rfl⟩ := exec_server_inv h
    rcases hs.outbound_cases hw with ⟨added, hsub, ha⟩ | ⟨r, t, service, ht, hph, hroutes, hsub⟩
    · exact hd.of_sublist (fun _ _ ht hb => hs.routes_beforeSend ht hb)
        (fun c => stream_sublist (hsub c)) ha
    · exact hd.of_send hw ht hph hroutes rfl fun c => stream_sublist (hsub c)
  | outbound c =>
    obtain ⟨msg, q, hq, rfl⟩ := exec_outbound_inv h
    refine hd.of_stream rfl (funext fun d => ?_)
    by_cases hd : d = c
    · subst hd
      simp [stream, Section.apply, hq]
    · simp [stream, Section.apply, hq, Function.update_noteq hd]
  | agentRead c handled =>
    obtain ⟨msg, q, hq, rfl⟩ := exec_agentRead_inv h
    refine hd.of_stream rfl (funext fun d => ?_)
    by_cases hd : d = c
    · subst hd
      simp [stream, hq]
    · simp [stream, Function.update_noteq hd]
  | agentSend c msg =>
    obtain ⟨-, rfl⟩ := exec_agentSend_inv h
    exact hd.of_stream rfl rfl
  | serverRead c a =>
    obtain ⟨_, _, m, -, -, hing, hroutes, rfl⟩ := exec_serverRead_inv h
    exact hd.of_stream hroutes (funext fun d => by simp only [stream, hing])

end

theorem Reachable.delivered {x : Exchange} (h : Reachable handler x) : Delivered x := by
  induction h with
  | init =>
    have h0 : ∀ c, Exchange.init.stream c = [] := fun _ => rfl
    exact ⟨fun c _ h => by simp [h0] at h, fun c _ => by simp [h0], fun c _ _ h => by simp [h0] at h⟩
  | step hr hs ih => exact ih.exec hr.mesh.wellFormed hs

/-- In every reachable state, under every interleaving of the server's tasks
and the agents, no agent reads a forwarded request twice, and no two agents
read the same request. -/
theorem forward_read_once {x : Exchange} (h : Reachable handler x) (c d : Uuid)
    (req : ProxyRequest) :
    (x.received c).count (.proxyRequestForward req) ≤ 1 ∧
      (.proxyRequestForward req ∈ x.received c → .proxyRequestForward req ∈ x.received d →
        c = d) := by
  have hd := h.delivered
  have hsub : ∀ c, x.received c <+ x.stream c := fun c =>
    (List.sublist_append_left _ _).trans (List.sublist_append_left _ _)
  exact ⟨((hsub c).count_le _).trans (hd.once c req), fun hc hd' =>
    hd.unique c d req ((hsub c).subset hc) ((hsub d).subset hd')⟩

theorem forward_read_once_alb :
    .proxyRequestForward (albProxyRequest 9 obsTextRequest) ∈ albExchanged.received 1 ∧
      ((albExchanged.received 1).count (.proxyRequestForward (albProxyRequest 9 obsTextRequest)) ≤ 1 ∧
        (.proxyRequestForward (albProxyRequest 9 obsTextRequest) ∈ albExchanged.received 1 →
          .proxyRequestForward (albProxyRequest 9 obsTextRequest) ∈ albExchanged.received 1 →
            (1 : Uuid) = 1)) :=
  ⟨by decide, forward_read_once
    ((Reachable.init).execAll
      (show (init.execAll fun _ => cookieEcho) albExchange = some albExchanged from rfl)) 1 1 _⟩

end Exchange

end AnywhereMesh
