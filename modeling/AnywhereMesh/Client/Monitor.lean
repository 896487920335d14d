import AnywhereMesh.Client.Control
import AnywhereMesh.Server.Handlers

/-! The health monitor of `connect_and_handle` (`client/client_impl.rs`). Every
ten seconds it GETs `websocket_to_http_health_url` of the ingress endpoint and
reads `instance_id` from the JSON reply. It keeps the first id it reads; when a
later poll reads another, it signals the loop to reconnect and ends. Failed
requests and replies without an id are skipped. A URL that `parse` rejects
makes `unwrap` panic at the first poll, which ends the task with no signal.

Against the server, whose WebSocket port answers `GET /health` with its
instance id and any other GET without an upgrade with 400: proved, for every
sequence of servers answering the polls, the monitor signals exactly when the
path of its URL is `/health` and two of the servers that answered have
different instance ids. An endpoint with a path keeps it in the URL, so such an
agent polls a path the server answers with 400 and never reconnects when the
server restarts. -/

namespace AnywhereMesh.Client

open Server

/-- The health monitor: watching, with the instance id it read first if any;
done after sending the reconnect signal; or ended by a panic. -/
inductive Monitor (α : Type)
  | watching (lastInstance : Option α)
  | signalled
  | panicked
  deriving DecidableEq, Repr

namespace Monitor

variable {α : Type} [DecidableEq α]

/-- One pass of the loop, given the `instance_id` its poll read, if any. -/
def poll : Monitor α → Option α → Monitor α
  | .watching none, some id => .watching (some id)
  | .watching (some prev), some id => if prev ≠ id then .signalled else .watching (some prev)
  | m, _ => m

/-- The loop, over the ids its polls read. -/
def run (reads : List (Option α)) : Monitor α := reads.foldl poll (.watching none)

@[simp] theorem foldl_poll_signalled (reads : List (Option α)) :
    reads.foldl poll (.signalled : Monitor α) = .signalled := by
  induction reads with
  | nil => rfl
  | cons r rs ih => cases r <;> exact ih

/-- With a first id read, the loop signals as soon as it reads another. -/
theorem foldl_poll_watching (prev : α) (reads : List (Option α)) :
    reads.foldl poll (.watching (some prev)) =
      if (reads.filterMap id).all (· = prev) then .watching (some prev) else .signalled := by
  induction reads with
  | nil => rfl
  | cons r rs ih =>
    cases r with
    | none => exact ih
    | some id =>
      by_cases h : prev = id
      · subst h
        simpa [poll] using ih
      · simp [poll, h, Ne.symm h]

/-- The loop keeps the first id it reads, and signals once it reads another. -/
theorem run_eq (reads : List (Option α)) :
    run reads = match reads.filterMap id with
      | [] => .watching none
      | first :: rest => if rest.all (· = first) then .watching (some first) else .signalled := by
  induction reads with
  | nil => rfl
  | cons r rs ih =>
    cases r with
    | none => exact ih
    | some first => exact foldl_poll_watching first rs

theorem run_signalled_iff (reads : List (Option α)) :
    run reads = .signalled ↔ ∃ a ∈ reads.filterMap id, ∃ b ∈ reads.filterMap id, a ≠ b := by
  rw [run_eq]
  rcases hids : reads.filterMap id with _ | ⟨first, rest⟩
  · simp
  · by_cases hall : rest.all (· = first)
    · have heq : ∀ a ∈ first :: rest, a = first := by simpa using hall
      simp only [hall, if_true, reduceCtorEq, false_iff, not_exists, not_and, not_not]
      exact fun a ha b hb => (heq a ha).trans (heq b hb).symm
    · obtain ⟨a, ha, hne⟩ : ∃ a ∈ rest, a ≠ first := by simpa using hall
      simp only [hall, Bool.false_eq_true, if_false, true_iff]
      exact ⟨a, List.mem_cons_of_mem _ ha, first, List.mem_cons_self _ _, hne⟩

end Monitor

/-- What a poll reads from a reply of the server's WebSocket port: the
`instance_id` of a health reply. The bodies of its other replies are not JSON. -/
def instanceIdOf : ReplyBody → Option Uuid
  | .health info => info.instanceId
  | .text _ => none

/-- What the monitor's GET of `uri` reads when a server answers it: the
server's registry, and the instance id and start time `new` gave it. The GET
carries no `upgrade` header. -/
def pollRead (uri : Uri) : Option (Ingress × Uuid × ℕ) → Option Uuid
  | some (s, serverInstanceId, startedAt) =>
    instanceIdOf (handleWebsocketOrHealthRequest s serverInstanceId startedAt
      ⟨"GET", uri.path, none⟩).body
  | none => none

/-- The monitor task of one attempt, given `parse` and, for each poll, the
server that answered it (`none` when the GET failed). Without a URL the task
returns before polling. -/
def healthMonitor (parseUri : String → Except String Uri) (ingressEndpoint : String)
    (polls : List (Option (Ingress × Uuid × ℕ))) : Monitor Uuid :=
  match websocketToHttpHealthUrl ingressEndpoint with
  | some healthUrl =>
    match parseUri healthUrl with
    | .ok uri => Monitor.run (polls.map (pollRead uri))
    | .error _ => if polls.isEmpty then .watching none else .panicked
  | none => .watching none

theorem websocketToHttpHealthUrl_isSome (ingressEndpoint : String) :
    (websocketToHttpHealthUrl ingressEndpoint).isSome := by
  simp only [websocketToHttpHealthUrl]
  split <;> (repeat' split) <;> rfl

/-- The server reads the instance id into the reply exactly when the poll's path is `/health`. -/
theorem pollRead_eq (uri : Uri) (answer : Option (Ingress × Uuid × ℕ)) :
    pollRead uri answer = if uri.path = "/health" then answer.map (·.2.1) else none := by
  rcases answer with _ | ⟨s, serverInstanceId, startedAt⟩
  · simp [pollRead]
  · by_cases hp : uri.path = "/health" <;>
      simp [pollRead, handleWebsocketOrHealthRequest, hp, isWebsocketUpgrade, instanceIdOf,
        healthInfo]

/-- For every ingress endpoint whose health URL parses, and every sequence of
servers answering the polls, the monitor signals a reconnect exactly when the
URL's path is `/health` and two servers that answered have different instance
ids. -/
theorem healthMonitor_signalled_iff (parseUri : String → Except String Uri)
    (ingressEndpoint : String) {uri : Uri}
    (huri : ∀ url ∈ websocketToHttpHealthUrl ingressEndpoint, parseUri url = .ok uri)
    (polls : List (Option (Ingress × Uuid × ℕ))) :
    healthMonitor parseUri ingressEndpoint polls = .signalled ↔
      uri.path = "/health" ∧
        ∃ a ∈ polls.filterMap id, ∃ b ∈ polls.filterMap id, a.2.1 ≠ b.2.1 := by
  obtain ⟨url, hurl⟩ := Option.isSome_iff_exists.mp (websocketToHttpHealthUrl_isSome ingressEndpoint)
  have hpoll : pollRead uri = fun answer => if uri.path = "/health" then answer.map (·.2.1) else none :=
    funext (pollRead_eq uri)
  simp only [healthMonitor, hurl, huri url hurl, Monitor.run_signalled_iff, hpoll,
    List.filterMap_map]
  by_cases hp : uri.path = "/health"
  · have hids : polls.filterMap (id ∘ fun answer : Option (Ingress × Uuid × ℕ) =>
        if uri.path = "/health" then answer.map (·.2.1) else none) =
          (polls.filterMap id).map (·.2.1) := by
      rw [List.map_filterMap]
      simp only [hp, if_true]
      rfl
    rw [hids]
    simp only [hp, true_and, List.mem_map]
    constructor
    · rintro ⟨_, ⟨a, ha, rfl⟩, _, ⟨b, hb, rfl⟩, hne⟩
      exact ⟨a, ha, b, hb, hne⟩
    · rintro ⟨a, ha, b, hb, hne⟩
      exact ⟨_, ⟨a, ha, rfl⟩, _, ⟨b, hb, rfl⟩, hne⟩
  · simp [hp]

/-- An agent whose endpoint is `ws://h:8082/ws` polls `/ws/health`; two
different servers answer its polls, and it never signals. -/
theorem healthMonitor_signalled_iff_endpointPath :
    healthMonitor (fun _ => .ok ⟨some "h", some "/ws/health"⟩) "ws://h:8082/ws"
        [some (Ingress.init 0, 1, 0), some (Ingress.init 0, 2, 10)] ≠ .signalled ∧
      (healthMonitor (fun _ => .ok ⟨some "h", some "/ws/health"⟩) "ws://h:8082/ws"
          [some (Ingress.init 0, 1, 0), some (Ingress.init 0, 2, 10)] = .signalled ↔
        Uri.path ⟨some "h", some "/ws/health"⟩ = "/health" ∧
          ∃ a ∈ [some (Ingress.init 0, 1, 0), some (Ingress.init 0, 2, 10)].filterMap id,
            ∃ b ∈ [some (Ingress.init 0, 1, 0), some (Ingress.init 0, 2, 10)].filterMap id,
              a.2.1 ≠ b.2.1) :=
  ⟨by decide, healthMonitor_signalled_iff _ _ (fun _ _ => rfl) _⟩

end AnywhereMesh.Client
