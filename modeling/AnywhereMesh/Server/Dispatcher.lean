import AnywhereMesh.Server.Registry

/-! `DefaultMessageDispatcher::handle_message` and
`CombinedIngressService::handle_websocket_message`: the lock sections that one
text frame from connection `c` runs, or the error returned before any state is
touched. A frame is given as the result of parsing it, `none` when `serde_json`
rejects it; the `AuthService` is any function from request to answer.
Proved: a frame from `c` changes nothing kept under any id other than `c` and
the ids the frame itself names (the id of a deregistration, of a proxy
response, or the session of a tunnel frame). -/

namespace AnywhereMesh.Server

/-- `DefaultMessageDispatcher::handle_message`. Tunnel frames reach it only when
called directly; `handle_websocket_message` intercepts them first. -/
def handleMessage (c : Uuid) (authenticate : IamAuthRequest → IamAuthResponse) :
    IngressMessage → Except IngressError (List Section)
  | .iamAuth req => .ok [.sendResponse c (.iamAuthResponse (authenticate req))]
  | .serviceRegistration reg =>
    .ok (registerService c reg ++
      [.sendResponse c (.registrationAck c true "Service registered successfully")])
  | .heartBeat _ _ => .ok (updateHeartbeat c)
  | .proxyResponse resp => .ok [.handleResponse resp]
  | .serviceDeregistration id => .ok (deregisterService id)
  | .webSocketProxyInitAck .. | .webSocketProxyData .. | .webSocketProxyClose .. => .ok []
  | _ => .error (.badRequest "Unexpected message type from Anywhere Mesh service")

/-- `CombinedIngressService::handle_websocket_message`. -/
def handleWebsocketMessage (c : Uuid) (authenticate : IamAuthRequest → IamAuthResponse) :
    Option IngressMessage → Except IngressError (List Section)
  | some (.webSocketProxyInitAck sid success message responseHeaders) =>
    .ok [.handleWsProxyInitAck sid ⟨success, message, responseHeaders⟩]
  | some (.webSocketProxyData sid frameType payload) =>
    .ok [.handleWsProxyDataFromAgent sid frameType payload]
  | some (.webSocketProxyClose sid code reason) =>
    .ok [.handleWsProxyCloseFromAgent sid code reason]
  | some m => handleMessage c authenticate m
  | none => .error (.badRequest "Failed to parse message")

/-- The sections a handler runs: none when it fails before touching state. -/
def sectionsOf : Except IngressError (List Section) → List Section
  | .ok l => l
  | .error _ => []

/-- What a handler returns when its sections run from `s` with nothing in
between: the error it failed with, or what its last section returns. -/
def handlerResult : Except IngressError (List Section) → Ingress → IngressResult
  | .error e, _ => .error e
  | .ok l, s => (l.getLast?.map fun sec => sec.result (runSections l.dropLast s)).getD (.ok ())

/-- The ids a frame names in the fields its handler acts on. -/
def namedIds : Option IngressMessage → List Uuid
  | some (.serviceDeregistration id) => [id]
  | some (.proxyResponse resp) => [resp.id]
  | some (.webSocketProxyInitAck sid ..) | some (.webSocketProxyData sid ..)
  | some (.webSocketProxyClose sid ..) => [sid]
  | _ => []

section
variable {c : Uuid} {authenticate : IamAuthRequest → IamAuthResponse} {sec : Section}

/-- The sections `handle_message` runs, one case per control frame. -/
theorem mem_handleMessage {m : IngressMessage}
    (h : sec ∈ sectionsOf (handleMessage c authenticate m)) :
    (∃ req, m = .iamAuth req ∧ sec = .sendResponse c (.iamAuthResponse (authenticate req))) ∨
      (∃ reg, m = .serviceRegistration reg ∧
        (sec = .storeConnectionInfo c reg ∨ sec = .storeRegistration c reg ∨
          sec = .sendResponse c (.registrationAck c true "Service registered successfully"))) ∨
      sec = .updateHeartbeat c ∨
      (∃ resp, m = .proxyResponse resp ∧ sec = .handleResponse resp) ∨
      (∃ id, m = .serviceDeregistration id ∧
        (sec = .removeRegistration id ∨ sec = .removeConnectionInfo id)) := by
  cases m <;>
    simp_all [handleMessage, sectionsOf, registerService, updateHeartbeat, deregisterService]

/-- The sections a frame's handler runs: those of `handle_message` for a control
frame, and the one section of its handler for a tunnel frame. -/
theorem mem_handleWebsocketMessage {f : Option IngressMessage}
    (h : sec ∈ sectionsOf (handleWebsocketMessage c authenticate f)) :
    (∃ req, f = some (.iamAuth req) ∧ sec = .sendResponse c (.iamAuthResponse (authenticate req))) ∨
      (∃ reg, f = some (.serviceRegistration reg) ∧
        (sec = .storeConnectionInfo c reg ∨ sec = .storeRegistration c reg ∨
          sec = .sendResponse c (.registrationAck c true "Service registered successfully"))) ∨
      sec = .updateHeartbeat c ∨
      (∃ resp, f = some (.proxyResponse resp) ∧ sec = .handleResponse resp) ∨
      (∃ id, f = some (.serviceDeregistration id) ∧
        (sec = .removeRegistration id ∨ sec = .removeConnectionInfo id)) ∨
      (∃ sid success message headers,
        f = some (.webSocketProxyInitAck sid success message headers) ∧
        sec = .handleWsProxyInitAck sid ⟨success, message, headers⟩) ∨
      (∃ sid frameType payload, f = some (.webSocketProxyData sid frameType payload) ∧
        sec = .handleWsProxyDataFromAgent sid frameType payload) ∨
      (∃ sid code reason, f = some (.webSocketProxyClose sid code reason) ∧
        sec = .handleWsProxyCloseFromAgent sid code reason) := by
  unfold handleWebsocketMessage at h
  split at h
  case h_4 =>
    rcases mem_handleMessage h with ⟨_, rfl, hs⟩ | ⟨_, rfl, hs⟩ | hs | ⟨_, rfl, hs⟩ |
      ⟨_, rfl, hs⟩ <;> simp [hs]
  all_goals simp_all [sectionsOf]

end

/-- Every section a frame from `c` runs is keyed by `c` or by an id it names. -/
theorem key_of_mem_handleWebsocketMessage (c : Uuid)
    (authenticate : IamAuthRequest → IamAuthResponse) (f : Option IngressMessage) :
    ∀ sec ∈ sectionsOf (handleWebsocketMessage c authenticate f),
      sec.key = some c ∨ ∃ k ∈ namedIds f, sec.key = some k := fun sec h => by
  rcases mem_handleWebsocketMessage h with ⟨_, rfl, rfl⟩ | ⟨_, rfl, rfl | rfl | rfl⟩ | rfl |
    ⟨_, rfl, rfl⟩ | ⟨_, rfl, rfl | rfl⟩ | ⟨_, _, _, _, rfl, rfl⟩ | ⟨_, _, _, rfl, rfl⟩ |
    ⟨_, _, _, rfl, rfl⟩ <;> simp [Section.key, namedIds]

/-- A frame from connection `c` stores registry entries under `c` only. -/
theorem storeKey_of_mem_handleWebsocketMessage (c : Uuid)
    (authenticate : IamAuthRequest → IamAuthResponse) (f : Option IngressMessage) :
    ∀ sec ∈ sectionsOf (handleWebsocketMessage c authenticate f),
      sec.storeKey = none ∨ sec.storeKey = some c := fun sec h => by
  rcases mem_handleWebsocketMessage h with ⟨_, rfl, rfl⟩ | ⟨_, rfl, rfl | rfl | rfl⟩ | rfl |
    ⟨_, rfl, rfl⟩ | ⟨_, rfl, rfl | rfl⟩ | ⟨_, _, _, _, rfl, rfl⟩ | ⟨_, _, _, rfl, rfl⟩ |
    ⟨_, _, _, rfl, rfl⟩ <;> simp [Section.storeKey]

/-- The only frame whose handler stores a registration is a `ServiceRegistration`,
and it stores that registration under the connection it came on. -/
theorem storeRegistration_mem_handleWebsocketMessage {c d : Uuid}
    {authenticate : IamAuthRequest → IamAuthResponse} {f : Option IngressMessage}
    {reg : ServiceRegistration}
    (h : Section.storeRegistration d reg ∈ sectionsOf (handleWebsocketMessage c authenticate f)) :
    d = c ∧ f = some (.serviceRegistration reg) := by
  rcases mem_handleWebsocketMessage h with ⟨_, -, h⟩ | ⟨_, rfl, h | h | h⟩ | h | ⟨_, -, h⟩ |
    ⟨_, -, h | h⟩ | ⟨_, _, _, _, -, h⟩ | ⟨_, _, _, -, h⟩ | ⟨_, _, _, -, h⟩ <;> simp_all

/-- A frame from connection `c` leaves everything the server keeps under any id
`k` that is neither `c` nor named by the frame. -/
theorem handleWebsocketMessage_at (c : Uuid) (authenticate : IamAuthRequest → IamAuthResponse)
    (f : Option IngressMessage) (s : Ingress) {k : Uuid} (hc : k ≠ c) (hf : k ∉ namedIds f) :
    (runSections (sectionsOf (handleWebsocketMessage c authenticate f)) s).at k = s.at k := by
  refine runSections_at (fun sec hsec hk => ?_) s
  rcases key_of_mem_handleWebsocketMessage c authenticate f sec hsec with h | ⟨k', hk', h⟩ <;>
    rw [hk] at h
  · exact hc (Option.some.inj h)
  · exact hf (Option.some.inj h ▸ hk')

/-- Connection 3 has registered, and id 3 also names a pending request and a
session whose agent is connection 3. -/
def heldAtThree : Ingress :=
  runSections [.registerConnection 3,
    .storeRegistration 3 ⟨7, "api.example.com", 8080, "api", "cluster", "arn:task", [], none⟩,
    .insertPending 3, .insertSession 3 ⟨3⟩] (Ingress.init 0)

theorem handleWebsocketMessage_at_deregistration :
    (heldAtThree.registrations.lookup 3).isSome ∧ 3 ∈ heldAtThree.pendingRequests ∧
      heldAtThree.wsSessions.lookup 3 = some ⟨3⟩ ∧
      (runSections (sectionsOf (handleWebsocketMessage 2 (fun _ => ⟨false, none, none⟩)
        (some (.serviceDeregistration 1)))) heldAtThree).at 3 = heldAtThree.at 3 :=
  ⟨by decide, by decide, by decide, handleWebsocketMessage_at 2 _ _ _ (by decide) (by decide)⟩

end AnywhereMesh.Server
