import Mathlib.Data.List.AList

/-! The message schema shared by the server and the agent (`common/types.rs`,
`common/auth.rs`) and the server's error taxonomy (`server/error.rs`).
Identifiers are `Uuid`s, taken as natural numbers, and times are whole
seconds. A `HashMap` keyed by `Uuid` is an association list with distinct
keys: its entry order stands for the map's iteration order, which the source
leaves unspecified, so a statement over every table is a statement over every
iteration order. String-keyed maps of headers and attributes are lists of
pairs. -/

namespace AnywhereMesh

/-- A `uuid::Uuid`. -/
abbrev Uuid := ℕ

/-- A `HashMap<Uuid, V>`. -/
abbrev Table (V : Type) := AList (fun _ : Uuid => V)

/-- `HashMap::values`, in the table's iteration order. -/
def Table.values {V : Type} (t : Table V) : List V := t.entries.map Sigma.snd

@[simp] theorem Table.values_empty {V : Type} : (∅ : Table V).values = [] := rfl

/-- `ServiceRegistration`: what an agent announces for its routing host. -/
structure ServiceRegistration where
  id : Uuid
  host : String
  port : UInt16
  serviceName : String
  clusterName : String
  taskArn : String
  attributes : List (String × String)
  healthCheckPath : Option String
  deriving DecidableEq, Repr

/-- `ConnectionInfo`: the registry's record of a connection that registered. -/
structure ConnectionInfo where
  id : Uuid
  serviceName : String
  host : String
  port : UInt16
  lastHeartbeat : ℕ
  attributes : List (String × String)
  deriving DecidableEq, Repr

structure ProxyRequest where
  id : Uuid
  method : String
  path : String
  headers : List (String × String)
  body : Option (List UInt8)
  targetHost : String
  deriving DecidableEq, Repr

structure ProxyResponse where
  id : Uuid
  statusCode : UInt16
  headers : List (String × String)
  body : Option (List UInt8)
  deriving DecidableEq, Repr

structure IamAuthRequest where
  presignedUrl : Option String
  region : String
  arn : Option String
  accountId : Option String
  userId : Option String
  deriving DecidableEq, Repr

structure IamIdentity where
  arn : String
  accountId : String
  userId : String
  principalType : String
  deriving DecidableEq, Repr

structure IamAuthResponse where
  success : Bool
  error : Option String
  identity : Option IamIdentity
  deriving DecidableEq, Repr

/-- `IngressMessage`: one frame of the control channel. -/
inductive IngressMessage
  | heartBeat (clusterName : String) (clientId : Uuid)
  | proxyResponse (response : ProxyResponse)
  | proxyRequest (request : ProxyRequest)
  | proxyRequestForward (request : ProxyRequest)
  | webSocketProxyInit (sessionId : Uuid) (targetHost path : String)
      (headers : List (String × String)) (subprotocols : Option (List String))
  | webSocketProxyInitAck (sessionId : Uuid) (success : Bool) (message : Option String)
      (responseHeaders : Option (List (String × String)))
  | webSocketProxyData (sessionId : Uuid) (frameType : String) (payload : Option String)
  | webSocketProxyClose (sessionId : Uuid) (code : Option UInt16) (reason : Option String)
  | iamAuth (request : IamAuthRequest)
  | serviceRegistration (registration : ServiceRegistration)
  | serviceDeregistration (id : Uuid)
  | iamAuthResponse (response : IamAuthResponse)
  | registrationAck (id : Uuid) (success : Bool) (message : String)
  deriving DecidableEq, Repr

/-- `IngressError`, for the variants the modelled functions raise. -/
inductive IngressError
  | badRequest (message : String)
  | timeout (requestId : Uuid)
  | registryNotFound (entityId : Uuid)
  | sendFailed (message : String)
  | internal (message : String)
  deriving DecidableEq, Repr

/-- `IngressResult<()>`. -/
abbrev IngressResult := Except IngressError Unit

end AnywhereMesh
