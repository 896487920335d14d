import AnywhereMesh.Common.Base64

/-! WebSocket frames as the tunnel's pumps read them (`tungstenite::Message`),
and the translation both ends of a tunnel apply to them: the server's
`alb_to_agent`, reading the downstream client, and the agent's reader, reading
the local socket, send the same `WebSocketProxyData` and `WebSocketProxyClose`
frames, with binary payloads base64-encoded. Both receiving handlers decode a data
frame's payload the same way, `dataPayload`; proved: it gives back what the
sending pump read, so a tunnel carries text and bytes unchanged, and a frame
sent on one session carries no payload for any other. -/

namespace AnywhereMesh

/-- A frame a pump reads from a WebSocket; `error` is a read error. A close
frame carries its reason, if any. -/
inductive WsFrame
  | text (s : String)
  | binary (b : List UInt8)
  | ping
  | pong
  | close (reason : Option String)
  | error
  deriving DecidableEq, Repr

/-- The message a pump sends on session `sid` for a frame it read. -/
def wsFrameMessage (sid : Uuid) : WsFrame → Option IngressMessage
  | .text s => some (.webSocketProxyData sid "text" (some s))
  | .binary b => some (.webSocketProxyData sid "binary" (some (Base64.encode b)))
  | .ping => some (.webSocketProxyData sid "ping" none)
  | .pong => some (.webSocketProxyData sid "pong" none)
  | .close reason => some (.webSocketProxyClose sid none reason)
  | .error => none

/-- Whether a pump keeps reading after a frame. -/
def WsFrame.continues : WsFrame → Bool
  | .close _ | .error => false
  | _ => true

/-- What a text or binary frame carries. -/
inductive Payload
  | text (s : String)
  | binary (b : List UInt8)
  deriving DecidableEq, Repr

def WsFrame.payload : WsFrame → Option Payload
  | .text s => some (.text s)
  | .binary b => some (.binary b)
  | _ => none

/-- The payload both ends' handlers forward for a `WebSocketProxyData` frame:
text as it is, binary decoded from base64; `none` for control frames and
undecodable ones. -/
def dataPayload (frameType : String) (payload : Option String) : Option Payload :=
  match frameType, payload with
  | "text", some text => some (.text text)
  | "binary", some b64 => (Base64.decode b64).map .binary
  | _, _ => none

/-- The payload a message carries for session `sid`. -/
def IngressMessage.payloadFor (sid : Uuid) : IngressMessage → Option Payload
  | .webSocketProxyData s frameType payload =>
    if s = sid then dataPayload frameType payload else none
  | _ => none

/-- Whether a message is a `WebSocketProxyData` frame. -/
def IngressMessage.isData : IngressMessage → Bool
  | .webSocketProxyData .. => true
  | _ => false

theorem payloadFor_of_isData {m : IngressMessage} (h : m.isData = false) (sid : Uuid) :
    m.payloadFor sid = none := by
  cases m <;> simp_all [IngressMessage.isData, IngressMessage.payloadFor]

/-- What a pump sends for a frame carries, for its own session, the frame's payload. -/
theorem payloadFor_wsFrameMessage (sid : Uuid) (f : WsFrame) :
    (wsFrameMessage sid f).bind (IngressMessage.payloadFor sid) = f.payload := by
  cases f <;> simp [wsFrameMessage, IngressMessage.payloadFor, dataPayload, WsFrame.payload,
    Base64.decode_encode]

theorem payloadFor_wsFrameMessage_ne {sid s : Uuid} (h : sid ≠ s) (f : WsFrame) :
    (wsFrameMessage sid f).bind (IngressMessage.payloadFor s) = none := by
  cases f <;> simp [wsFrameMessage, IngressMessage.payloadFor, h]

end AnywhereMesh
