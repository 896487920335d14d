import AnywhereMesh.Common.Types
import AnywhereMesh.Common.Routing
import AnywhereMesh.Common.Base64
import AnywhereMesh.Common.Frames
import AnywhereMesh.Common.Text
import AnywhereMesh.Common.Http
import AnywhereMesh.Server.State
import AnywhereMesh.Server.Registry
import AnywhereMesh.Server.Dispatcher
import AnywhereMesh.Server.Router
import AnywhereMesh.Server.Tunnel
import AnywhereMesh.Server.Mesh
import AnywhereMesh.Server.WellFormed
import AnywhereMesh.Server.Registration
import AnywhereMesh.Server.Pending
import AnywhereMesh.Server.Sessions
import AnywhereMesh.Server.TunnelExit
import AnywhereMesh.Server.Auth
import AnywhereMesh.Client.Proxy
import AnywhereMesh.Client.Control
import AnywhereMesh.Client.Presign
import AnywhereMesh.Tunnel.FrameOrder
import AnywhereMesh.Tunnel.HttpRoundTrip
import AnywhereMesh.Server.Replies
import AnywhereMesh.Tunnel.Exchange
import AnywhereMesh.Tunnel.Delivery
import AnywhereMesh.Server.Handlers
import AnywhereMesh.Client.Monitor
import AnywhereMesh.Server.Downstream
import AnywhereMesh.Server.Forwarding
import AnywhereMesh.Server.Resolution
import AnywhereMesh.Server.Affinity
