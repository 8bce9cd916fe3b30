import DshOrbit.ReverseWs.Roundtrip
import DshOrbit.ReverseWs.Grammar
import DshOrbit.Lib.JsString
import DshOrbit.Lib.Json
import DshOrbit.Lib.Table
import DshOrbit.RouteAuth.Replay
import DshOrbit.Registry.Tokens
import DshOrbit.Lib.IsoTime
import DshOrbit.Lib.Url
import DshOrbit.ReverseHub.Binding
import DshOrbit.ReverseHub.Generations
import DshOrbit.ReverseNode.Abort
import DshOrbit.ReverseNode.Cleanup
import DshOrbit.ReverseNode.Connections
import DshOrbit.Registry.Reachability
import DshOrbit.Registry.Eras
import DshOrbit.Registry.Evidence
import DshOrbit.NodeClient.Recovery
import DshOrbit.Registry.KeyLogs
import DshOrbit.Registry.SharedKeys
import DshOrbit.Registry.Sessions
import DshOrbit.Fleet.Concurrency
import DshOrbit.Fleet.Lifecycle
import DshOrbit.Fleet.Eligibility
import DshOrbit.Fleet.Noninterference
import DshOrbit.Fleet.Deadlines
import DshOrbit.FlowTracker
import DshOrbit.PairingCode
import DshOrbit.Schedules.Payloads
import DshOrbit.Schedules.Updates
import DshOrbit.Schedules.Arming
import DshOrbit.Schedules.Limits
import DshOrbit.Schedules.Fields
import DshOrbit.RouteProxy.HostAuthority
import DshOrbit.RouteProxy.Cookies
import DshOrbit.RouteProxy.SocketTracker
import DshOrbit.HubServer.Admission
import DshOrbit.Qr.ReedSolomon
import DshOrbit.Qr.Reading
import DshOrbit.ReverseHub.Closing
import DshOrbit.UpgradeRelay
import DshOrbit.ReverseHub.Backpressure
import DshOrbit.ReverseHub.WebSocketFlow
import DshOrbit.ReverseNode.RequestBody
import DshOrbit.Schedules.Agreement
import DshOrbit.HubServer.RateLimiter
import DshOrbit.PairingLockout
import DshOrbit.Registry.Deletions
import DshOrbit.Upgrade.Candidate
import DshOrbit.RegistryBackup
import DshOrbit.RemoteSettingsPatch
import DshOrbit.Registry.Rollups
import DshOrbit.Registry.Idempotence
import DshOrbit.RouteAuth.Agreement
import DshOrbit.HubServer.Connections
import DshOrbit.HubServer.Routing
