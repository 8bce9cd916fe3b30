import DshOrbit.ReverseHub.Channels

/-!
# The managers of a Hub together

The server (`registry/server.mjs`) tells the channel manager of every session that is
closed, lets a data channel in only for the current session of its node, and closes both
kinds of connection when a node is deleted or disconnected and when a credential of it is
revoked.

## Main definitions

- `Hub` — a session manager whose world is a channel manager
- `HubEvent`, `Hub.step` — what can happen, in any order
-/

namespace DshOrbit.ReverseHub

open DshOrbit.Lib DshOrbit.ReverseWs

abbrev Hub (Flows : Type*) := ReverseSessionManager (ReverseChannelManager Flows)

/-- What happens at the Hub. A request names no session or the current one, which its
handler reads in the same task. -/
inductive HubEvent (Flows : Type*)
  | session (event : SessionEvent)
  | channelUpgrade (nodeId keyId : String) (boundSession : SessionId)
  | acquireChannel (nodeId : String) (sessionId : Option SessionId) (now : Readings)
  | channel (event : ChannelEvent Flows)
  | onNodeDeleted (nodeId reason : String)
  | onNodeCredentialRevoked (nodeId keyId reason : String)

namespace Hub

variable {Flows : Type*} (closeFlow : Flows → RequestId → String → Flows)
  (parseJson : Message → Option Json)

def initial (maxChannels : ℕ) (capacityWaitMs : ℤ) (flows : Flows) : Hub Flows :=
  ReverseSessionManager.initial (.initial maxChannels capacityWaitMs flows)

/-- What the server does when a session is closed. -/
def onSessionClosed (world : ReverseChannelManager Flows) (id : SessionId) (reason : String) :
    ReverseChannelManager Flows :=
  world.closeChannelsForSession closeFlow id reason

/-- A data channel has authenticated: it must be bound to the current session. -/
def channelUpgrade (h : Hub Flows) (nodeId keyId : String) (boundSession : SessionId) :
    Hub Flows :=
  match h.getSessionInfo nodeId with
  | none => h
  | some (id, _) =>
    if boundSession ≠ id then h
    else { h with world := h.world.registerChannel nodeId keyId boundSession }

/-- A request whose session is the current one, or that names none. -/
def acquireChannel (h : Hub Flows) (nodeId : String) (sessionId : Option SessionId)
    (now : Readings) : Hub Flows :=
  if sessionId = none ∨ sessionId = (h.getSessionInfo nodeId).map Prod.fst then
    { h with world := h.world.acquireChannel nodeId sessionId now }
  else h

def onNodeDeleted (h : Hub Flows) (nodeId reason : String) : Hub Flows :=
  let h := ReverseSessionManager.closeSessionsForNode (onSessionClosed closeFlow) h nodeId reason
  { h with world := h.world.closeChannelsForNode closeFlow nodeId reason }

def onNodeCredentialRevoked (h : Hub Flows) (nodeId keyId reason : String) : Hub Flows :=
  let (sessionIds, h) :=
    ReverseSessionManager.closeSessionsForCredential (onSessionClosed closeFlow) h nodeId keyId
      reason
  let world := h.world.closeChannelsForCredential closeFlow nodeId keyId reason
  { h with world := sessionIds.foldl (fun world id => onSessionClosed closeFlow world id reason) world }

/-- One event. What closes sessions is a task of its own, and the event loop takes one up
only when every request whose promise is settled has gone on. -/
def step (h : Hub Flows) : HubEvent Flows → Hub Flows
  | .session event =>
    if h.world.quiet then ReverseSessionManager.step (onSessionClosed closeFlow) parseJson h event
    else h
  | .channelUpgrade nodeId keyId boundSession => channelUpgrade h nodeId keyId boundSession
  | .acquireChannel nodeId sessionId now => acquireChannel h nodeId sessionId now
  | .channel event => { h with world := h.world.step closeFlow event }
  | .onNodeDeleted nodeId reason =>
    if h.world.quiet then onNodeDeleted closeFlow h nodeId reason else h
  | .onNodeCredentialRevoked nodeId keyId reason =>
    if h.world.quiet then onNodeCredentialRevoked closeFlow h nodeId keyId reason else h

/-- The Hub after a list of events. -/
def run (h : Hub Flows) (events : List (HubEvent Flows)) : Hub Flows :=
  runFrom (step closeFlow parseJson) h events

end Hub

end DshOrbit.ReverseHub
