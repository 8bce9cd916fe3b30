import DshOrbit.Lib.Json
import DshOrbit.Lib.Run
import DshOrbit.ReverseWs.Parser
import Mathlib.Logic.Function.Basic

/-!
# Reverse control sessions

The session manager of the Hub (`registry/reverse-session.mjs`): one authenticated
control connection of a node is pending until its `ready` message, which makes it
the current session of the node and closes the previous one.

## Main definitions

- `ReverseSession`, `ReverseSessionManager` — one connection, and those of all nodes
- `registerUpgrade`, `onControlMessage`, `promote`, `close` — the functions of that name
- `SessionEvent`, `ReverseSessionManager.step` — what can happen, in any order
-/

namespace DshOrbit.ReverseHub

open DshOrbit.Lib DshOrbit.ReverseWs

def reverseProtocol : String := "orbit-reverse-v1"

/-- A session by the order of its construction. The random `reverseSessionId` of a
session names it, and no two sessions are taken to share one. -/
abbrev SessionId := ℕ

inductive SessionState
  | pending
  | ready
  | closed
  deriving DecidableEq

structure ReverseSession where
  nodeId : String
  keyId : String
  state : SessionState := .pending
  routeReady : Bool := false
  superseded : Bool := false
  closed : Bool := false
  awaitingPong : Bool := false
  /-- The ready timer is set. -/
  readyTimer : Bool := true
  parse : ParserState := .initial

/-- What stands for a session that does not exist yet. -/
def ReverseSession.absent : ReverseSession :=
  { nodeId := "", keyId := "", state := .closed, closed := true, readyTimer := false }

/-- The manager, with the world that its `onSessionClosed` callback works on. -/
structure ReverseSessionManager (World : Type*) where
  session : SessionId → ReverseSession
  /-- How many sessions have been constructed. -/
  count : ℕ
  current : String → Option SessionId
  pending : String → List SessionId
  world : World

/-- The control parser: the Hub is the server, and messages are small. -/
def controlConfig : ParserConfig := ⟨false, 4096, by decide⟩

/-- A control message by its `type` and the fields that are read with it. -/
inductive Control
  | badJson
  | badMessage
  | ready (protocol : Bool) (routeReady : Bool)
  | status (routeReady : Option Bool)
  | unknown
  deriving DecidableEq

def readControl (parseJson : Message → Option Json) (message : Message) : Control :=
  match parseJson message with
  | none => .badJson
  | some value =>
    match (value.field "type").bind Json.str? with
    | none => .badMessage
    | some type =>
      if type = "ready" then
        .ready ((value.field "protocol").bind Json.str? = some reverseProtocol)
          ((value.field "routeReady").bind Json.bool? = some true)
      else if type = "status" then .status ((value.field "routeReady").bind Json.bool?)
      else .unknown

namespace ReverseSessionManager

variable {World : Type*} (onSessionClosed : World → SessionId → String → World)
  (parseJson : Message → Option Json)

/-- The manager of a Hub that has just started. -/
def initial (world : World) : ReverseSessionManager World :=
  ⟨fun _ => .absent, 0, fun _ => none, fun _ => [], world⟩

def modify (m : ReverseSessionManager World) (id : SessionId)
    (f : ReverseSession → ReverseSession) : ReverseSessionManager World :=
  { m with session := Function.update m.session id (f (m.session id)) }

/-! ### One session -/

/-- `close`. Its close frame is never written: `sendFrame` writes nothing once `closed`
is set. -/
def close (m : ReverseSessionManager World) (id : SessionId) (reason : String) :
    ReverseSessionManager World :=
  let s := m.session id
  if s.closed then m
  else
    let m := m.modify id fun s => { s with closed := true, state := .closed, readyTimer := false }
    let current :=
      if m.current s.nodeId = some id then Function.update m.current s.nodeId none else m.current
    let pending := Function.update m.pending s.nodeId ((m.pending s.nodeId).filter (· ≠ id))
    { m with current, pending, world := onSessionClosed m.world id reason }

/-- `promote`: the session becomes the current one, and the previous one is closed. -/
def promote (m : ReverseSessionManager World) (id : SessionId) : ReverseSessionManager World :=
  let s := m.session id
  if s.closed || s.superseded then m
  else
    let m := m.modify id fun s => { s with readyTimer := false, state := .ready }
    let previous := m.current s.nodeId
    let current := Function.update m.current s.nodeId (some id)
    let pending := Function.update m.pending s.nodeId ((m.pending s.nodeId).filter (· ≠ id))
    let m : ReverseSessionManager World := { m with current, pending }
    match previous with
    | none => m
    | some other =>
      if other = id then m
      else
        (m.modify other fun s => { s with superseded := true }).close onSessionClosed other
          "superseded"

def onControlMessage (m : ReverseSessionManager World) (id : SessionId) (message : Message) :
    ReverseSessionManager World :=
  let s := m.session id
  if s.closed || s.superseded then m
  else
    match readControl parseJson message with
    | .badJson => m.close onSessionClosed id "bad-json"
    | .badMessage => m.close onSessionClosed id "bad-control-message"
    | .ready protocol routeReady =>
      if s.state = .ready then m.close onSessionClosed id "duplicate-ready"
      else if !protocol then m.close onSessionClosed id "protocol-mismatch"
      else (m.modify id fun s => { s with routeReady }).promote onSessionClosed id
    | .status routeReady =>
      if s.state ≠ .ready then m.close onSessionClosed id "status-before-ready"
      else
        match routeReady with
        | none => m.close onSessionClosed id "bad-status"
        | some routeReady => m.modify id fun s => { s with routeReady }
    | .unknown => m.close onSessionClosed id "unknown-control-type"

/-- The callbacks that a session gives its parser. A ping is answered on the socket. -/
def onParserEvent (id : SessionId) (m : ReverseSessionManager World) :
    ParserEvent → ReverseSessionManager World
  | .message message => m.onControlMessage onSessionClosed parseJson id message
  | .ping _ => m
  | .pong _ => m.modify id fun s => { s with awaitingPong := false }
  | .close _ => m.close onSessionClosed id "node-close"
  | .error _ => m.close onSessionClosed id "protocol-error"

/-- `parse`: the parser runs on a chunk and calls back for everything it completes. -/
def parse (m : ReverseSessionManager World) (id : SessionId) (chunk : Buffer) :
    ReverseSessionManager World :=
  let (state, events) := (createFrameParser controlConfig).feed (m.session id).parse chunk
  events.foldl (onParserEvent onSessionClosed parseJson id)
    (m.modify id fun s => { s with parse := state })

/-! ### All sessions -/

/-- Close the sessions, one after the other. -/
def closeEach (m : ReverseSessionManager World) (ids : List SessionId) (reason : String) :
    ReverseSessionManager World :=
  ids.foldl (fun m id => m.close onSessionClosed id reason) m

def registerUpgrade (m : ReverseSessionManager World) (nodeId keyId : String) (head : Buffer) :
    ReverseSessionManager World :=
  let m := m.closeEach onSessionClosed (m.pending nodeId) "superseded-pending"
  let id := m.count
  let m : ReverseSessionManager World :=
    { m with session := Function.update m.session id { nodeId, keyId }, count := id + 1 }
  let m := if head ≠ [] then m.parse onSessionClosed parseJson id head else m
  if head ≠ [] ∧ (m.session id).closed then m
  else { m with pending := Function.update m.pending nodeId (m.pending nodeId ++ [id]) }

/-- The current session of a node and whether the node says that its route is ready. -/
def getSessionInfo (m : ReverseSessionManager World) (nodeId : String) :
    Option (SessionId × String × Bool) :=
  match m.current nodeId with
  | none => none
  | some id =>
    let s := m.session id
    if s.state ≠ .ready then none else some (id, s.keyId, s.routeReady)

def closeSessionsForNode (m : ReverseSessionManager World) (nodeId reason : String) :
    ReverseSessionManager World :=
  let m := m.closeEach onSessionClosed (m.current nodeId).toList reason
  m.closeEach onSessionClosed (m.pending nodeId) reason

/-- The sessions of the node that were authenticated with the key: the current one first. -/
def sessionsForCredential (m : ReverseSessionManager World) (nodeId keyId : String) :
    List SessionId :=
  let matching := (m.current nodeId).toList.filter fun id => (m.session id).keyId = keyId
  matching ++ (m.pending nodeId).filter fun id => (m.session id).keyId = keyId ∧ id ∉ matching

def closeSessionsForCredential (m : ReverseSessionManager World) (nodeId keyId reason : String) :
    List SessionId × ReverseSessionManager World :=
  let matching := m.sessionsForCredential nodeId keyId
  (matching, m.closeEach onSessionClosed matching reason)

end ReverseSessionManager

/-! ### Events -/

/-- What happens to the sessions: an authenticated upgrade with the bytes that came behind
it, an event of a connection or of one of its timers, or a call of the lifecycle hooks. -/
inductive SessionEvent
  | registerUpgrade (nodeId keyId : String) (head : Buffer)
  | data (id : SessionId) (chunk : Buffer)
  | socketClosed (id : SessionId) (reason : String)
  | readyTimeout (id : SessionId)
  | pingTick (id : SessionId)
  | pongTimeout (id : SessionId)
  | closeSessionsForNode (nodeId reason : String)
  | closeSessionsForCredential (nodeId keyId reason : String)

namespace ReverseSessionManager

variable {World : Type*} (onSessionClosed : World → SessionId → String → World)
  (parseJson : Message → Option Json)

def step (m : ReverseSessionManager World) : SessionEvent → ReverseSessionManager World
  | .registerUpgrade nodeId keyId head =>
    m.registerUpgrade onSessionClosed parseJson nodeId keyId head
  | .data id chunk => m.parse onSessionClosed parseJson id chunk
  | .socketClosed id reason => m.close onSessionClosed id reason
  | .readyTimeout id =>
    if (m.session id).readyTimer then m.close onSessionClosed id "ready-timeout" else m
  | .pingTick id =>
    if (m.session id).closed then m else m.modify id fun s => { s with awaitingPong := true }
  | .pongTimeout id =>
    if (m.session id).awaitingPong ∧ (m.session id).closed = false then
      m.close onSessionClosed id "pong-timeout"
    else m
  | .closeSessionsForNode nodeId reason => m.closeSessionsForNode onSessionClosed nodeId reason
  | .closeSessionsForCredential nodeId keyId reason =>
    (m.closeSessionsForCredential onSessionClosed nodeId keyId reason).2

/-- The manager after a list of events. -/
def run (m : ReverseSessionManager World) (events : List SessionEvent) :
    ReverseSessionManager World :=
  runFrom (step onSessionClosed parseJson) m events

end ReverseSessionManager

end DshOrbit.ReverseHub
