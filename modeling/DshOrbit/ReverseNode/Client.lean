import DshOrbit.ReverseHub.Session

/-!
# The control connection of the node

The reverse client (`node/reverse-client.mjs`): it connects to the Hub, and connects again
when the connection is lost. The Hub announces a session over the connection; the client asks
the local DSH whether it answers, and says `ready`.

The question to DSH is awaited. What was going on when it was asked may be over when it is
answered, and the handler goes on with the fields of the client as they are then. So every
awaited question is kept, and may be answered at any time.

## Main definitions

- `ReverseClient` — the client, its sockets and timers, and the awaited questions
- `attemptConnect`, `onHandshakeResponse`, `onControlMessage`, `onConnectionLost`, `stop` —
  the functions of that name
- `ClientEvent`, `ReverseClient.step` — what can happen, in any order
-/

namespace DshOrbit.ReverseNode

open DshOrbit.Lib DshOrbit.ReverseWs DshOrbit.ReverseHub

/-- The sockets of a client, and its intervals, by the order in which they were made. -/
abbrev SocketId := ℕ
abbrev TimerId := ℕ

theorem clientConfig_safe : 4096 ≤ maxSafeInteger := by decide

/-- The control parser: the node is the client, and messages are small. -/
def clientConfig : ParserConfig := ⟨true, 4096, clientConfig_safe⟩

inductive ClientMessage
  | pong (payload : Buffer)
  | close (code : ℕ) (reason : String)
  | ready (routeReady : Bool)
  | status (routeReady : Bool)
  deriving DecidableEq

def ClientMessage.isReady : ClientMessage → Bool
  | .ready _ => true
  | _ => false

/-- What is read from a `session` message. -/
structure Announcement where
  reverseSessionId : Option String
  idleTarget : Option Json
  maxChannels : Option Json

/-- A message of the Hub, by what `onControlMessage` makes of it. -/
inductive HubControl
  | malformed
  | protocolMismatch
  | session (announcement : Announcement)
  | unknown

/-- `typeof value === "object"` and not `null`. -/
def isObject : Json → Bool
  | .arr _ => true
  | .obj _ => true
  | _ => false

def readHubControl (parseJson : Message → Option Json) (message : Message) : HubControl :=
  match parseJson message with
  | none => .malformed
  | some value =>
    if !isObject value then .malformed
    else if (value.field "type").bind Json.str? = some "session" then
      if (value.field "protocol").bind Json.str? ≠ some reverseProtocol then .protocolMismatch
      else
        .session
          { reverseSessionId := (value.field "reverseSessionId").bind Json.str?
            idleTarget := value.field "idleTarget", maxChannels := value.field "maxChannels" }
    else .unknown

/-- The head of the response to the upgrade, and the bytes behind it. -/
def splitHead : Buffer → Option (Buffer × Buffer)
  | 13 :: 10 :: 13 :: 10 :: rest => some ([], rest)
  | byte :: rest => (splitHead rest).map fun found => (byte :: found.1, found.2)
  | [] => none

/-- An awaited `probeDshTransport`: of a `session` message, and the socket it came from, or of
the interval that watches the readiness. -/
inductive Probe
  | session (socket : SocketId) (announcement : Announcement)
  | status (timer : TimerId)

/-- A message that went out over a socket, and the `sessionId` that the client had then. -/
structure Sent where
  socket : SocketId
  message : ClientMessage
  session : Option String
  deriving DecidableEq

/-- What `setSession` gave to the channel pool. -/
structure PoolSession where
  sessionId : Option String
  idleTarget : Option Json
  maxChannels : Option Json

structure ReverseClient where
  stopped : Bool := true
  socket : Option SocketId := none
  parse : Option ParserState := none
  expectedAccept : Option String := none
  sessionId : Option String := none
  currentRouteReady : Bool := false
  lastReportedRouteReady : Option Bool := none
  backoffAttempt : ℕ := 0
  reconnectTimer : Bool := false
  routeReadyTimer : Option TimerId := none
  /-- How many sockets have been made; which of them are destroyed; and the bytes that their
  `data` listeners have collected. -/
  count : ℕ := 0
  destroyed : SocketId → Bool := fun _ => false
  buffered : SocketId → Buffer := fun _ => []
  /-- The intervals that run, and the connection whose session each was started for. -/
  timers : TimerId → Option SocketId := fun _ => none
  timerCount : ℕ := 0
  probes : List Probe := []
  pool : Option PoolSession := none
  sent : List Sent := []
  /-- The sessions that were announced over a socket. -/
  announced : SocketId → List Announcement := fun _ => []
  /-- The sessions that the pool was given, with the socket of the client at that time. -/
  given : List (Option SocketId × Option String) := []

/-- What `attemptConnect` finds: no credentials, a URL that it may not use, or neither. -/
inductive Attempt
  | noCredentials
  | insecure
  | connect

namespace ReverseClient

def destroySocket (s : ReverseClient) : ReverseClient :=
  match s.socket with
  | none => s
  | some i => { s with socket := none, destroyed := Function.update s.destroyed i true }

def scheduleReconnect (s : ReverseClient) : ReverseClient :=
  if s.stopped || s.reconnectTimer then s
  else { s with backoffAttempt := s.backoffAttempt + 1, reconnectTimer := true }

def clearRouteReadyTimer (s : ReverseClient) : ReverseClient :=
  match s.routeReadyTimer with
  | none => s
  | some t => { s with routeReadyTimer := none, timers := Function.update s.timers t none }

def clearTimers (s : ReverseClient) : ReverseClient :=
  { s with reconnectTimer := false }.clearRouteReadyTimer

def sendFrame (s : ReverseClient) (message : ClientMessage) : ReverseClient :=
  match s.socket with
  | none => s
  | some i =>
    if s.destroyed i then s else { s with sent := s.sent ++ [⟨i, message, s.sessionId⟩] }

def stop (s : ReverseClient) : ReverseClient :=
  let s := { s with stopped := true, pool := none }.clearTimers
  let s := (s.sendFrame (.close 1000 "node-stop")).destroySocket
  { s with sessionId := none }

def attemptConnect (s : ReverseClient) (attempt : Attempt) : ReverseClient :=
  if s.stopped || s.socket.isSome then s
  else
    match attempt with
    | .noCredentials => s.scheduleReconnect
    | .insecure => s
    | .connect =>
      { s with socket := some s.count, count := s.count + 1, parse := none, expectedAccept := none }

def onConnectionLost (s : ReverseClient) : ReverseClient :=
  let s := { s with pool := none, sessionId := none, parse := none }.clearRouteReadyTimer
  let s := { s with lastReportedRouteReady := none, currentRouteReady := false }
  s.destroySocket.scheduleReconnect

variable (parseJson : Message → Option Json)

/-- `onControlMessage` for a message that came over the socket `i`, as far as its first
`await`. -/
def onControlMessage (i : SocketId) (s : ReverseClient) (message : Message) : ReverseClient :=
  match readHubControl parseJson message with
  | .malformed => s.onConnectionLost
  | .protocolMismatch => (s.sendFrame (.close 1008 "protocol-mismatch")).onConnectionLost
  | .session announcement =>
    { s with
      sessionId := announcement.reverseSessionId
      probes := s.probes ++ [.session i announcement]
      announced := Function.update s.announced i (s.announced i ++ [announcement]) }
  | .unknown => (s.sendFrame (.close 1008 "unknown-control-type")).onConnectionLost

/-- The callbacks that the client gives its parser. -/
def onParserEvent (i : SocketId) (s : ReverseClient) : ParserEvent → ReverseClient
  | .message message => s.onControlMessage parseJson i message
  | .ping payload => s.sendFrame (.pong payload)
  | .pong _ => s
  | .close _ => s.onConnectionLost
  | .error _ => s.onConnectionLost

/-- `this.parse(chunk)`. -/
def runParser (s : ReverseClient) (i : SocketId) (state : ParserState) (chunk : Buffer) :
    ReverseClient :=
  let (state, events) := (createFrameParser clientConfig).feed state chunk
  events.foldl (onParserEvent parseJson i) { s with parse := some state }

variable (readReply : Buffer → Option String)

/-- `onHandshakeResponse`. The `sec-websocket-accept` value of a response head is a parameter,
`none` if the status is not 101 or the value is not there. -/
def onHandshakeResponse (s : ReverseClient) (i : SocketId) (head rest : Buffer) : ReverseClient :=
  if readReply head = none ∨ readReply head ≠ s.expectedAccept then
    s.destroySocket.scheduleReconnect
  else
    let s := { s with parse := some .initial }
    if rest ≠ [] then s.runParser parseJson i .initial rest else s

/-- The `data` listener of a socket. -/
def onData (s : ReverseClient) (i : SocketId) (chunk : Buffer) : ReverseClient :=
  match s.parse with
  | some state => s.runParser parseJson i state chunk
  | none =>
    let s := { s with buffered := Function.update s.buffered i (s.buffered i ++ chunk) }
    match splitHead (s.buffered i) with
    | none => s
    | some (head, rest) => s.onHandshakeResponse parseJson readReply i head rest

/-- What comes after the `await`. -/
def resume (s : ReverseClient) (probe : Probe) (ready : Bool) : ReverseClient :=
  match probe with
  | .session i announcement =>
    let s := { s with currentRouteReady := ready, lastReportedRouteReady := some ready }
    let s := s.sendFrame (.ready ready)
    { s with
      backoffAttempt := 0
      pool := some ⟨s.sessionId, announcement.idleTarget, announcement.maxChannels⟩
      given := s.given ++ [(s.socket, s.sessionId)]
      routeReadyTimer := some s.timerCount
      timers := Function.update s.timers s.timerCount (some i), timerCount := s.timerCount + 1 }
  | .status _ =>
    if s.lastReportedRouteReady ≠ some ready ∧ s.socket.isSome then
      { s with lastReportedRouteReady := some ready, currentRouteReady := ready }.sendFrame
        (.status ready)
    else s

end ReverseClient

/-- What happens to a client: a call of `start` or `stop`, the reconnect timer, an event of a
socket, an answer of the local DSH or a tick of an interval. A socket may be destroyed before
the event comes that says so. -/
inductive ClientEvent
  | start (attempt : Attempt)
  | stop
  | reconnect (attempt : Attempt)
  | connected (i : SocketId) (accept : String)
  | data (i : SocketId) (chunk : Buffer)
  | down (i : SocketId)
  | error (i : SocketId)
  | close (i : SocketId)
  | answer (k : ℕ) (ready : Bool)
  | tick (t : TimerId)

/-- The socket that an event is one of. -/
def ClientEvent.socket? : ClientEvent → Option SocketId
  | .connected i _ => some i
  | .data i _ => some i
  | .down i => some i
  | .error i => some i
  | .close i => some i
  | _ => none

namespace ReverseClient

variable (parseJson : Message → Option Json) (readReply : Buffer → Option String)

def step (s : ReverseClient) : ClientEvent → ReverseClient
  | .start attempt =>
    if s.stopped then { s with stopped := false }.attemptConnect attempt else s
  | .stop => s.stop
  | .reconnect attempt =>
    if s.reconnectTimer then { s with reconnectTimer := false }.attemptConnect attempt else s
  | .connected i accept =>
    if i < s.count ∧ s.destroyed i = false then { s with expectedAccept := some accept } else s
  | .data i chunk => if i < s.count then s.onData parseJson readReply i chunk else s
  | .down i =>
    if i < s.count then { s with destroyed := Function.update s.destroyed i true } else s
  | .error i =>
    if i < s.count then
      { s with destroyed := Function.update s.destroyed i true }.onConnectionLost
    else s
  | .close i =>
    if s.socket = some i then
      { s with socket := none, destroyed := Function.update s.destroyed i true }.onConnectionLost
    else s
  | .answer k ready =>
    match s.probes[k]? with
    | none => s
    | some probe => { s with probes := s.probes.eraseIdx k }.resume probe ready
  | .tick t =>
    match s.timers t with
    | none => s
    | some _ => { s with probes := s.probes ++ [.status t] }

/-- The client after a list of events. -/
def run (events : List ClientEvent) : ReverseClient :=
  runFrom (step parseJson readReply) {} events

end ReverseClient

end DshOrbit.ReverseNode
