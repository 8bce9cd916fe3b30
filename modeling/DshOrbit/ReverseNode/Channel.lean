import DshOrbit.Lib.Run
import DshOrbit.ReverseWs.Frame
import Mathlib.Data.List.Basic
import Mathlib.Logic.Function.Basic

/-!
# One data channel on the node

A channel of the node's pool (`node/reverse-channels.mjs`): the Hub assigns it one flow
after the other with an `open` message, and each flow is a request to the local DSH whose
response, or whose upgraded socket, is carried back over the channel.

The events of a flow that has ended may still come, so every flow keeps its record. The
pausing and resuming of sources is left out: it changes when bytes come, not what is done
with them.

## Main definitions

- `Flow`, `NodeChannel` — one `open` and what became of it, and the channel
- `onChannelOpen`, `executeFlow`, `finishHttpFlow`, `abortFlow`, `teardownUpgraded`,
  `onChannelText` — the functions of that name
- `ChannelEvent`, `NodeChannel.step` — what can happen, in any order
-/

namespace DshOrbit.ReverseNode

open DshOrbit.Lib DshOrbit.ReverseWs

def channelFrameMaxBytes : ℕ := 64 * 1024
def channelSoftMarkBytes : ℕ := 512 * 1024
def channelHardCapBytes : ℕ := 2 * 1024 * 1024
def channelStallTimeoutMs : ℤ := 30000

/-- The `open` messages of a channel by the order in which they came. -/
abbrev OpenId := ℕ

inductive Mode
  | http
  | websocket
  deriving DecidableEq

/-- An `open` message by what the checks of `onChannelOpen` and `executeFlow` find. -/
structure Open where
  requestId : String
  /-- The request id is a string, and every header a pair. -/
  wellFormed : Bool := true
  mode : Option Mode
  /-- The node has credentials; without them the handler throws. -/
  credentials : Bool := true
  authorityMatches : Bool := true
  /-- Why `verifyRouteRequest` refuses the proof. -/
  proofError : Option String := none
  /-- The DSH target is an http or https URL, and a request to it can be made. -/
  targetError : Option String := none
  deriving DecidableEq

inductive NodeMessage
  | response (requestId : String) (status : ℕ)
  | binary (payload : Buffer)
  | responseEnd (requestId : Option String)
  | abort (requestId : String) (code : String)
  | idle
  deriving DecidableEq

/-- The local request, then its response or the socket that it was upgraded to. -/
inductive Upstream
  | awaiting
  | responding
  | ended
  | upgraded
  /-- Destroyed, with its `close` event still to come. -/
  | destroyed
  | closed
  deriving DecidableEq

/-- `destroy` of the local request, or of the upgraded socket. -/
def Upstream.destroy : Upstream → Upstream
  | .awaiting => .closed
  | .responding => .closed
  | .upgraded => .destroyed
  | upstream => upstream

/-- Who waits for the upgraded socket to close. -/
inductive Complete
  | teardown
  | abort (requestId : Option String)
  deriving DecidableEq

structure Flow where
  /-- The `requestId` that the closures of `executeFlow` hold. -/
  opened : String
  mode : Mode
  upstream : Upstream := .awaiting
  requestEnded : Bool := false
  upgraded : Bool := false
  pendingBrowserBytes : List Buffer := []
  pendingBrowserBytesTotal : ℕ := 0
  pendingRequestBytes : List Buffer := []
  pendingRequestBytesTotal : ℕ := 0
  requestPumpWaiting : Bool := false
  requestEndPending : Bool := false
  requestEndedSent : Bool := false
  tearingDown : Bool := false
  completed : Bool := false
  handshakeTimer : Bool := true
  d7Timer : Bool := false
  d7LastChannelQueued : ℕ := 0
  d7LastUpstreamQueued : ℕ := 0
  d7LastChannelProgressAt : ℤ
  d7LastUpstreamProgressAt : ℤ
  closeListeners : List Complete := []
  /-- The `request-end` of the Hub has come; the source keeps no such field. -/
  hubEnded : Bool := false
  deriving DecidableEq

/-- `flow.requestId`, which the abort handler reads: the flow object has no such field. -/
def Flow.requestId (_ : Flow) : Option String := none

/-- What stands for the flow of an `open` that was refused. -/
def Flow.refused : Flow :=
  { opened := "", mode := .http, upstream := .closed, tearingDown := true, handshakeTimer := false
    d7LastChannelProgressAt := 0, d7LastUpstreamProgressAt := 0 }

inductive ChannelState
  | idle
  | busy
  deriving DecidableEq

structure NodeChannel where
  state : ChannelState := .idle
  /-- The channel is in the pool, and its socket is not destroyed. -/
  pooled : Bool := true
  destroyed : Bool := false
  flow : Option OpenId := none
  /-- The flows whose `onRequestBody` and `onRequestEnd` are set. -/
  bodyFlow : Option OpenId := none
  endFlow : Option OpenId := none
  flows : OpenId → Flow := fun _ => .refused
  count : ℕ := 0
  /-- What went out over the socket, and for which `open`. -/
  sent : List (OpenId × NodeMessage) := []

/-- The readings of one event: the write queues of the channel and of the local side, one
after the other, and the clock. -/
structure Readings where
  channelQueued : ℕ → ℕ := fun _ => 0
  upstreamQueued : ℕ → ℕ := fun _ => 0
  now : ℤ := 0

namespace NodeChannel

def modify (s : NodeChannel) (id : OpenId) (f : Flow → Flow) : NodeChannel :=
  { s with flows := Function.update s.flows id (f (s.flows id)) }

def send (s : NodeChannel) (id : OpenId) (message : NodeMessage) : NodeChannel :=
  if s.destroyed then s else { s with sent := s.sent ++ [(id, message)] }

/-- `closeChannel`. The close frame that some callers send first is part of it. -/
def closeChannel (s : NodeChannel) : NodeChannel :=
  if !s.pooled then s
  else
    let flow := s.flow
    let s : NodeChannel :=
      { s with
        pooled := false, flow := none, bodyFlow := none, endFlow := none
        destroyed := true }
    match flow with
    | none => s
    | some id =>
      s.modify id fun flow =>
        { flow with upstream := flow.upstream.destroy, handshakeTimer := false }

/-! ### The closures of a flow -/

def safeSendJson (s : NodeChannel) (id : OpenId) (message : NodeMessage) : NodeChannel :=
  if s.flow = some id then s.send id message else s

/-- The channel is free for the next `open`. -/
def release (s : NodeChannel) : NodeChannel :=
  { s with flow := none, bodyFlow := none, endFlow := none, state := .idle }

def finishHttpFlow (s : NodeChannel) (id : OpenId) : NodeChannel :=
  let flow := s.flows id
  if flow.tearingDown then s
  else
    let s := s.modify id fun flow =>
      { flow with tearingDown := true, handshakeTimer := false, d7Timer := false }
    let s := s.safeSendJson id (.responseEnd (some flow.opened))
    s.release.send id .idle

def abortFlow (s : NodeChannel) (id : OpenId) (code : String) : NodeChannel :=
  let flow := s.flows id
  if flow.tearingDown then s
  else
    let s := s.modify id fun flow =>
      { flow with tearingDown := true, handshakeTimer := false, d7Timer := false }
    (s.safeSendJson id (.abort flow.opened code)).closeChannel

/-- The loop of `pump`, over the queued request bytes. -/
def pumpLoop (id : OpenId) (readings : Readings) :
    ℕ → List Buffer → NodeChannel → NodeChannel
  | _, [], s =>
    let s := s.modify id fun flow =>
      { flow with
        requestPumpWaiting := false
        d7LastUpstreamQueued := readings.upstreamQueued 0
        d7LastUpstreamProgressAt := readings.now, d7Timer := true }
    let flow := s.flows id
    if flow.requestEndPending && !flow.requestEndedSent then
      s.modify id fun flow => { flow with requestEndedSent := true }
    else s
  | k, bytes :: rest, s =>
    if channelSoftMarkBytes ≤ readings.upstreamQueued (2 * k) then
      s.modify id fun flow =>
        { flow with
          pendingRequestBytes := bytes :: rest
          d7LastUpstreamQueued := readings.upstreamQueued (2 * k), d7Timer := true }
    else
      let s := s.modify id fun flow =>
        { flow with
          pendingRequestBytes := rest
          pendingRequestBytesTotal := flow.pendingRequestBytesTotal - bytes.length }
      if channelHardCapBytes < readings.upstreamQueued (2 * k + 1) then s.abortFlow id "flow-overrun"
      else pumpLoop id readings (k + 1) rest s

def pump (s : NodeChannel) (id : OpenId) (readings : Readings) : NodeChannel :=
  let flow := s.flows id
  if flow.tearingDown || s.flow ≠ some id then
    s.modify id fun flow => { flow with requestPumpWaiting := false }
  else pumpLoop id readings 0 flow.pendingRequestBytes s

/-- `abortRequestQueue`, which starts the pump. -/
def abortRequestQueue (s : NodeChannel) (id : OpenId) (readings : Readings) : NodeChannel :=
  if (s.flows id).requestPumpWaiting then s
  else (s.modify id fun flow => { flow with requestPumpWaiting := true }).pump id readings

/-- The loop of `sendBinaryChunks`, over the frames. -/
def sendBinaryChunks (id : OpenId) (readings : Readings) :
    ℕ → List Buffer → NodeChannel → NodeChannel
  | _, [], s => s
  | k, frame :: rest, s =>
    if s.destroyed then s
    else
      let s := s.send id (.binary frame)
      let s :=
        if channelHardCapBytes < readings.channelQueued (k + 1) then
          (s.modify id fun flow => { flow with upstream := flow.upstream.destroy }).abortFlow id
            "flow-overrun"
        else s
      sendBinaryChunks id readings (k + 1) rest s

def sendUpstreamBytes (s : NodeChannel) (id : OpenId) (bytes : Buffer) (readings : Readings) :
    NodeChannel :=
  if bytes = [] then s
  else if channelHardCapBytes < readings.channelQueued 0 then
    (s.modify id fun flow => { flow with upstream := flow.upstream.destroy }).abortFlow id
      "flow-overrun"
  else
    let s := sendBinaryChunks id readings 0 (bytes.toChunks channelFrameMaxBytes) s
    if s.destroyed then s
    else
      s.modify id fun flow =>
        { flow with
          d7LastChannelQueued := readings.channelQueued 0
          d7LastChannelProgressAt := readings.now, d7Timer := true }

def forwardBrowserBytes (s : NodeChannel) (id : OpenId) (bytes : Buffer) (readings : Readings) :
    NodeChannel :=
  let flow := s.flows id
  if flow.tearingDown then s
  else if flow.upstream ≠ .upgraded then
    let s := s.modify id fun flow =>
      { flow with pendingBrowserBytesTotal := flow.pendingBrowserBytesTotal + bytes.length }
    if channelHardCapBytes < (s.flows id).pendingBrowserBytesTotal then s.abortFlow id "flow-overrun"
    else
      s.modify id fun flow =>
        { flow with pendingBrowserBytes := flow.pendingBrowserBytes ++ [bytes] }
  else if channelHardCapBytes < readings.upstreamQueued 0 then s.abortFlow id "flow-overrun"
  else
    s.modify id fun flow =>
      { flow with
        d7LastUpstreamQueued := readings.upstreamQueued 1
        d7LastUpstreamProgressAt := readings.now, d7Timer := true }

/-- `complete`, of `teardownUpgraded` and of the abort handler. -/
def complete (s : NodeChannel) (id : OpenId) (kind : Complete) : NodeChannel :=
  if (s.flows id).completed then s
  else
    let s := s.modify id fun flow => { flow with completed := true }
    match kind with
    | .teardown =>
      let s := s.modify id fun flow => { flow with d7Timer := false }
      let s := s.safeSendJson id (.responseEnd (some (s.flows id).opened))
      s.release.send id .idle
    | .abort requestId =>
      let s : NodeChannel := { s with flow := none, state := .idle }
      (s.send id (.responseEnd requestId)).send id .idle

/-- Complete now if the upgraded socket is gone, or when it closes. -/
def completeWhenClosed (s : NodeChannel) (id : OpenId) (kind : Complete) : NodeChannel :=
  if (s.flows id).upstream = .upgraded then
    s.modify id fun flow =>
      { flow with
        closeListeners := flow.closeListeners ++ [kind], upstream := flow.upstream.destroy }
  else s.complete id kind

def teardownUpgraded (s : NodeChannel) (id : OpenId) : NodeChannel :=
  if (s.flows id).tearingDown then s
  else
    (s.modify id fun flow =>
      { flow with tearingDown := true, handshakeTimer := false }).completeWhenClosed id .teardown

def onUpstreamClose (s : NodeChannel) (id : OpenId) : NodeChannel :=
  if (s.flows id).upgraded then s.teardownUpgraded id
  else if !(s.flows id).tearingDown then s.abortFlow id "dsh-unreachable"
  else s

def onRequestBody (s : NodeChannel) (id : OpenId) (bytes : Buffer) (readings : Readings) :
    NodeChannel :=
  if (s.flows id).mode = .websocket then s.forwardBrowserBytes id bytes readings
  else
    let s := s.modify id fun flow =>
      { flow with pendingRequestBytesTotal := flow.pendingRequestBytesTotal + bytes.length }
    if channelHardCapBytes < (s.flows id).pendingRequestBytesTotal then s.abortFlow id "flow-overrun"
    else
      (s.modify id fun flow =>
        { flow with pendingRequestBytes := flow.pendingRequestBytes ++ [bytes] }).abortRequestQueue
          id readings

def onRequestEnd (s : NodeChannel) (id : OpenId) (readings : Readings) : NodeChannel :=
  let flow := s.flows id
  if flow.requestEnded then s
  else
    let s := s.modify id fun flow => { flow with requestEnded := true }
    if flow.mode = .websocket then s
    else
      let s := s.modify id fun flow => { flow with handshakeTimer := false }
      if flow.pendingRequestBytes ≠ [] ∨ flow.requestPumpWaiting then
        (s.modify id fun flow => { flow with requestEndPending := true }).abortRequestQueue id
          readings
      else s.modify id fun flow => { flow with requestEndedSent := true }

/-! ### Messages of the Hub -/

def executeFlow (s : NodeChannel) (id : OpenId) (message : Open) (mode : Mode)
    (readings : Readings) : NodeChannel :=
  match message.targetError with
  | some code => (s.send id (.abort message.requestId code)).closeChannel
  | none =>
    let flow : Flow :=
      { opened := message.requestId, mode
        d7LastChannelProgressAt := readings.now, d7LastUpstreamProgressAt := readings.now }
    let s : NodeChannel :=
      { s with
        flow := some id, bodyFlow := some id, endFlow := some id
        flows := Function.update s.flows id flow }
    -- the upgrade request has no body
    if mode = .websocket then s.onRequestEnd id readings else s

def onChannelOpen (s : NodeChannel) (message : Open) (readings : Readings) : NodeChannel :=
  let id := s.count
  let s : NodeChannel := { s with count := id + 1 }
  let deny (code : String) := (s.send id (.abort message.requestId code)).closeChannel
  if !message.wellFormed then deny "malformed-open"
  else
    match message.mode with
    | none => deny "invalid-mode"
    | some mode =>
      if s.state ≠ .idle then s.closeChannel
      else if !message.credentials then s.closeChannel
      else if !message.authorityMatches then deny "authority-mismatch"
      else
        match message.proofError with
        | some code => deny code
        | none => { s with state := .busy, flow := none }.executeFlow id message mode readings

/-- The abort of the Hub. -/
def onAbort (s : NodeChannel) (requestId : Option String) : NodeChannel :=
  match s.flow with
  | none => s
  | some id =>
    let flow := s.flows id
    if requestId ≠ flow.requestId then s
    else if flow.mode = .websocket ∧ flow.upgraded then
      let s := s.modify id fun flow => { flow with tearingDown := true }
      let s : NodeChannel := { s with bodyFlow := none, endFlow := none }
      s.completeWhenClosed id (.abort requestId)
    else { s with bodyFlow := none }.closeChannel

/-! ### Events of the local side -/

def onUpgrade (s : NodeChannel) (id : OpenId) (status : ℕ) (head : Buffer)
    (readings : Readings) : NodeChannel :=
  if (s.flows id).tearingDown then s.modify id fun flow => { flow with upstream := .closed }
  else
    let s := s.modify id fun flow =>
      { flow with
        upgraded := true, upstream := .upgraded, handshakeTimer := false, d7Timer := true }
    let s := s.safeSendJson id (.response (s.flows id).opened status)
    let s := s.sendUpstreamBytes id head readings
    let s := (s.flows id).pendingBrowserBytes.foldl
      (fun s bytes => s.forwardBrowserBytes id bytes readings) s
    s.modify id fun flow =>
      { flow with pendingBrowserBytes := [], pendingBrowserBytesTotal := 0 }

def onRequestError (s : NodeChannel) (id : OpenId) : NodeChannel :=
  if (s.flows id).tearingDown then s
  else if (s.flows id).upgraded then s.teardownUpgraded id
  else s.abortFlow id "dsh-unreachable"

/-- The check of the interval that watches the queues. -/
def checkD7 (s : NodeChannel) (id : OpenId) (readings : Readings) : NodeChannel :=
  let flow := s.flows id
  if flow.tearingDown then s
  else
    let channelQueued := readings.channelQueued 0
    let upstreamQueued :=
      if flow.upgraded then readings.upstreamQueued 0
      else readings.upstreamQueued 0 + flow.pendingRequestBytesTotal
    if channelHardCapBytes < channelQueued ∨ channelHardCapBytes < upstreamQueued then
      s.abortFlow id "flow-overrun"
    else
      let channelProgressAt :=
        if channelQueued < flow.d7LastChannelQueued then readings.now
        else flow.d7LastChannelProgressAt
      let upstreamProgressAt :=
        if upstreamQueued < flow.d7LastUpstreamQueued then readings.now
        else flow.d7LastUpstreamProgressAt
      let s := s.modify id fun flow =>
        { flow with
          d7LastChannelProgressAt := channelProgressAt
          d7LastUpstreamProgressAt := upstreamProgressAt }
      if channelSoftMarkBytes ≤ channelQueued ∧
          channelStallTimeoutMs ≤ readings.now - channelProgressAt then
        s.abortFlow id "flow-stall"
      else if channelSoftMarkBytes ≤ upstreamQueued ∧
          channelStallTimeoutMs ≤ readings.now - upstreamProgressAt then
        s.abortFlow id "flow-stall"
      else
        s.modify id fun flow =>
          { flow with
            d7LastChannelQueued := channelQueued, d7LastUpstreamQueued := upstreamQueued }

/-- The close listeners that the flows put on the socket of the channel. -/
def onChannelSocketClose (s : NodeChannel) : NodeChannel :=
  { s with
    flows := fun id =>
      let flow := s.flows id
      if id < s.count ∧ flow.upgraded ∧ flow.tearingDown = false then
        { flow with tearingDown := true, upstream := flow.upstream.destroy }
      else flow }

end NodeChannel

/-- What happens to a channel: a message of the Hub, the end of its socket, an event of a
local request or of the socket it was upgraded to, or a timer. -/
inductive ChannelEvent
  | open (message : Open) (readings : Readings)
  | requestEnd (readings : Readings)
  | abort (requestId : Option String)
  | binary (bytes : Buffer) (readings : Readings)
  /-- A message that is no message of the protocol, or a close frame. -/
  | violation
  | socketError
  | socketClose
  | upgrade (id : OpenId) (status : ℕ) (head : Buffer) (readings : Readings)
  | upgradedData (id : OpenId) (bytes : Buffer) (readings : Readings)
  | upgradedEnd (id : OpenId)
  | upgradedError (id : OpenId)
  | upgradedClose (id : OpenId)
  | response (id : OpenId) (status : ℕ)
  | responseData (id : OpenId) (bytes : Buffer) (readings : Readings)
  | responseEnd (id : OpenId)
  | responseError (id : OpenId)
  | requestError (id : OpenId)
  | requestDrain (id : OpenId) (readings : Readings)
  | handshakeTimeout (id : OpenId)
  | d7Tick (id : OpenId) (readings : Readings)

namespace NodeChannel

/-- One event. What the local side cannot emit, as it stands, leaves the channel as it is. -/
def step (s : NodeChannel) : ChannelEvent → NodeChannel
  | .open message readings => s.onChannelOpen message readings
  | .requestEnd readings =>
    match s.endFlow with
    | none => s
    | some id => (s.modify id fun flow => { flow with hubEnded := true }).onRequestEnd id readings
  | .abort requestId => s.onAbort requestId
  | .binary bytes readings =>
    match s.bodyFlow with
    | none => s.closeChannel
    | some id => s.onRequestBody id bytes readings
  | .violation => s.closeChannel
  | .socketError => s.closeChannel
  | .socketClose => { s with destroyed := true }.closeChannel.onChannelSocketClose
  | .upgrade id status head readings =>
    if (s.flows id).upstream = .awaiting then s.onUpgrade id status head readings else s
  | .upgradedData id bytes readings =>
    if (s.flows id).upstream = .upgraded then s.sendUpstreamBytes id bytes readings else s
  | .upgradedEnd id =>
    if (s.flows id).upstream = .upgraded then
      s.modify id fun flow => { flow with upstream := .destroyed }
    else s
  | .upgradedError id =>
    if (s.flows id).upstream = .upgraded then
      (s.modify id fun flow => { flow with upstream := .destroyed }).onUpstreamClose id
    else s
  | .upgradedClose id =>
    if (s.flows id).upstream = .upgraded ∨ (s.flows id).upstream = .destroyed then
      let s := s.modify id fun flow => { flow with upstream := .closed }
      let s := s.onUpstreamClose id
      (s.flows id).closeListeners.foldl (fun s kind => s.complete id kind) s
    else s
  | .response id status =>
    if (s.flows id).upstream = .awaiting then
      (s.modify id fun flow => { flow with upstream := .responding }).safeSendJson id
        (.response (s.flows id).opened status)
    else s
  | .responseData id bytes readings =>
    if (s.flows id).upstream = .responding then s.sendUpstreamBytes id bytes readings else s
  | .responseEnd id =>
    if (s.flows id).upstream = .responding then
      (s.modify id fun flow => { flow with upstream := .ended }).finishHttpFlow id
    else s
  | .responseError id =>
    if (s.flows id).upstream = .responding then
      (s.modify id fun flow => { flow with upstream := .closed }).abortFlow id "dsh-response-error"
    else s
  | .requestError id =>
    if id < s.count then
      (s.modify id fun flow =>
        { flow with
          upstream := if flow.upgraded then flow.upstream else flow.upstream.destroy }).onRequestError
            id
    else s
  | .requestDrain id readings =>
    if (s.flows id).requestPumpWaiting then s.pump id readings else s
  | .handshakeTimeout id =>
    if (s.flows id).handshakeTimer then
      (s.modify id fun flow =>
        { flow with handshakeTimer := false, upstream := flow.upstream.destroy }).abortFlow id
          "dsh-timeout"
    else s
  | .d7Tick id readings => if (s.flows id).d7Timer then s.checkD7 id readings else s

/-- The channel after a list of events. -/
def run (events : List ChannelEvent) : NodeChannel := runFrom step {} events

end NodeChannel

end DshOrbit.ReverseNode
