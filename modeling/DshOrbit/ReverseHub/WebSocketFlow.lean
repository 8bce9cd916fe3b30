import DshOrbit.ReverseHub.Backpressure
import DshOrbit.UpgradeRelay

/-!
# Reverse WebSocket flows on the Hub

`executeReverseWebSocket` of the channel manager (`registry/reverse-channel.mjs`): the Hub opens a
flow on a data channel of the node, sends the bytes of the browser as binary frames, and writes the
response of the node and its bytes to the socket of the browser. The D7 watch pauses the sources;
that changes when bytes come, and only its aborts are here.

`write` of the channel socket says whether its buffer is below the high-water mark. Each message is
written whole; how much of it leaves the buffer at once is up to the socket.

## Main definitions

- `HubMessage`, `ChannelSocket` — what the Hub writes to a channel, and its socket
- `WebSocketFlow` — a flow, its channel and the socket of the browser
- `sendFrame`, `pumpBrowserToNode`, `onOpaqueBytes`, `onBrowserClose`, `executeReverseWebSocket` —
  the functions of that name
- `WebSocketFlow.step` — what can happen once the flow is open

## Main results

- `unfounded_iff` — when a flow fails as `channel-closed` on a channel that is in order
-/

namespace DshOrbit.ReverseHub

open DshOrbit.Lib DshOrbit.ReverseWs
open DshOrbit.UpgradeRelay (RelaySocket)

/-! ### The channel -/

def channelFrameMaxBytes : ℕ := 64 * 1024

inductive HubMessage
  | open (text : String)
  | binary (payload : Buffer)
  | requestEnd (requestId : String)
  | abort (requestId code : String)
  deriving DecidableEq

/-- The Hub does not mask its frames. -/
def noMask : MaskingKey := ⟨[0, 0, 0, 0], rfl⟩

def textFrame (text : String) : Buffer := encodeFrame opcodeText (utf8Bytes text) false noMask

/-- The frame of a message, with its JSON text. -/
def HubMessage.frame : HubMessage → Buffer
  | .open text => textFrame text
  | .binary payload => encodeFrame opcodeBinary payload false noMask
  | .requestEnd requestId =>
    textFrame ("\x7b\"type\":\"request-end\",\"requestId\":\"" ++ requestId ++ "\"\x7d")
  | .abort requestId code =>
    textFrame ("\x7b\"type\":\"abort\",\"requestId\":\"" ++ requestId ++ "\",\"code\":\"" ++ code ++
      "\"\x7d")

structure ChannelSocket where
  highWaterMark : ℕ
  writableLength : ℕ := 0
  writable : Bool := true
  destroyed : Bool := false
  /-- How much leaves the buffer at once with each write. -/
  flushed : ℕ → ℕ := fun _ => 0
  written : List HubMessage := []

namespace ChannelSocket

/-- `write` returns whether the buffer is below the mark with the message in it. -/
def write (c : ChannelSocket) (message : HubMessage) : ChannelSocket × Bool :=
  let length := c.writableLength + message.frame.length
  ({ c with writableLength := length - c.flushed c.written.length
            written := c.written ++ [message] },
    length < c.highWaterMark)

end ChannelSocket

/-! ### The flow -/

/-- The readings of the D7 watch: no progress of either queue for the stall timeout. -/
structure Stalls where
  request : Bool := false
  response : Bool := false
  deriving DecidableEq

structure WebSocketFlow where
  requestId : String
  channel : ChannelSocket
  channelClosed : Bool := false
  /-- The channel serves the flow. -/
  serving : Bool := true
  browser : RelaySocket := {}
  aborted : Bool := false
  abortCode : Option String := none
  tearingDown : Bool := false
  upgraded : Bool := false
  bodyEnded : Bool := false
  browserReady : Bool := false
  browserClosed : Bool := false
  idleReceived : Bool := false
  responseEnded : Bool := false
  teardownComplete : Bool := false
  non101Finished : Bool := false
  /-- The response that the promise is resolved with, until it is written. -/
  response : Option (ℕ × Buffer) := none
  responded : Bool := false
  pendingBrowserToNode : List Buffer := []
  pendingBrowserToNodeBytes : ℕ := 0
  browserPumpWaiting : Bool := false
  /-- The pump listens for the drain of the channel. -/
  drainListener : Bool := false
  pendingOpaque : List Buffer := []
  pendingOpaqueBytes : ℕ := 0
  /-- The queues that the D7 watch tracks. -/
  trackRequest : Bool := false
  trackResponse : Bool := false
  /-- It failed as `channel-closed` on a channel that was in order. -/
  unfounded : Bool := false

namespace WebSocketFlow

/-- The channel takes messages. -/
def usable (s : WebSocketFlow) : Bool :=
  !s.channelClosed && !s.channel.destroyed && s.channel.writable

/-- `fail` of the flow object. -/
def failFlow (s : WebSocketFlow) (code : String) : WebSocketFlow :=
  if s.aborted then s
  else
    { s with aborted := true, abortCode := some code, responded := true, bodyEnded := true
             trackRequest := false, trackResponse := false }

/-- `maybeIdle`: the channel is free again when both sides are done. -/
def maybeIdle (s : WebSocketFlow) : WebSocketFlow :=
  if !s.idleReceived || !s.browserClosed || !s.teardownComplete then s
  else if !s.upgraded && !s.browserReady then s
  else if s.channelClosed then s
  else { s with serving := false }

/-- `close` of the channel. -/
def closeChannel (s : WebSocketFlow) : WebSocketFlow :=
  if s.channelClosed then s
  else
    let s : WebSocketFlow := { s with channelClosed := true }
    let s :=
      if s.serving then
        { s with tearingDown := true, teardownComplete := true
                 browser := s.browser.destroy }.failFlow "channel-closed"
      else s
    { s with serving := false, channel := { s.channel with destroyed := true } }

def sendFrame (s : WebSocketFlow) (message : HubMessage) : WebSocketFlow × Bool :=
  if !s.usable then (s, false)
  else
    let (channel, accepted) := s.channel.write message
    ({ s with channel }, accepted)

/-- The `fail` closure of `executeReverseWebSocket`. -/
def fail (s : WebSocketFlow) (code : String) : WebSocketFlow :=
  if s.aborted || s.tearingDown then s
  else
    let unfounded := s.unfounded || (code = "channel-closed" && s.usable)
    let s := { s with tearingDown := true, unfounded }.failFlow code
    (s.sendFrame (.abort s.requestId code)).1.closeChannel

/-! ### The D7 watch -/

/-- What one queue makes the watch abort with. -/
def checkQueue (limits : Limits) (queued : ℕ) (stalled : Bool) : Option String :=
  if limits.hardCapBytes < queued then some "flow-overrun"
  else if limits.softMarkBytes ≤ queued ∧ stalled then some "flow-stall"
  else none

def checkD7 (limits : Limits) (stalls : Stalls) (s : WebSocketFlow) : WebSocketFlow :=
  if s.aborted then s
  else
    let request :=
      if s.trackRequest then
        checkQueue limits (s.channel.writableLength + s.pendingBrowserToNodeBytes) stalls.request
      else none
    let response :=
      if s.trackResponse then
        checkQueue limits (s.pendingOpaqueBytes + s.browser.queued.length) stalls.response
      else none
    match request, response with
    | some code, _ => s.fail code
    | none, some code => s.fail code
    | none, none => s

/-! ### From the browser to the node -/

/-- The frame that was sent is taken off the first pending bytes. -/
def shiftFrame (s : WebSocketFlow) (bytes : Buffer) (rest : List Buffer) : WebSocketFlow :=
  let frame := bytes.take channelFrameMaxBytes
  { s with
    pendingBrowserToNodeBytes := s.pendingBrowserToNodeBytes - frame.length
    pendingBrowserToNode :=
      if frame.length = bytes.length then rest else bytes.drop frame.length :: rest }

/-- The loop of the pump, which sends one frame in each round. -/
def pumpLoop (limits : Limits) (stalls : Stalls) : ℕ → WebSocketFlow → WebSocketFlow
  | 0, s => s
  | fuel + 1, s =>
    if s.aborted || s.channelClosed then
      { s with browserPumpWaiting := false }.checkD7 limits stalls
    else
      match s.pendingBrowserToNode with
      | [] => { s with browserPumpWaiting := false }.checkD7 limits stalls
      | bytes :: rest =>
        if limits.softMarkBytes ≤ s.channel.writableLength then
          { s.checkD7 limits stalls with drainListener := true }
        else
          let (s, sent) := s.sendFrame (.binary (bytes.take channelFrameMaxBytes))
          if !sent && !s.usable then s.fail "channel-closed"
          else
            let s := s.shiftFrame bytes rest
            if limits.hardCapBytes < s.channel.writableLength then s.fail "flow-overrun"
            else if limits.softMarkBytes ≤ s.channel.writableLength then
              { s.checkD7 limits stalls with drainListener := true }
            else s.pumpLoop limits stalls fuel

/-- Rounds enough to send everything. -/
def pumpFuel (s : WebSocketFlow) : ℕ :=
  (s.pendingBrowserToNode.map fun bytes => bytes.length + 1).sum + 1

def pumpBrowserToNode (limits : Limits) (stalls : Stalls) (s : WebSocketFlow) : WebSocketFlow :=
  if s.browserPumpWaiting || s.aborted || s.channelClosed then s
  else { s with browserPumpWaiting := true }.pumpLoop limits stalls s.pumpFuel

/-- Bytes of the browser, or its head, go behind what is pending. -/
def queueToNode (limits : Limits) (stalls : Stalls) (s : WebSocketFlow) (bytes : Buffer) :
    WebSocketFlow :=
  let s : WebSocketFlow :=
    { s with pendingBrowserToNodeBytes := s.pendingBrowserToNodeBytes + bytes.length }
  if limits.hardCapBytes < s.pendingBrowserToNodeBytes then s.fail "flow-overrun"
  else
    { s with pendingBrowserToNode := s.pendingBrowserToNode ++ [bytes] }.pumpBrowserToNode limits
      stalls

def onBrowserData (limits : Limits) (stalls : Stalls) (s : WebSocketFlow) (bytes : Buffer) :
    WebSocketFlow :=
  if s.aborted || s.channelClosed then s
  else { s with trackRequest := true }.queueToNode limits stalls bytes

/-- `resume`, which the pump runs on the drain of the channel. -/
def onDrain (limits : Limits) (stalls : Stalls) (s : WebSocketFlow) : WebSocketFlow :=
  if !s.drainListener then s
  else
    let s : WebSocketFlow := { s with browserPumpWaiting := false, drainListener := false }
    if s.aborted then s else s.pumpBrowserToNode limits stalls

def onBrowserClose (s : WebSocketFlow) : WebSocketFlow :=
  if s.browserClosed then s
  else
    let s : WebSocketFlow := { s with browserClosed := true }
    let s :=
      if s.tearingDown then s
      else ({ s with tearingDown := true }.sendFrame (.abort s.requestId "browser-close")).1
    { s with browser := s.browser.destroy }.maybeIdle

/-! ### From the node to the browser -/

def onOpaqueBytes (limits : Limits) (stalls : Stalls) (s : WebSocketFlow) (bytes : Buffer) :
    WebSocketFlow :=
  if s.browser.destroyed || s.browser.ended then s
  else
    let s : WebSocketFlow := { s with trackResponse := true }
    if !s.browserReady then
      let s : WebSocketFlow :=
        { s with pendingOpaqueBytes := s.pendingOpaqueBytes + bytes.length }
      if limits.hardCapBytes < s.pendingOpaqueBytes then s.fail "flow-overrun"
      else { s with pendingOpaque := s.pendingOpaque ++ [bytes] }.checkD7 limits stalls
    else if limits.hardCapBytes < s.browser.queued.length then s.fail "flow-overrun"
    else
      let s := { s with browser := s.browser.write bytes }.checkD7 limits stalls
      if limits.hardCapBytes < s.browser.queued.length then s.fail "flow-overrun" else s

def onResponse (s : WebSocketFlow) (status : ℕ) (head : Buffer) : WebSocketFlow :=
  let s : WebSocketFlow :=
    if s.aborted || s.responded then s
    else { s with response := some (status, head), responded := true }
  if status = 101 then { s with upgraded := true } else s

def finishNon101 (s : WebSocketFlow) : WebSocketFlow :=
  if s.upgraded || !s.browserReady || !s.responseEnded || s.non101Finished then s
  else
    let s : WebSocketFlow := { s with non101Finished := true }
    if s.browser.destroyed || s.browser.ended then { s with browserClosed := true }.maybeIdle
    else { s with browser := s.browser.finish }

/-- What `executeReverseWebSocket` does when it goes on with the response. -/
def writeResponse (limits : Limits) (stalls : Stalls) (s : WebSocketFlow) : WebSocketFlow :=
  match s.response with
  | none => s
  | some (status, head) =>
    let pendingOpaque := s.pendingOpaque
    let s : WebSocketFlow :=
      { s with response := none, browser := s.browser.write head, browserReady := true
               pendingOpaque := [], pendingOpaqueBytes := 0 }
    let s := pendingOpaque.foldl
      (fun s bytes => if s.aborted then s else s.onOpaqueBytes limits stalls bytes) s
    if status = 101 then { s with upgraded := true } else s.finishNon101

/-- The `onResponseEnd` closure: an upgraded socket is destroyed. -/
def endResponse (s : WebSocketFlow) : WebSocketFlow :=
  let s : WebSocketFlow := { s with responseEnded := true, teardownComplete := true }
  if !s.upgraded then s.finishNon101 else { s with browser := s.browser.destroy }.maybeIdle

def endBody (s : WebSocketFlow) : WebSocketFlow :=
  if s.bodyEnded then s
  else { s with bodyEnded := true, trackRequest := false, trackResponse := false }

/-- The `response-end` of the node. -/
def onResponseEnd (s : WebSocketFlow) : WebSocketFlow :=
  let s := { s with tearingDown := true }.endResponse.endBody
  if !s.upgraded then { s with browserClosed := true }.maybeIdle else s

def onIdle (s : WebSocketFlow) : WebSocketFlow :=
  { s with idleReceived := true, trackRequest := false, trackResponse := false }.maybeIdle

/-- A binary message of the node. -/
def onBinary (limits : Limits) (stalls : Stalls) (s : WebSocketFlow) (bytes : Buffer) :
    WebSocketFlow :=
  if s.aborted then s.closeChannel
  else if s.bodyEnded then s
  else s.onOpaqueBytes limits stalls bytes

/-! ### The opening -/

/-- What is done behind an accepted `open`, up to `request-end`. -/
def sendHead (limits : Limits) (stalls : Stalls) (s : WebSocketFlow) (head : Buffer) :
    WebSocketFlow :=
  let s : WebSocketFlow := { s with trackRequest := true }
  if 0 < head.length then s.queueToNode limits stalls head else s

def executeReverseWebSocket (limits : Limits) (stalls : Stalls) (s : WebSocketFlow) (text : String)
    (head : Buffer) : WebSocketFlow :=
  let requestId := s.requestId
  let (s, sent) := s.sendFrame (.open text)
  if !sent then s.fail "channel-closed"
  else
    let overruns := limits.hardCapBytes < s.pendingBrowserToNodeBytes + head.length
    let s := s.sendHead limits stalls head
    if 0 < head.length ∧ overruns then s
    else
      let (s, sent) := s.sendFrame (.requestEnd requestId)
      if !sent then s.fail "channel-closed" else s

end WebSocketFlow

/-- What happens to an open flow: bytes and the end of the browser, the sending of queued bytes, a
message of the node, the end of the channel, a tick of the D7 watch or the handshake timeout, and
the step in which the response is written. -/
inductive WebSocketEvent
  | browserData (bytes : Buffer) (stalls : Stalls)
  | browserClose
  | browserFlush (n : ℕ)
  | channelFlush (n : ℕ)
  | drain (stalls : Stalls)
  | response (status : ℕ) (head : Buffer)
  | binary (bytes : Buffer) (stalls : Stalls)
  | responseEnd
  | idle
  | channelClose
  | channelUnwritable
  | d7Tick (stalls : Stalls)
  | handshakeTimeout
  | writeResponse (stalls : Stalls)
  | browserFinished

namespace WebSocketFlow

def step (limits : Limits) (s : WebSocketFlow) : WebSocketEvent → WebSocketFlow
  | .browserData bytes stalls =>
    if s.browser.destroyed then s else s.onBrowserData limits stalls bytes
  | .browserClose => s.onBrowserClose
  | .browserFlush n => { s with browser := s.browser.drain n }
  | .channelFlush n =>
    { s with channel := { s.channel with writableLength := s.channel.writableLength - n } }
  | .drain stalls => s.onDrain limits stalls
  | .response status head => if !s.serving then s else s.onResponse status head
  | .binary bytes stalls => if !s.serving then s else s.onBinary limits stalls bytes
  | .responseEnd => if !s.serving then s else s.onResponseEnd
  | .idle => if !s.serving then s else s.onIdle
  | .channelClose => s.closeChannel
  | .channelUnwritable => { s with channel := { s.channel with writable := false } }
  | .d7Tick stalls => s.checkD7 limits stalls
  | .handshakeTimeout => if s.responded then s else s.fail "flow-stall"
  | .writeResponse stalls => s.writeResponse limits stalls
  | .browserFinished =>
    -- the callback of `socket.end`
    if s.non101Finished then { s with browserClosed := true }.maybeIdle else s

def run (limits : Limits) (s : WebSocketFlow) (events : List WebSocketEvent) : WebSocketFlow :=
  runFrom (step limits) s events

/-! ### What fails a flow -/

variable {limits : Limits} {stalls : Stalls} {s : WebSocketFlow}

@[simp] theorem failFlow_unfounded (s : WebSocketFlow) (code : String) :
    (s.failFlow code).unfounded = s.unfounded := by
  rw [failFlow]
  split_ifs <;> rfl

@[simp] theorem failFlow_aborted (s : WebSocketFlow) (code : String) :
    (s.failFlow code).aborted = true := by
  rw [failFlow]
  split_ifs with haborted
  · exact haborted
  · rfl

@[simp] theorem maybeIdle_unfounded (s : WebSocketFlow) :
    s.maybeIdle.unfounded = s.unfounded := by
  rw [maybeIdle]
  split_ifs <;> rfl

@[simp] theorem closeChannel_unfounded (s : WebSocketFlow) :
    s.closeChannel.unfounded = s.unfounded := by
  rw [closeChannel]
  dsimp only
  split_ifs
  · rfl
  · exact failFlow_unfounded _ _
  · rfl

@[simp] theorem sendFrame_unfounded (s : WebSocketFlow) (message : HubMessage) :
    (s.sendFrame message).1.unfounded = s.unfounded := by
  rw [sendFrame]
  split_ifs <;> rfl

theorem fail_unfounded (s : WebSocketFlow) {code : String}
    (h : code ≠ "channel-closed" ∨ s.usable = false) : (s.fail code).unfounded = s.unfounded := by
  rw [fail]
  split_ifs
  · rfl
  · have hfounded : (decide (code = "channel-closed") && s.usable) = false := by
      obtain hcode | husable := h
      · rw [decide_eq_false hcode, Bool.false_and]
      · rw [husable, Bool.and_false]
    simp [hfounded]

theorem checkQueue_code {queued : ℕ} {stalled : Bool} {code : String}
    (h : checkQueue limits queued stalled = some code) : code ≠ "channel-closed" := by
  rw [checkQueue] at h
  split_ifs at h
  · obtain rfl := Option.some.inj h
    simp
  · obtain rfl := Option.some.inj h
    simp

/-- The codes of the watch are its own. -/
theorem checkD7_cases (s : WebSocketFlow) :
    s.checkD7 limits stalls = s ∨
      ∃ code, code ≠ "channel-closed" ∧ s.checkD7 limits stalls = s.fail code := by
  rw [checkD7]
  by_cases haborted : s.aborted = true
  · rw [if_pos haborted]
    exact .inl rfl
  · rw [if_neg haborted]
    dsimp only
    split
    case h_1 _ _ code hrequest =>
      refine .inr ⟨code, ?_, rfl⟩
      split_ifs at hrequest
      exact checkQueue_code hrequest
    case h_2 _ _ code hrequest hresponse =>
      refine .inr ⟨code, ?_, rfl⟩
      split_ifs at hresponse
      exact checkQueue_code hresponse
    case h_3 => exact .inl rfl

@[simp] theorem checkD7_unfounded (s : WebSocketFlow) :
    (s.checkD7 limits stalls).unfounded = s.unfounded := by
  obtain h | ⟨code, hcode, h⟩ := @checkD7_cases limits stalls s
  · rw [h]
  · rw [h, fail_unfounded s (.inl hcode)]

@[simp] theorem pumpLoop_unfounded (fuel : ℕ) (s : WebSocketFlow) :
    (s.pumpLoop limits stalls fuel).unfounded = s.unfounded := by
  induction fuel generalizing s with
  | zero => rfl
  | succ fuel ih =>
    rw [pumpLoop]
    split
    · rw [checkD7_unfounded]
    · split
      · rw [checkD7_unfounded]
      · split
        · exact checkD7_unfounded s
        · dsimp only
          split_ifs with hlost
          · rw [fail_unfounded, sendFrame_unfounded]
            simp only [Bool.and_eq_true, Bool.not_eq_true'] at hlost
            exact .inr hlost.2
          · rw [fail_unfounded _ (.inl (by simp))]
            exact sendFrame_unfounded _ _
          · rw [checkD7_unfounded]
            exact sendFrame_unfounded _ _
          · rw [ih]
            exact sendFrame_unfounded _ _

@[simp] theorem pumpBrowserToNode_unfounded (s : WebSocketFlow) :
    (s.pumpBrowserToNode limits stalls).unfounded = s.unfounded := by
  rw [pumpBrowserToNode]
  split_ifs
  · rfl
  · rw [pumpLoop_unfounded]

@[simp] theorem queueToNode_unfounded (s : WebSocketFlow) (bytes : Buffer) :
    (s.queueToNode limits stalls bytes).unfounded = s.unfounded := by
  rw [queueToNode]
  dsimp only
  split_ifs
  · rw [fail_unfounded _ (.inl (by simp))]
  · rw [pumpBrowserToNode_unfounded]

@[simp] theorem onOpaqueBytes_unfounded (s : WebSocketFlow) (bytes : Buffer) :
    (s.onOpaqueBytes limits stalls bytes).unfounded = s.unfounded := by
  rw [onOpaqueBytes]
  dsimp only
  split_ifs
  · rfl
  · rw [fail_unfounded _ (.inl (by simp))]
  · rw [checkD7_unfounded]
  · rw [fail_unfounded _ (.inl (by simp))]
  · rw [fail_unfounded _ (.inl (by simp)), checkD7_unfounded]
  · rw [checkD7_unfounded]

@[simp] theorem finishNon101_unfounded (s : WebSocketFlow) :
    s.finishNon101.unfounded = s.unfounded := by
  rw [finishNon101]
  dsimp only
  split_ifs
  · rfl
  · rw [maybeIdle_unfounded]
  · rfl

theorem foldl_onOpaqueBytes_unfounded (queue : List Buffer) (s : WebSocketFlow) :
    (queue.foldl
      (fun s bytes => if s.aborted then s else s.onOpaqueBytes limits stalls bytes) s).unfounded =
      s.unfounded := by
  induction queue generalizing s with
  | nil => rfl
  | cons bytes rest ih =>
    rw [List.foldl_cons, ih]
    split_ifs
    · rfl
    · exact onOpaqueBytes_unfounded s bytes

@[simp] theorem writeResponse_unfounded (s : WebSocketFlow) :
    (s.writeResponse limits stalls).unfounded = s.unfounded := by
  rw [writeResponse]
  split
  · rfl
  · dsimp only
    split_ifs
    · exact foldl_onOpaqueBytes_unfounded _ _
    · rw [finishNon101_unfounded, foldl_onOpaqueBytes_unfounded]

@[simp] theorem onBrowserClose_unfounded (s : WebSocketFlow) :
    s.onBrowserClose.unfounded = s.unfounded := by
  rw [onBrowserClose]
  dsimp only
  split_ifs
  · rfl
  · rw [maybeIdle_unfounded]
  · rw [maybeIdle_unfounded]
    exact sendFrame_unfounded _ _

@[simp] theorem onResponseEnd_unfounded (s : WebSocketFlow) :
    s.onResponseEnd.unfounded = s.unfounded := by
  have hended : ∀ s : WebSocketFlow, s.endResponse.endBody.unfounded = s.unfounded := by
    intro s
    have hresponse : s.endResponse.unfounded = s.unfounded := by
      rw [endResponse]
      dsimp only
      split_ifs
      · rw [finishNon101_unfounded]
      · rw [maybeIdle_unfounded]
    rw [endBody, ← hresponse]
    split_ifs <;> rfl
  rw [onResponseEnd]
  split_ifs
  · rw [maybeIdle_unfounded]
    exact hended _
  · exact hended _

/-- Once the flow is open, only a channel that is lost fails it as `channel-closed`. -/
theorem step_unfounded (s : WebSocketFlow) (event : WebSocketEvent) :
    (s.step limits event).unfounded = s.unfounded := by
  cases event with
  | browserData bytes stalls =>
    rw [step, onBrowserData]
    split_ifs
    · rfl
    · rfl
    · rw [queueToNode_unfounded]
  | browserClose => exact onBrowserClose_unfounded s
  | browserFlush n => rfl
  | channelFlush n => rfl
  | drain stalls =>
    rw [step, onDrain]
    dsimp only
    split_ifs
    · rfl
    · rfl
    · rw [pumpBrowserToNode_unfounded]
  | response status head =>
    rw [step, onResponse]
    split_ifs <;> rfl
  | binary bytes stalls =>
    rw [step, onBinary]
    split_ifs
    · rfl
    · exact closeChannel_unfounded s
    · rfl
    · exact onOpaqueBytes_unfounded s bytes
  | responseEnd =>
    rw [step]
    split_ifs
    · rfl
    · exact onResponseEnd_unfounded s
  | idle =>
    rw [step, onIdle]
    split_ifs
    · rfl
    · rw [maybeIdle_unfounded]
  | channelClose => exact closeChannel_unfounded s
  | channelUnwritable => rfl
  | d7Tick stalls => exact checkD7_unfounded s
  | handshakeTimeout =>
    rw [step]
    split_ifs
    · rfl
    · exact fail_unfounded s (.inl (by simp))
  | writeResponse stalls => exact writeResponse_unfounded s
  | browserFinished =>
    rw [step]
    split_ifs
    · rw [maybeIdle_unfounded]
    · rfl

theorem run_unfounded (s : WebSocketFlow) (events : List WebSocketEvent) :
    (s.run limits events).unfounded = s.unfounded := by
  induction events generalizing s with
  | nil => rfl
  | cons event rest ih => exact (ih (s.step limits event)).trans (step_unfounded s event)

/-! ### The opening -/

/-- The message leaves the buffer of the channel below its high-water mark. -/
def Fits (s : WebSocketFlow) (message : HubMessage) : Prop :=
  s.channel.writableLength + message.frame.length < s.channel.highWaterMark

theorem sendFrame_sent (h : s.usable = true) (message : HubMessage) :
    (s.sendFrame message).2 = true ↔ s.Fits message := by
  rw [sendFrame, h, if_neg (by decide)]
  exact decide_eq_true_iff

@[simp] theorem sendFrame_aborted (s : WebSocketFlow) (message : HubMessage) :
    (s.sendFrame message).1.aborted = s.aborted := by
  rw [sendFrame]
  split_ifs <;> rfl

theorem closeChannel_aborted (h : s.aborted = true) : s.closeChannel.aborted = true := by
  rw [closeChannel]
  dsimp only
  split_ifs
  · exact h
  · exact failFlow_aborted _ _
  · exact h

/-- A flow that has not failed is not torn down, and its channel takes messages. -/
def Open (s : WebSocketFlow) : Prop :=
  s.aborted = false → s.usable = true ∧ s.tearingDown = false

theorem open_of_aborted (h : s.aborted = true) : Open s := by
  intro haborted
  simp [h] at haborted

theorem Open.fail_aborted (h : Open s) (code : String) : (s.fail code).aborted = true := by
  rw [fail]
  by_cases haborted : s.aborted = true
  · rw [if_pos (by simp [haborted]), haborted]
  · obtain ⟨-, htear⟩ := h (by simpa using haborted)
    rw [if_neg (by simp [haborted, htear])]
    apply closeChannel_aborted
    rw [sendFrame_aborted]
    exact failFlow_aborted _ _

theorem Open.checkD7 (h : Open s) : Open (s.checkD7 limits stalls) := by
  obtain heq | ⟨code, -, heq⟩ := @checkD7_cases limits stalls s
  · rw [heq]
    exact h
  · rw [heq]
    exact open_of_aborted (h.fail_aborted code)

theorem Open.sendFrame (h : Open s) (message : HubMessage) : Open (s.sendFrame message).1 := by
  intro haborted
  rw [sendFrame_aborted] at haborted
  obtain ⟨husable, htear⟩ := h haborted
  rw [WebSocketFlow.sendFrame, husable, if_neg (by decide)]
  exact ⟨husable, htear⟩

theorem Open.pumpLoop (h : Open s) (fuel : ℕ) : Open (s.pumpLoop limits stalls fuel) := by
  induction fuel generalizing s with
  | zero => exact h
  | succ fuel ih =>
    have hstopped : Open { s with browserPumpWaiting := false } := h
    rw [WebSocketFlow.pumpLoop]
    split
    · exact hstopped.checkD7
    · split
      · exact hstopped.checkD7
      · rename_i bytes rest _
        have hsent : Open ((s.sendFrame (.binary (bytes.take channelFrameMaxBytes))).1.shiftFrame
            bytes rest) := h.sendFrame _
        split
        · exact h.checkD7
        · dsimp only
          split_ifs
          · exact open_of_aborted ((h.sendFrame _).fail_aborted _)
          · exact open_of_aborted (hsent.fail_aborted _)
          · exact hsent.checkD7
          · exact ih hsent

theorem Open.pumpBrowserToNode (h : Open s) : Open (s.pumpBrowserToNode limits stalls) := by
  have hstarted : Open { s with browserPumpWaiting := true } := h
  rw [WebSocketFlow.pumpBrowserToNode]
  split_ifs
  · exact h
  · exact hstarted.pumpLoop _

theorem Open.queueToNode (h : Open s) (bytes : Buffer) :
    Open (s.queueToNode limits stalls bytes) := by
  have hcounted : Open
      { s with pendingBrowserToNodeBytes := s.pendingBrowserToNodeBytes + bytes.length } := h
  rw [WebSocketFlow.queueToNode]
  dsimp only
  split_ifs
  · exact open_of_aborted (hcounted.fail_aborted _)
  · refine Open.pumpBrowserToNode ?_
    exact h

/-- A head above the cap fails the flow. -/
theorem Open.queueToNode_overrun (h : Open s) {bytes : Buffer}
    (hover : limits.hardCapBytes < s.pendingBrowserToNodeBytes + bytes.length) :
    (s.queueToNode limits stalls bytes).aborted = true := by
  have hcounted : Open
      { s with pendingBrowserToNodeBytes := s.pendingBrowserToNodeBytes + bytes.length } := h
  rw [WebSocketFlow.queueToNode]
  dsimp only
  rw [if_pos hover]
  exact hcounted.fail_aborted _

theorem Open.sendHead (h : Open s) (head : Buffer) : Open (s.sendHead limits stalls head) := by
  have htracked : Open { s with trackRequest := true } := h
  rw [WebSocketFlow.sendHead]
  split_ifs
  · exact htracked.queueToNode head
  · exact htracked

theorem sendHead_unfounded (s : WebSocketFlow) (head : Buffer) :
    (s.sendHead limits stalls head).unfounded = s.unfounded := by
  rw [sendHead]
  split_ifs
  · rw [queueToNode_unfounded]
  · rfl

theorem Open.sendHead_overrun (h : Open s) {head : Buffer} (hhead : 0 < head.length)
    (hover : limits.hardCapBytes < s.pendingBrowserToNodeBytes + head.length) :
    (s.sendHead limits stalls head).aborted = true := by
  have htracked : Open { s with trackRequest := true } := h
  rw [WebSocketFlow.sendHead, if_pos hhead]
  exact htracked.queueToNode_overrun hover

/-- Send a message of the opening; the flow is failed when `write` returns false. -/
def sendOrFail (s : WebSocketFlow) (message : HubMessage) : WebSocketFlow :=
  if !(s.sendFrame message).2 then (s.sendFrame message).1.fail "channel-closed"
  else (s.sendFrame message).1

/-- On a channel that takes messages the failure is unfounded, whenever it comes. -/
theorem Open.sendOrFail_iff (h : Open s) (hunfounded : s.unfounded = false)
    (message : HubMessage) :
    (s.sendOrFail message).unfounded = false ↔ (s.aborted = false → s.Fits message) := by
  rw [sendOrFail]
  by_cases haborted : s.aborted = true
  · refine iff_of_true ?_ (fun hlive => absurd haborted (by simp [hlive]))
    split_ifs
    · rw [fail, if_pos (by simp [haborted]), sendFrame_unfounded, hunfounded]
    · rw [sendFrame_unfounded, hunfounded]
  · have hlive : s.aborted = false := by simpa using haborted
    obtain ⟨husable, -⟩ := h hlive
    have hsent := sendFrame_sent husable message
    by_cases hfits : s.Fits message
    · rw [if_neg (by simp [hsent.mpr hfits]), sendFrame_unfounded]
      exact iff_of_true hunfounded fun _ => hfits
    · rw [if_pos (by simp [mt hsent.mp hfits])]
      refine iff_of_false ?_ (fun hneeded => hfits (hneeded hlive))
      obtain ⟨husable', htear'⟩ := h.sendFrame message (by rw [sendFrame_aborted, hlive])
      rw [fail, if_neg (by simp [hlive, htear'])]
      simp [husable']

/-- A flow on a channel, before anything is sent. -/
def fresh (requestId : String) (channel : ChannelSocket) (channelClosed : Bool) :
    WebSocketFlow where
  requestId
  channel
  channelClosed

/-- What fails as `channel-closed` on a channel that takes messages are the `open` and the
`request-end` that fill its buffer up to the high-water mark, and nothing else. -/
theorem unfounded_iff (limits : Limits) (stalls : Stalls) (requestId text : String)
    (channel : ChannelSocket) (channelClosed : Bool) (head : Buffer)
    (events : List WebSocketEvent) :
    let s := fresh requestId channel channelClosed
    let opened := (s.sendFrame (.open text)).1.sendHead limits stalls head
    ((s.executeReverseWebSocket limits stalls text head).run limits events).unfounded = false ↔
      (s.usable = true → s.Fits (.open text) ∧
        (opened.aborted = false → opened.Fits (.requestEnd requestId))) := by
  intro s opened
  rw [run_unfounded, executeReverseWebSocket]
  dsimp only
  by_cases husable : s.usable = true
  · have hopen : Open s := fun _ => ⟨husable, rfl⟩
    have hsent := sendFrame_sent husable (.open text)
    by_cases hfits : s.Fits (.open text)
    · rw [if_neg (by simp [hsent.mpr hfits])]
      have hopened : Open opened := (hopen.sendFrame _).sendHead head
      have hunfounded : opened.unfounded = false := by
        rw [sendHead_unfounded, sendFrame_unfounded]
        rfl
      by_cases hover : 0 < head.length ∧
          limits.hardCapBytes < (s.sendFrame (.open text)).1.pendingBrowserToNodeBytes + head.length
      · rw [if_pos hover]
        have haborted : opened.aborted = true :=
          (hopen.sendFrame _).sendHead_overrun hover.1 hover.2
        refine iff_of_true hunfounded fun _ => ⟨hfits, fun hlive => ?_⟩
        simp [haborted] at hlive
      · rw [if_neg hover]
        have hend := hopened.sendOrFail_iff hunfounded (.requestEnd requestId)
        refine hend.trans ⟨fun hneeded _ => ⟨hfits, hneeded⟩, fun hall => ?_⟩
        exact (hall husable).2
    · rw [if_pos (by simp [mt hsent.mp hfits])]
      have hfail := (hopen.sendOrFail_iff rfl (.open text)).not.mpr fun hneeded =>
        hfits (hneeded rfl)
      rw [sendOrFail, if_pos (by simp [mt hsent.mp hfits])] at hfail
      exact iff_of_false hfail fun hall => hfits (hall husable).1
  · have hunsent : s.sendFrame (.open text) = (s, false) := by
      rw [sendFrame, if_pos (by simp [husable])]
    rw [hunsent, if_pos (by rfl), fail_unfounded _ (.inr (by simpa using husable))]
    exact iff_of_true rfl fun h => absurd h husable

/-- The `open` is written behind 16 KiB of earlier bytes; `write` returns false, and the flow and
its channel are given up. -/
theorem full_buffer_fails :
    let s := fresh "r" { highWaterMark := 16384, writableLength := 16384 } false
    let failed := s.executeReverseWebSocket {} {} "\x7b\"type\":\"open\"\x7d" []
    s.usable = true ∧ failed.unfounded = true ∧ failed.abortCode = some "channel-closed" ∧
      failed.channelClosed = true := by
  refine ⟨by decide, by decide, by decide, by decide⟩

end WebSocketFlow

end DshOrbit.ReverseHub
