import DshOrbit.ReverseHub.Session

/-!
# The pool of reverse data channels

The channel manager of the Hub (`registry/reverse-channel.mjs`): the data channels of
every node, the requests that claim an idle one, and the requests that wait for one.
A request runs on until it awaits a promise; what it does when the promise is settled
is an event of its own, and anything may come between.

## Main definitions

- `ReverseChannel`, `Waiter`, `Acquisition` — a channel, a queued promise, and a call
  of `acquireChannel`
- `registerChannel`, `claimIdleChannel`, `acquireChannel`, `markIdle`, `close` — the
  functions of that name
- `ChannelEvent`, `ReverseChannelManager.step` — what can happen, in any order
-/

namespace DshOrbit.ReverseHub

open DshOrbit.Lib

/-- Channels, waiters and requests by the order in which they came. -/
abbrev ChannelId := ℕ
abbrev WaiterId := ℕ
abbrev RequestId := ℕ

/-- The clock readings of one event, in order. -/
abbrev Readings := ℕ → ℤ

inductive ChannelState
  | idle
  | busy
  | closed
  deriving DecidableEq

structure ReverseChannel where
  nodeId : String
  keyId : String
  sessionId : SessionId
  state : ChannelState := .idle
  flow : Option RequestId := none
  closed : Bool := false
  deriving DecidableEq

/-- What stands for a channel that does not exist yet. -/
def ReverseChannel.absent : ReverseChannel :=
  { nodeId := "", keyId := "", sessionId := 0, state := .closed, closed := true }

/-- A channel that may be claimed for a session. -/
def ReverseChannel.available (channel : ReverseChannel) (sessionId : Option SessionId) : Bool :=
  !channel.closed ∧ channel.state = .idle ∧
    (sessionId = none ∨ sessionId = some channel.sessionId)

/-- Why a request gets no channel. -/
inductive AcquireError
  | capacity
  | browserAbort
  | sessionStale (message : String)
  deriving DecidableEq

/-- How the promise of a waiter is settled. -/
inductive Settlement
  | resolved
  | rejected (error : AcquireError)
  deriving DecidableEq

structure Waiter where
  nodeId : String
  sessionId : Option SessionId
  settled : Option Settlement := none
  deriving DecidableEq

/-- A waiter takes a channel of its own session, or of any if it has none. -/
def Waiter.takes (waiter : Waiter) (sessionId : SessionId) : Bool :=
  waiter.sessionId = none ∨ waiter.sessionId = some sessionId

inductive AcquirePhase
  | waiting (waiter : WaiterId)
  | claimed (channel : ChannelId)
  | failed (error : AcquireError)
  deriving DecidableEq

/-- A call of `acquireChannel`. -/
structure Acquisition where
  nodeId : String
  sessionId : Option SessionId
  startedAt : ℤ
  phase : AcquirePhase
  deriving DecidableEq

/-- The manager, with the flows that its channels serve. -/
structure ReverseChannelManager (Flows : Type*) where
  maxChannels : ℕ
  capacityWaitMs : ℤ
  channel : ChannelId → ReverseChannel
  channelCount : ℕ
  channels : String → List ChannelId
  waiter : WaiterId → Waiter
  waiterCount : ℕ
  idleWaiters : String → List WaiterId
  request : RequestId → Acquisition
  requestCount : ℕ
  flows : Flows

namespace ReverseChannelManager

variable {Flows : Type*} (closeFlow : Flows → RequestId → String → Flows)

/-- The manager of a Hub that has just started. -/
def initial (maxChannels : ℕ) (capacityWaitMs : ℤ) (flows : Flows) :
    ReverseChannelManager Flows where
  maxChannels
  capacityWaitMs
  channel _ := .absent
  channelCount := 0
  channels _ := []
  waiter _ := ⟨"", none, some .resolved⟩
  waiterCount := 0
  idleWaiters _ := []
  request _ := ⟨"", none, 0, .failed .capacity⟩
  requestCount := 0
  flows

/-! ### Waiters -/

/-- `settle` and `cancel`: the first of them settles the promise and removes the waiter. -/
def settle (m : ReverseChannelManager Flows) (w : WaiterId) (settlement : Settlement) :
    ReverseChannelManager Flows :=
  let waiter := m.waiter w
  if waiter.settled.isSome then m
  else
    { m with
      waiter := Function.update m.waiter w { waiter with settled := some settlement }
      idleWaiters := Function.update m.idleWaiters waiter.nodeId
        ((m.idleWaiters waiter.nodeId).filter (· ≠ w)) }

/-- `resolveIdleWaiters`: the first waiter that takes the channel. -/
def resolveIdleWaiters (m : ReverseChannelManager Flows) (nodeId : String)
    (sessionId : SessionId) : ReverseChannelManager Flows :=
  match (m.idleWaiters nodeId).find? fun w => (m.waiter w).takes sessionId with
  | none => m
  | some w => m.settle w .resolved

/-! ### One channel -/

def modifyChannel (m : ReverseChannelManager Flows) (c : ChannelId)
    (f : ReverseChannel → ReverseChannel) : ReverseChannelManager Flows :=
  { m with channel := Function.update m.channel c (f (m.channel c)) }

def markBusy (m : ReverseChannelManager Flows) (c : ChannelId) (flow : RequestId) :
    ReverseChannelManager Flows :=
  m.modifyChannel c fun channel => { channel with state := .busy, flow := some flow }

def markIdle (m : ReverseChannelManager Flows) (c : ChannelId) : ReverseChannelManager Flows :=
  let m := m.modifyChannel c fun channel => { channel with flow := none, state := .idle }
  m.resolveIdleWaiters (m.channel c).nodeId (m.channel c).sessionId

/-- `close` of a channel, with the callbacks of the flow it serves. -/
def close (m : ReverseChannelManager Flows) (c : ChannelId) (reason : String) :
    ReverseChannelManager Flows :=
  let channel := m.channel c
  if channel.closed then m
  else
    let flows :=
      match channel.flow with
      | none => m.flows
      | some flow => closeFlow m.flows flow reason
    let m := m.modifyChannel c fun channel =>
      { channel with closed := true, flow := none, state := .closed }
    { m with
      flows
      channels := Function.update m.channels channel.nodeId
        ((m.channels channel.nodeId).filter (· ≠ c)) }

/-! ### Registration -/

/-- A new channel, unless the pool of the node is full. -/
def registerChannel (m : ReverseChannelManager Flows) (nodeId keyId : String)
    (sessionId : SessionId) : ReverseChannelManager Flows :=
  if m.maxChannels ≤ (m.channels nodeId).length then m
  else
    let c := m.channelCount
    let m : ReverseChannelManager Flows :=
      { m with
        channel := Function.update m.channel c { nodeId, keyId, sessionId }
        channelCount := c + 1
        channels := Function.update m.channels nodeId (m.channels nodeId ++ [c]) }
    m.resolveIdleWaiters nodeId sessionId

def hasChannelForSession (m : ReverseChannelManager Flows) (nodeId : String)
    (sessionId : SessionId) : Bool :=
  (m.channels nodeId).any fun c => !(m.channel c).closed ∧ (m.channel c).sessionId = sessionId

/-! ### Claims -/

def claimIdleChannel (m : ReverseChannelManager Flows) (nodeId : String)
    (sessionId : Option SessionId) : Option (ChannelId × ReverseChannelManager Flows) :=
  match (m.channels nodeId).find? fun c => (m.channel c).available sessionId with
  | none => none
  | some c => some (c, m.modifyChannel c fun channel => { channel with state := .busy })

def setPhase (m : ReverseChannelManager Flows) (r : RequestId) (phase : AcquirePhase) :
    ReverseChannelManager Flows :=
  { m with request := Function.update m.request r { m.request r with phase } }

/-- The loop of `acquireChannel` from a failed claim on: queue a waiter while there is
time. -/
def wait (m : ReverseChannelManager Flows) (r : RequestId) (now : ℤ) :
    ReverseChannelManager Flows :=
  let request := m.request r
  if now - request.startedAt < m.capacityWaitMs then
    let w := m.waiterCount
    { m.setPhase r (.waiting w) with
      waiter := Function.update m.waiter w ⟨request.nodeId, request.sessionId, none⟩
      waiterCount := w + 1
      idleWaiters := Function.update m.idleWaiters request.nodeId
        (m.idleWaiters request.nodeId ++ [w]) }
  else m.setPhase r (.failed .capacity)

/-- Claim a channel for a request, or let it wait. -/
def claimOrWait (m : ReverseChannelManager Flows) (r : RequestId) (now : ℤ) :
    ReverseChannelManager Flows :=
  match m.claimIdleChannel (m.request r).nodeId (m.request r).sessionId with
  | some (c, m) => m.setPhase r (.claimed c)
  | none => m.wait r now

/-- A new call of `acquireChannel`, up to its first `await`. -/
def acquireChannel (m : ReverseChannelManager Flows) (nodeId : String)
    (sessionId : Option SessionId) (now : Readings) : ReverseChannelManager Flows :=
  let r := m.requestCount
  let m : ReverseChannelManager Flows :=
    { m with
      request := Function.update m.request r ⟨nodeId, sessionId, now 0, .failed .capacity⟩
      requestCount := r + 1 }
  m.claimOrWait r (now 1)

/-- What `acquireChannel` does when the promise of its waiter is settled. -/
def resume (m : ReverseChannelManager Flows) (r : RequestId) (now : Readings) :
    ReverseChannelManager Flows :=
  match (m.request r).phase with
  | .waiting w =>
    match (m.waiter w).settled with
    | none => m
    | some .resolved => m.claimOrWait r (now 0)
    | some (.rejected error) => m.setPhase r (.failed error)
  | _ => m

/-! ### Closing many channels -/

def closeEach (m : ReverseChannelManager Flows) (cs : List ChannelId) (reason : String) :
    ReverseChannelManager Flows :=
  cs.foldl (fun m c => m.close closeFlow c reason) m

def settleEach (m : ReverseChannelManager Flows) (ws : List WaiterId) (settlement : Settlement) :
    ReverseChannelManager Flows :=
  ws.foldl (fun m w => m.settle w settlement) m

def closeChannelsForNode (m : ReverseChannelManager Flows) (nodeId reason : String) :
    ReverseChannelManager Flows :=
  let m := m.closeEach closeFlow (m.channels nodeId) reason
  m.settleEach (m.idleWaiters nodeId) .resolved

/-- The pooled channels of a session, in the order in which they came. -/
def channelsOfSession (m : ReverseChannelManager Flows) (sessionId : SessionId) :
    List ChannelId :=
  (List.range m.channelCount).filter fun c =>
    c ∈ m.channels (m.channel c).nodeId ∧ (m.channel c).sessionId = sessionId

/-- The queued waiters of a session, in the order in which they came. -/
def waitersOfSession (m : ReverseChannelManager Flows) (sessionId : SessionId) :
    List WaiterId :=
  (List.range m.waiterCount).filter fun w =>
    w ∈ m.idleWaiters (m.waiter w).nodeId ∧ (m.waiter w).sessionId = some sessionId

def closeChannelsForSession (m : ReverseChannelManager Flows) (sessionId : SessionId)
    (reason : String) : ReverseChannelManager Flows :=
  let m := m.closeEach closeFlow (m.channelsOfSession sessionId) reason
  m.settleEach (m.waitersOfSession sessionId) (.rejected (.sessionStale reason))

def closeChannelsForCredential (m : ReverseChannelManager Flows) (nodeId keyId reason : String) :
    ReverseChannelManager Flows :=
  m.closeEach closeFlow ((m.channels nodeId).filter fun c => (m.channel c).keyId = keyId) reason

/-- No request has a settled promise to go on from. -/
def quiet (m : ReverseChannelManager Flows) : Bool :=
  (List.range m.requestCount).all fun r =>
    match (m.request r).phase with
    | .waiting w => (m.waiter w).settled = none
    | _ => true

end ReverseChannelManager

/-! ### Events -/

/-- What happens to the channels, apart from the calls of the server: a request goes on
when the promise of its waiter is settled; a waiter's time is up, or its browser gone; and
what the flows do with their channels, in whatever way they come to it. A channel is
returned to the pool only while it is open. -/
inductive ChannelEvent (Flows : Type*)
  | resume (r : RequestId) (now : Readings)
  | waiterTimeout (w : WaiterId)
  | waiterAbort (w : WaiterId)
  | markBusy (c : ChannelId) (flow : RequestId)
  | markIdle (c : ChannelId)
  | close (c : ChannelId) (reason : String)
  | flows (change : Flows → Flows)

namespace ReverseChannelManager

variable {Flows : Type*} (closeFlow : Flows → RequestId → String → Flows)

def step (m : ReverseChannelManager Flows) :
    ChannelEvent Flows → ReverseChannelManager Flows
  | .resume r now => m.resume r now
  | .waiterTimeout w => m.settle w .resolved
  | .waiterAbort w => m.settle w (.rejected .browserAbort)
  | .markBusy c flow => m.markBusy c flow
  | .markIdle c => if (m.channel c).closed then m else m.markIdle c
  | .close c reason => m.close closeFlow c reason
  | .flows change => { m with flows := change m.flows }

end ReverseChannelManager

end DshOrbit.ReverseHub
