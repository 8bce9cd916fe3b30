import DshOrbit.ReverseHub.Session

/-!
# What a reverse control session writes

One control session of the Hub with its socket (`ReverseSession` of `registry/reverse-session.mjs`).
The close frame goes through `sendFrame`, which writes nothing once the session is closed.

## Main definitions

- `SocketWrite`, `SessionSocket` — what is written and the socket that it is written to
- `WiredSession` — a session with its socket, and what the Hub owes the node by its own close
- `Announced` — a close by the Hub is announced by one frame

## Main results

- `unannounced_run` — no session ever writes a close frame, nor anything once it is closed
- `announced_iff` — a session is announced closed only where the Hub has not closed it
-/

namespace DshOrbit.ReverseHub

open DshOrbit.Lib DshOrbit.ReverseWs

/-! ### The socket -/

/-- What a session writes: its answer to the upgrade, or a frame. -/
inductive SocketWrite
  | switchingProtocols
  | frame (opcode : UInt8) (payload : Buffer)
  deriving DecidableEq

def SocketWrite.isClose : SocketWrite → Bool
  | switchingProtocols => false
  | frame opcode _ => opcode == opcodeClose

structure SessionSocket where
  written : List SocketWrite
  destroyed : Bool := false
  writable : Bool := true
  deriving DecidableEq

def closeNormal : ℕ := 1000
def closeAway : ℕ := 1001
def closeProtocol : ℕ := 1002
def closePolicy : ℕ := 1008

/-- The close frame of a code and a reason; the reasons of the Hub are ASCII texts. -/
def closeFrame (code : ℕ) (reason : String) : SocketWrite :=
  .frame opcodeClose (toBigEndian 2 code ++ (utf8Bytes reason).take (min reason.length 123))

/-! ### The session -/

structure WiredSession where
  state : SessionState := .pending
  routeReady : Bool := false
  superseded : Bool := false
  closed : Bool := false
  awaitingPong : Bool := false
  readyTimer : Bool := true
  parse : ParserState := .initial
  socket : SessionSocket
  /-- The frame by which the node would learn that the Hub closed the session. -/
  owed : Option SocketWrite := none

namespace WiredSession

def sendFrame (s : WiredSession) (opcode : UInt8) (payload : Buffer) : WiredSession :=
  if s.closed || s.socket.destroyed || !s.socket.writable then s
  else { s with socket.written := s.socket.written ++ [.frame opcode payload] }

/-- The constructor, with the `session` message that it sends. -/
def create (sessionMessage : Buffer) : WiredSession :=
  sendFrame { socket := { written := [.switchingProtocols] } } opcodeText sessionMessage

/-- What is owed where the Hub closes a session that it could still write to. -/
def owes (s : WiredSession) (code : ℕ) (reason : String) (fromPeer : Bool) : Option SocketWrite :=
  if !fromPeer && !s.socket.destroyed && s.socket.writable then some (closeFrame code reason)
  else none

def close (s : WiredSession) (code : ℕ) (reason : String) (fromPeer : Bool) : WiredSession :=
  if s.closed then s
  else
    let owed := s.owes code reason fromPeer
    let s := { s with closed := true, state := .closed, readyTimer := false, owed }
    let s :=
      if !fromPeer && !s.socket.destroyed then
        s.sendFrame opcodeClose
          (toBigEndian 2 code ++ (utf8Bytes reason).take (min reason.length 123))
      else s
    { s with socket.destroyed := true }

/-- `promote`, for the session that is promoted. -/
def promote (s : WiredSession) : WiredSession :=
  if s.closed || s.superseded then s else { s with readyTimer := false, state := .ready }

def onControlMessage (parseJson : Message → Option Json) (s : WiredSession) (message : Message) :
    WiredSession :=
  if s.closed || s.superseded then s
  else
    match readControl parseJson message with
    | .badJson => s.close closeProtocol "bad-json" false
    | .badMessage => s.close closeProtocol "bad-control-message" false
    | .ready protocol routeReady =>
      if s.state = .ready then s.close closeProtocol "duplicate-ready" false
      else if !protocol then s.close closePolicy "protocol-mismatch" false
      else { s with routeReady }.promote
    | .status routeReady =>
      if s.state ≠ .ready then s.close closeProtocol "status-before-ready" false
      else
        match routeReady with
        | none => s.close closeProtocol "bad-status" false
        | some routeReady => { s with routeReady }
    | .unknown => s.close closePolicy "unknown-control-type" false

def onParserEvent (parseJson : Message → Option Json) (s : WiredSession) :
    ParserEvent → WiredSession
  | .message message => s.onControlMessage parseJson message
  | .ping payload => s.sendFrame opcodePong payload
  | .pong _ => { s with awaitingPong := false }
  | .close _ => s.close closeNormal "node-close" true
  | .error _ => s.close closeProtocol "protocol-error" false

def feed (parseJson : Message → Option Json) (s : WiredSession) (chunk : Buffer) : WiredSession :=
  let (state, events) := (createFrameParser controlConfig).feed s.parse chunk
  events.foldl (onParserEvent parseJson) { s with parse := state }

end WiredSession

/-- What happens to a session: bytes of the node, the end of the connection, the timers, the calls
of the manager (a newer session of the node, a deleted node, a revoked credential, the shutdown),
and what becomes of the socket. -/
inductive WiredEvent
  | data (chunk : Buffer)
  | socketClosed (reason : String)
  | readyTimeout
  | pingTick
  | pongTimeout
  | superseded
  | hubClose (code : ℕ) (reason : String)
  | socketChanged (destroyed writable : Bool)

namespace WiredSession

def step (parseJson : Message → Option Json) (s : WiredSession) : WiredEvent → WiredSession
  | .data chunk => s.feed parseJson chunk
  | .socketClosed reason => s.close closeAway reason true
  | .readyTimeout => if s.readyTimer then s.close closePolicy "ready-timeout" false else s
  | .pingTick => if s.closed then s else { s with awaitingPong := true }.sendFrame opcodePing []
  | .pongTimeout =>
    if s.awaitingPong && !s.closed then s.close closeAway "pong-timeout" false else s
  | .superseded => { s with superseded := true }.close closeAway "superseded" false
  | .hubClose code reason => s.close code reason false
  | .socketChanged destroyed writable =>
    { s with socket.destroyed := s.socket.destroyed || destroyed,
             socket.writable := s.socket.writable && writable }

/-- The session after a list of events. -/
def run (parseJson : Message → Option Json) (sessionMessage : Buffer) (events : List WiredEvent) :
    WiredSession :=
  runFrom (step parseJson) (create sessionMessage) events

/-- The close frame that the Hub owes is the only one of the session and the last thing it
writes. -/
def Announced (s : WiredSession) : Prop :=
  ∀ frame, s.owed = some frame →
    s.socket.written.filter SocketWrite.isClose = [frame] ∧ s.socket.written.getLast? = some frame

/-! ### What each function writes -/

/-- What a function of the session does to its writes: it adds frames that are no close frames,
and none to a closed session. -/
structure Quiet (s s' : WiredSession) : Prop where
  closeFrames : s'.socket.written.filter SocketWrite.isClose =
    s.socket.written.filter SocketWrite.isClose
  closed : s.closed = true → s'.closed = true ∧ s'.socket.written = s.socket.written

theorem Quiet.refl (s : WiredSession) : Quiet s s := ⟨rfl, fun h => ⟨h, rfl⟩⟩

theorem Quiet.trans {s s' s'' : WiredSession} (h : Quiet s s') (h' : Quiet s' s'') :
    Quiet s s'' where
  closeFrames := h'.closeFrames.trans h.closeFrames
  closed hclosed := by
    obtain ⟨hclosed', hwritten⟩ := h.closed hclosed
    obtain ⟨hclosed'', hwritten'⟩ := h'.closed hclosed'
    exact ⟨hclosed'', hwritten'.trans hwritten⟩

variable {s : WiredSession}

theorem sendFrame_quiet {opcode : UInt8} (h : opcode ≠ opcodeClose) (s : WiredSession)
    (payload : Buffer) : Quiet s (s.sendFrame opcode payload) := by
  rw [sendFrame]
  split_ifs with hblocked
  · exact Quiet.refl s
  · constructor
    · have hframe : SocketWrite.isClose (.frame opcode payload) = false := beq_false_of_ne h
      rw [List.filter_append, List.filter_cons_of_neg (by rw [hframe]; exact Bool.false_ne_true),
        List.filter_nil, List.append_nil]
    · intro hclosed
      simp [hclosed] at hblocked

/-- A session that is closed writes nothing. -/
theorem sendFrame_of_closed (h : s.closed = true) (opcode : UInt8) (payload : Buffer) :
    s.sendFrame opcode payload = s := by
  rw [sendFrame, h]
  rfl

/-- `close` sets `closed` before it writes, so that its frame is not written. -/
theorem close_open (h : s.closed = false) (code : ℕ) (reason : String) (fromPeer : Bool) :
    s.close code reason fromPeer =
      { s with closed := true, state := .closed, readyTimer := false,
               owed := s.owes code reason fromPeer, socket.destroyed := true } := by
  rw [close, h, if_neg Bool.false_ne_true]
  dsimp only
  rw [sendFrame_of_closed rfl, ite_self]

theorem close_quiet (s : WiredSession) (code : ℕ) (reason : String) (fromPeer : Bool) :
    Quiet s (s.close code reason fromPeer) := by
  by_cases h : s.closed = true
  · rw [close, if_pos h]
    exact Quiet.refl s
  · rw [close_open (by simpa using h)]
    exact ⟨rfl, fun _ => ⟨rfl, rfl⟩⟩

theorem promote_quiet (s : WiredSession) : Quiet s s.promote := by
  rw [promote]
  split_ifs
  · exact Quiet.refl s
  · exact ⟨rfl, fun h => ⟨h, rfl⟩⟩

theorem onControlMessage_quiet (parseJson : Message → Option Json) (s : WiredSession)
    (message : Message) : Quiet s (s.onControlMessage parseJson message) := by
  rw [onControlMessage]
  by_cases hignored : (s.closed || s.superseded) = true
  · rw [if_pos hignored]
    exact Quiet.refl s
  rw [if_neg hignored]
  cases readControl parseJson message with
  | badJson => exact close_quiet s _ _ _
  | badMessage => exact close_quiet s _ _ _
  | ready protocol routeReady =>
    dsimp only
    split_ifs with hduplicate hprotocol
    · exact close_quiet s _ _ _
    · exact close_quiet s _ _ _
    · have hfield : Quiet s { s with routeReady } := ⟨rfl, fun h => ⟨h, rfl⟩⟩
      exact hfield.trans (promote_quiet _)
  | status routeReady =>
    dsimp only
    split_ifs with hearly
    · exact close_quiet s _ _ _
    · cases routeReady with
      | none => exact close_quiet s _ _ _
      | some routeReady => exact ⟨rfl, fun h => ⟨h, rfl⟩⟩
  | unknown => exact close_quiet s _ _ _

theorem onParserEvent_quiet (parseJson : Message → Option Json) (s : WiredSession)
    (event : ParserEvent) : Quiet s (s.onParserEvent parseJson event) := by
  cases event with
  | message message => exact onControlMessage_quiet parseJson s message
  | ping payload => exact sendFrame_quiet (by decide) s payload
  | pong _ => exact ⟨rfl, fun h => ⟨h, rfl⟩⟩
  | close _ => exact close_quiet s _ _ _
  | error _ => exact close_quiet s _ _ _

theorem feed_quiet (parseJson : Message → Option Json) (s : WiredSession) (chunk : Buffer) :
    Quiet s (s.feed parseJson chunk) := by
  rw [feed]
  generalize (createFrameParser controlConfig).feed s.parse chunk = fed
  obtain ⟨state, events⟩ := fed
  have hparse : Quiet s { s with parse := state } := ⟨rfl, fun h => ⟨h, rfl⟩⟩
  refine hparse.trans ?_
  show Quiet _ (events.foldl (onParserEvent parseJson) { s with parse := state })
  generalize { s with parse := state } = from_
  induction events generalizing from_ with
  | nil => exact Quiet.refl _
  | cons event rest ih => exact (onParserEvent_quiet parseJson _ event).trans (ih _)

/-- No event adds a close frame, and none adds a frame to a closed session. -/
theorem step_quiet (parseJson : Message → Option Json) (s : WiredSession) (event : WiredEvent) :
    Quiet s (s.step parseJson event) := by
  cases event with
  | data chunk => exact feed_quiet parseJson s chunk
  | socketClosed reason => exact close_quiet s _ _ _
  | readyTimeout =>
    rw [step]
    split_ifs
    · exact close_quiet s _ _ _
    · exact Quiet.refl s
  | pingTick =>
    rw [step]
    split_ifs
    · exact Quiet.refl s
    · have hfield : Quiet s { s with awaitingPong := true } := ⟨rfl, fun h => ⟨h, rfl⟩⟩
      exact hfield.trans (sendFrame_quiet (by decide) _ _)
  | pongTimeout =>
    rw [step]
    split_ifs
    · exact close_quiet s _ _ _
    · exact Quiet.refl s
  | superseded =>
    have hfield : Quiet s { s with superseded := true } := ⟨rfl, fun h => ⟨h, rfl⟩⟩
    exact hfield.trans (close_quiet _ _ _ _)
  | hubClose code reason => exact close_quiet s _ _ _
  | socketChanged destroyed writable => exact ⟨rfl, fun h => ⟨h, rfl⟩⟩

/-! ### Runs -/

theorem runFrom_quiet (parseJson : Message → Option Json) (s : WiredSession)
    (events : List WiredEvent) : Quiet s (runFrom (step parseJson) s events) := by
  induction events generalizing s with
  | nil => exact Quiet.refl s
  | cons event rest ih => exact (step_quiet parseJson s event).trans (ih _)

/-- No session ever writes a close frame, and none writes anything once it is closed. -/
theorem unannounced_run (parseJson : Message → Option Json) (sessionMessage : Buffer)
    (events later : List WiredEvent) :
    (run parseJson sessionMessage events).socket.written.filter SocketWrite.isClose = [] ∧
      ((run parseJson sessionMessage events).closed = true →
        (run parseJson sessionMessage (events ++ later)).socket.written =
          (run parseJson sessionMessage events).socket.written) := by
  constructor
  · have hcreate : (create sessionMessage).socket.written.filter SocketWrite.isClose = [] := rfl
    rw [run, (runFrom_quiet parseJson _ events).closeFrames, hcreate]
  · intro hclosed
    rw [run, runFrom_append]
    exact ((runFrom_quiet parseJson _ later).closed hclosed).2

/-- A session that the Hub has closed on a writable socket is never announced closed: the node is
told by no frame, whatever the reason. -/
theorem announced_iff (parseJson : Message → Option Json) (sessionMessage : Buffer)
    (events : List WiredEvent) :
    Announced (run parseJson sessionMessage events) ↔
      (run parseJson sessionMessage events).owed = none := by
  have hsilent := (unannounced_run parseJson sessionMessage events []).1
  constructor
  · intro hannounced
    by_contra hne
    obtain ⟨frame, howed⟩ := Option.ne_none_iff_exists'.mp hne
    have hframes := (hannounced frame howed).1
    rw [hsilent] at hframes
    cases hframes
  · intro hnone frame howed
    rw [hnone] at howed
    cases howed

/-- A revoked credential closes the session, and the socket is destroyed without the frame. -/
theorem revoked_unannounced :
    (run (fun _ => none) [] [.hubClose closeAway "credential-revoked"]).owed =
        some (closeFrame closeAway "credential-revoked") ∧
      (run (fun _ => none) [] [.hubClose closeAway "credential-revoked"]).socket =
        { written := [.switchingProtocols, .frame opcodeText []], destroyed := true } ∧
      ¬Announced (run (fun _ => none) [] [.hubClose closeAway "credential-revoked"]) := by
  have howed : (run (fun _ => none) [] [.hubClose closeAway "credential-revoked"]).owed =
      some (closeFrame closeAway "credential-revoked") := rfl
  refine ⟨howed, rfl, ?_⟩
  intro hannounced
  have hframes := (hannounced _ howed).1
  rw [(unannounced_run _ _ _ []).1] at hframes
  cases hframes

end WiredSession

end DshOrbit.ReverseHub
