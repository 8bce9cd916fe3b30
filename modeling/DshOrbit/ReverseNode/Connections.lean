import DshOrbit.ReverseNode.Client
import Mathlib.Data.List.Perm.Basic

/-!
# Connections of the reverse client

A `session` message belongs to the connection over which it came. The client says `ready`
over that connection, once, and gives that session to the channel pool, provided that the
connection is still there when the local DSH has answered.

## Main definitions

- `InOrder` — a step that finds the connection it belongs to
- `ConnectionRules`, `Spares` — what holds at any time, and of any step

## Main results

- `connection_rules`
-/

namespace DshOrbit.ReverseNode

open DshOrbit.Lib DshOrbit.ReverseWs DshOrbit.ReverseHub

/-! ### Chunks -/

/-- What a callback of the parser does: it announces a session, it ends the connection, or
neither. -/
inductive EventKind
  | session
  | lost
  | quiet
  deriving DecidableEq

def eventKind (parseJson : Message → Option Json) : ParserEvent → EventKind
  | .message message =>
    match readHubControl parseJson message with
    | .session _ => .session
    | _ => .lost
  | .ping _ => .quiet
  | .pong _ => .quiet
  | .close _ => .lost
  | .error _ => .lost

/-- At most one session is announced over the connection, and none behind its end. -/
def Tidy (parseJson : Message → Option Json) : Bool → List ParserEvent → Prop
  | _, [] => True
  | announced, event :: rest =>
    match eventKind parseJson event with
    | .session => announced = false ∧ Tidy parseJson true rest
    | .lost => ∀ event ∈ rest, eventKind parseJson event ≠ .session
    | .quiet => Tidy parseJson announced rest

namespace ReverseClient

/-- The frames that the parser completes when a chunk comes over the socket `i`. -/
def chunkEvents (readReply : Buffer → Option String) (s : ReverseClient) (i : SocketId)
    (chunk : Buffer) : List ParserEvent :=
  match s.parse with
  | some state => ((createFrameParser clientConfig).feed state chunk).2
  | none =>
    match splitHead (s.buffered i ++ chunk) with
    | none => []
    | some (head, rest) =>
      if readReply head = none ∨ readReply head ≠ s.expectedAccept then []
      else ((createFrameParser clientConfig).feed ParserState.initial rest).2

/-- The connection that the step belongs to is the one that the client has. -/
def InOrder (parseJson : Message → Option Json) (readReply : Buffer → Option String)
    (s : ReverseClient) : ClientEvent → Prop
  | .data i chunk =>
    if s.socket = some i then
      Tidy parseJson (decide (s.announced i ≠ [])) (s.chunkEvents readReply i chunk)
    else s.parse = none ∧ splitHead (s.buffered i ++ chunk) = none
  | .error i => s.socket = some i ∨ s.socket = none
  | .answer k _ =>
    ∀ i announcement, s.probes[k]? = some (.session i announcement) → s.socket = some i
  | _ => True

/-- How often the client said `ready` over the socket, and how many questions to the local
DSH on account of its sessions are not answered. -/
def readies (s : ReverseClient) (i : SocketId) : ℕ :=
  s.sent.countP fun entry => entry.socket = i && entry.message.isReady

def Probe.isFor (i : SocketId) : Probe → Bool
  | .session j _ => j = i
  | .status _ => false

def asked (s : ReverseClient) (i : SocketId) : ℕ := s.probes.countP (Probe.isFor i)

/-- The session id was announced over the socket. -/
def Announced (s : ReverseClient) (i : SocketId) (sessionId : Option String) : Prop :=
  ∃ announcement ∈ s.announced i, sessionId = announcement.reverseSessionId

/-- What holds of the connections at any time. -/
structure ConnectionRules (s : ReverseClient) : Prop where
  ready_once : ∀ i, s.readies i ≤ 1
  ready_session : ∀ entry ∈ s.sent, entry.message.isReady = true →
    s.Announced entry.socket entry.session
  pool : ∀ session, s.pool = some session →
    ∃ i, s.socket = some i ∧ s.Announced i session.sessionId
  given : ∀ entry ∈ s.given, ∃ i, entry.1 = some i ∧ s.Announced i entry.2
  timers : ∀ t i, s.timers t = some i → s.socket = some i

/-- An event of a socket that is not the live one leaves the live one as it is. -/
def Spares (parseJson : Message → Option Json) (readReply : Buffer → Option String)
    (s : ReverseClient) (event : ClientEvent) : Prop :=
  ∀ i, event.socket? = some i → s.socket ≠ some i →
    (s.step parseJson readReply event).socket = s.socket

/-- What every run in order keeps. -/
structure Connected (s : ReverseClient) : Prop extends ConnectionRules s where
  fresh : ∀ i, s.count ≤ i → s.announced i = []
  live : ∀ i, s.socket = some i → i < s.count
  unparsed : s.parse = none → ∀ i, s.socket = some i → s.announced i = []
  one : ∀ i, s.readies i + s.asked i ≤ (s.announced i).length ∧ (s.announced i).length ≤ 1
  session : ∀ i, s.socket = some i → ∀ announcement ∈ s.announced i,
    s.sessionId = announcement.reverseSessionId
  probes : ∀ i announcement, .session i announcement ∈ s.probes → announcement ∈ s.announced i
  timer : ∀ t i, s.timers t = some i →
    s.routeReadyTimer = some t ∧ s.announced i ≠ [] ∧ s.asked i = 0

variable {s s' : ReverseClient} {i : SocketId}

theorem connected_initial : Connected {} where
  ready_once i := by simp [readies]
  ready_session entry h := by cases h
  pool session h := by cases h
  given entry h := by cases h
  timers t i h := by cases h
  fresh i _ := rfl
  live i h := by cases h
  unparsed _ i h := by cases h
  one i := by simp [readies, asked]
  session i h := by cases h
  probes i announcement h := by cases h
  timer t i h := by cases h

/-- A change that no rule looks at. -/
structure Alike (s s' : ReverseClient) : Prop where
  socket : s'.socket = s.socket := by rfl
  parse : s'.parse = s.parse := by rfl
  sessionId : s'.sessionId = s.sessionId := by rfl
  count : s'.count = s.count := by rfl
  timers : s'.timers = s.timers := by rfl
  routeReadyTimer : s'.routeReadyTimer = s.routeReadyTimer := by rfl
  probes : s'.probes = s.probes := by rfl
  pool : s'.pool = s.pool := by rfl
  sent : s'.sent = s.sent := by rfl
  announced : s'.announced = s.announced := by rfl
  given : s'.given = s.given := by rfl

theorem Connected.alike (h : Connected s) (ha : Alike s s') : Connected s' := by
  obtain ⟨hsocket, hparse, hsessionId, hcount, htimers, hroute, hprobes, hpool, hsent, hannounced,
    hgiven⟩ := ha
  refine ⟨⟨?_, ?_, ?_, ?_, ?_⟩, ?_, ?_, ?_, ?_, ?_, ?_, ?_⟩
  · simpa only [readies, hsent] using h.ready_once
  · simpa only [Announced, hsent, hannounced] using h.ready_session
  · simpa only [Announced, hpool, hsocket, hannounced] using h.pool
  · simpa only [Announced, hgiven, hannounced] using h.given
  · simpa only [htimers, hsocket] using h.timers
  · simpa only [hcount, hannounced] using h.fresh
  · simpa only [hcount, hsocket] using h.live
  · simpa only [hparse, hsocket, hannounced] using h.unparsed
  · simpa only [readies, asked, hsent, hprobes, hannounced] using h.one
  · simpa only [hsocket, hannounced, hsessionId] using h.session
  · simpa only [hprobes, hannounced] using h.probes
  · simpa only [htimers, hroute, hannounced, asked, hprobes] using h.timer

theorem alike_scheduleReconnect (s : ReverseClient) : Alike s s.scheduleReconnect := by
  rw [scheduleReconnect]
  split_ifs
  · exact {}
  · exact {}

/-! ### The end of a connection -/

theorem sendFrame_cases (s : ReverseClient) (message : ClientMessage) :
    s.sendFrame message = s ∨ ∃ i, s.socket = some i ∧
      s.sendFrame message = { s with sent := s.sent ++ [⟨i, message, s.sessionId⟩] } := by
  rw [sendFrame]
  cases hsocket : s.socket with
  | none => exact .inl rfl
  | some i =>
    dsimp only
    split_ifs
    · exact .inl rfl
    · exact .inr ⟨i, rfl, rfl⟩

theorem Connected.sendFrame (h : Connected s) (message : ClientMessage)
    (hmessage : message.isReady = false) : Connected (s.sendFrame message) := by
  rcases sendFrame_cases s message with hsame | ⟨i, -, hsent⟩
  · rw [hsame]
    exact h
  · have hreadies (j : SocketId) : (s.sendFrame message).readies j = s.readies j := by
      simp [readies, hsent, List.countP_append, hmessage]
    rw [hsent] at hreadies ⊢
    refine ⟨⟨?_, ?_, h.pool, h.given, h.timers⟩, h.fresh, h.live, h.unparsed, ?_, h.session,
      h.probes, h.timer⟩
    · intro j
      rw [hreadies]
      exact h.ready_once j
    · intro entry hentry hready
      rcases List.mem_append.mp hentry with hold | hnew
      · exact h.ready_session entry hold hready
      · obtain rfl := List.mem_singleton.mp hnew
        simp [hmessage] at hready
    · intro j
      rw [hreadies]
      exact h.one j

/-- A client without a running interval, whose pool has no session. -/
theorem Connected.cut (h : Connected s)
    (hsocket : s'.socket = none ∨
      (s'.socket = s.socket ∧ s'.parse = s.parse ∧ s'.sessionId = s.sessionId))
    (hpool : s'.pool = none) (htimers : ∀ t, s'.timers t = none) (hcount : s'.count = s.count)
    (hprobes : s'.probes = s.probes) (hsent : s'.sent = s.sent)
    (hannounced : s'.announced = s.announced) (hgiven : s'.given = s.given) : Connected s' := by
  refine ⟨⟨?_, ?_, ?_, ?_, ?_⟩, ?_, ?_, ?_, ?_, ?_, ?_, ?_⟩
  · simpa only [readies, hsent] using h.ready_once
  · simpa only [Announced, hsent, hannounced] using h.ready_session
  · simp [hpool]
  · simpa only [Announced, hgiven, hannounced] using h.given
  · simp [htimers]
  · simpa only [hcount, hannounced] using h.fresh
  · rcases hsocket with hnone | ⟨hsocket, -, -⟩
    · simp [hnone]
    · simpa only [hsocket, hcount] using h.live
  · rcases hsocket with hnone | ⟨hsocket, hparse, -⟩
    · simp [hnone]
    · simpa only [hsocket, hparse, hannounced] using h.unparsed
  · simpa only [readies, asked, hsent, hprobes, hannounced] using h.one
  · rcases hsocket with hnone | ⟨hsocket, -, hsession⟩
    · simp [hnone]
    · simpa only [hsocket, hsession, hannounced] using h.session
  · simpa only [hprobes, hannounced] using h.probes
  · simp [htimers]

/-- The one interval that can be running is the one that the client knows of. -/
theorem Connected.timers_clear (h : Connected s) (hroute : s'.routeReadyTimer = s.routeReadyTimer)
    (htimers : s'.timers = s.timers) (t : TimerId) : s'.clearRouteReadyTimer.timers t = none := by
  rw [clearRouteReadyTimer]
  cases hold : s.timers t with
  | none =>
    rw [hroute]
    split
    · rw [htimers, hold]
    · dsimp only
      rw [Function.update_apply, htimers, hold, ite_self]
  | some i =>
    rw [hroute, (h.timer t i hold).1]
    simp

theorem clearRouteReadyTimer_eq (s : ReverseClient) :
    s.clearRouteReadyTimer =
      { s with routeReadyTimer := none, timers := s.clearRouteReadyTimer.timers } := by
  rw [clearRouteReadyTimer]
  cases hroute : s.routeReadyTimer with
  | none =>
    cases s
    cases hroute
    rfl
  | some t => rfl

theorem destroySocket_eq (s : ReverseClient) :
    s.destroySocket = { s with socket := none, destroyed := s.destroySocket.destroyed } := by
  rw [destroySocket]
  cases hsocket : s.socket with
  | none =>
    cases s
    cases hsocket
    rfl
  | some i => rfl

theorem Connected.onConnectionLost (h : Connected s) : Connected s.onConnectionLost := by
  rw [ReverseClient.onConnectionLost]
  refine Connected.alike ?_ (alike_scheduleReconnect _)
  rw [destroySocket_eq, clearRouteReadyTimer_eq]
  exact h.cut (.inl rfl) rfl (h.timers_clear rfl rfl) rfl rfl rfl rfl rfl

theorem socket_onConnectionLost (s : ReverseClient) : s.onConnectionLost.socket = none := by
  rw [ReverseClient.onConnectionLost, (alike_scheduleReconnect _).socket, destroySocket_eq]

/-- The close event of the live socket. -/
theorem Connected.closed (h : Connected s) (destroyed : SocketId → Bool) :
    Connected { s with socket := none, destroyed }.onConnectionLost := by
  rw [ReverseClient.onConnectionLost]
  refine Connected.alike ?_ (alike_scheduleReconnect _)
  rw [destroySocket_eq, clearRouteReadyTimer_eq]
  exact h.cut (.inl rfl) rfl (h.timers_clear rfl rfl) rfl rfl rfl rfl rfl

theorem pool_sendFrame (s : ReverseClient) (message : ClientMessage) :
    (s.sendFrame message).pool = s.pool ∧ (s.sendFrame message).timers = s.timers := by
  rcases sendFrame_cases s message with hsame | ⟨i, -, hsent⟩
  · rw [hsame]
    exact ⟨rfl, rfl⟩
  · rw [hsent]
    exact ⟨rfl, rfl⟩

theorem Connected.stop (h : Connected s) : Connected s.stop := by
  have htimers (t : TimerId) : { s with
      stopped := true, pool := none, reconnectTimer := false }.clearRouteReadyTimer.timers t = none := by
    refine h.timers_clear ?_ ?_ t
    · rfl
    · rfl
  have hquiet : Connected { s with
      stopped := true, pool := none, reconnectTimer := false }.clearRouteReadyTimer := by
    rw [clearRouteReadyTimer_eq]
    exact h.cut (.inr ⟨rfl, rfl, rfl⟩) rfl htimers rfl rfl rfl rfl rfl
  obtain ⟨hpool, hkept⟩ := pool_sendFrame ({ s with
    stopped := true, pool := none, reconnectTimer := false }.clearRouteReadyTimer)
      (.close 1000 "node-stop")
  rw [ReverseClient.stop, clearTimers, destroySocket_eq]
  refine (hquiet.sendFrame (.close 1000 "node-stop") rfl).cut (.inl rfl) ?_ ?_ rfl rfl rfl rfl rfl
  · refine hpool.trans ?_
    rw [clearRouteReadyTimer_eq]
  · intro t
    show (ReverseClient.sendFrame _ _).timers t = none
    rw [hkept]
    exact htimers t

/-! ### A new connection -/

theorem Connected.attemptConnect (h : Connected s) (attempt : Attempt) :
    Connected (s.attemptConnect attempt) := by
  unfold ReverseClient.attemptConnect
  split_ifs with hbusy
  · exact h
  cases attempt with
  | noCredentials => exact h.alike (alike_scheduleReconnect s)
  | insecure => exact h
  | connect =>
    have hnone : s.socket = none := by
      simp only [Bool.or_eq_true, not_or, Option.isSome_iff_ne_none] at hbusy
      exact not_not.mp hbusy.2
    have hfresh := h.fresh s.count le_rfl
    have htimers (t : TimerId) : s.timers t = none := by
      cases htimer : s.timers t with
      | none => rfl
      | some i =>
        have hlive := h.timers t i htimer
        simp [hnone] at hlive
    have hpool : s.pool = none := by
      cases hpool : s.pool with
      | none => rfl
      | some session =>
        obtain ⟨i, hlive, -⟩ := h.pool session hpool
        simp [hnone] at hlive
    refine ⟨⟨h.ready_once, h.ready_session, ?_, h.given, ?_⟩, ?_, ?_, ?_, h.one, ?_, h.probes, ?_⟩
    · simp [hpool]
    · simp [htimers]
    · exact fun i hi => h.fresh i (Nat.le_of_succ_le hi)
    · rintro i ⟨⟩
      exact Nat.lt_succ_self s.count
    · rintro - i ⟨⟩
      exact hfresh
    · rintro i ⟨⟩ announcement hmem
      rw [show (_ : List Announcement) = [] from hfresh] at hmem
      cases hmem
    · simp [htimers]

/-- The upgrade is denied before any session was announced. -/
theorem Connected.denied (h : Connected s) (hparse : s.parse = none) :
    Connected s.destroySocket.scheduleReconnect := by
  refine Connected.alike ?_ (alike_scheduleReconnect _)
  rw [destroySocket_eq]
  refine h.cut (.inl rfl) ?_ ?_ rfl rfl rfl rfl rfl
  · show s.pool = none
    cases hpool : s.pool with
    | none => rfl
    | some session =>
      obtain ⟨i, hlive, announcement, hmem, -⟩ := h.pool session hpool
      rw [h.unparsed hparse i hlive] at hmem
      cases hmem
  · intro t
    show s.timers t = none
    cases htimer : s.timers t with
    | none => rfl
    | some i =>
      have hlive := h.timers t i htimer
      exact absurd (h.unparsed hparse i hlive) (h.timer t i htimer).2.1

/-! ### Messages of the Hub -/

variable {parseJson : Message → Option Json} {readReply : Buffer → Option String}

/-- The first session that is announced over the live connection. -/
theorem Connected.session_message (h : Connected s) (hlive : s.socket = some i)
    (hparse : s.parse ≠ none) (hfirst : s.announced i = []) (announcement : Announcement) :
    Connected
      { s with
        sessionId := announcement.reverseSessionId
        probes := s.probes ++ [.session i announcement]
        announced := Function.update s.announced i (s.announced i ++ [announcement]) } := by
  have hgrows (j : SocketId) : s.announced j ⊆
      Function.update s.announced i (s.announced i ++ [announcement]) j := by
    by_cases hj : j = i
    · subst hj
      simp
    · simp [hj]
  have htimers (t : TimerId) : s.timers t = none := by
    cases htimer : s.timers t with
    | none => rfl
    | some j =>
      obtain rfl : i = j := Option.some.inj (hlive.symm.trans (h.timers t j htimer))
      exact absurd hfirst (h.timer t i htimer).2.1
  have hnone : ∀ sessionId, ¬ s.Announced i sessionId := by
    rintro sessionId ⟨found, hmem, -⟩
    rw [hfirst] at hmem
    cases hmem
  refine ⟨⟨h.ready_once, ?_, ?_, ?_, ?_⟩, ?_, h.live, ?_, ?_, ?_, ?_, ?_⟩
  · intro entry hentry hready
    obtain ⟨found, hmem, hsame⟩ := h.ready_session entry hentry hready
    exact ⟨found, hgrows _ hmem, hsame⟩
  · intro session hsession
    obtain ⟨j, hj, hannounced⟩ := h.pool session hsession
    obtain rfl : i = j := Option.some.inj (hlive.symm.trans hj)
    exact absurd hannounced (hnone _)
  · intro entry hentry
    obtain ⟨j, hj, found, hmem, hsame⟩ := h.given entry hentry
    exact ⟨j, hj, found, hgrows _ hmem, hsame⟩
  · simp [htimers]
  · intro j hj
    have hne : j ≠ i := by
      rintro rfl
      exact absurd (h.live j hlive) (not_lt.mpr hj)
    simpa [hne] using h.fresh j hj
  · exact fun hnot => absurd hnot hparse
  · intro j
    have hone := h.one j
    by_cases hj : j = i
    · subst hj
      rw [hfirst, List.length_nil] at hone
      have hlength : (Function.update s.announced j (s.announced j ++ [announcement]) j).length = 1 := by
        simp [hfirst]
      show s.readies j + (s.probes ++ [Probe.session j announcement]).countP (Probe.isFor j) ≤
        (Function.update s.announced j (s.announced j ++ [announcement]) j).length ∧
          (Function.update s.announced j (s.announced j ++ [announcement]) j).length ≤ 1
      have hasked : s.probes.countP (Probe.isFor j) = 0 := Nat.le_zero.mp (by
        have hsum := hone.1
        rw [asked] at hsum
        omega)
      rw [List.countP_append, hasked, List.countP_singleton, hlength]
      split_ifs
      · omega
      · omega
    · have hother : Probe.isFor j (.session i announcement) = false := by
        simp [Probe.isFor, Ne.symm hj]
      simpa [asked, readies, List.countP_append, hother, hj] using hone
  · intro j hj found hmem
    obtain rfl : i = j := Option.some.inj (hlive.symm.trans hj)
    simp only [Function.update_self, hfirst, List.nil_append, List.mem_singleton] at hmem
    rw [hmem]
  · intro j found hmem
    rcases List.mem_append.mp hmem with hold | hnew
    · exact hgrows j (h.probes j found hold)
    · obtain ⟨rfl, rfl⟩ : j = i ∧ found = announcement := by simpa using hnew
      simp
  · simp [htimers]

theorem Connected.onParserEvent_quiet (h : Connected s) {event : ParserEvent}
    (hkind : eventKind parseJson event ≠ .session) :
    Connected (s.onParserEvent parseJson i event) := by
  cases event with
  | message message =>
    show Connected (s.onControlMessage parseJson i message)
    rw [onControlMessage]
    rw [eventKind] at hkind
    cases hread : readHubControl parseJson message with
    | malformed => exact h.onConnectionLost
    | protocolMismatch => exact (h.sendFrame (.close 1008 "protocol-mismatch") rfl).onConnectionLost
    | session announcement => simp [hread] at hkind
    | unknown => exact (h.sendFrame (.close 1008 "unknown-control-type") rfl).onConnectionLost
  | ping payload => exact h.sendFrame (.pong payload) rfl
  | pong payload => exact h
  | close code => exact h.onConnectionLost
  | error message => exact h.onConnectionLost

theorem Connected.foldl_quiet (h : Connected s) {events : List ParserEvent}
    (hkinds : ∀ event ∈ events, eventKind parseJson event ≠ .session) :
    Connected (events.foldl (ReverseClient.onParserEvent parseJson i) s) := by
  induction events generalizing s with
  | nil => exact h
  | cons event rest ih =>
    refine ih (h.onParserEvent_quiet (hkinds event List.mem_cons_self)) fun other hother => ?_
    exact hkinds other (List.mem_cons_of_mem event hother)

/-- The frames of one chunk, one after the other. -/
theorem Connected.foldl_tidy (h : Connected s) (hlive : s.socket = some i)
    (hparse : s.parse ≠ none) {announced : Bool} (hfirst : announced = decide (s.announced i ≠ []))
    {events : List ParserEvent} (htidy : Tidy parseJson announced events) :
    Connected (events.foldl (ReverseClient.onParserEvent parseJson i) s) := by
  induction events generalizing s announced with
  | nil => exact h
  | cons event rest ih =>
    rw [Tidy] at htidy
    rw [List.foldl_cons]
    cases hkind : eventKind parseJson event with
    | session =>
      rw [hkind] at htidy
      obtain ⟨hnone, hrest⟩ := htidy
      rw [hfirst, decide_eq_false_iff_not, not_not] at hnone
      cases event with
      | message message =>
        rw [eventKind] at hkind
        cases hread : readHubControl parseJson message with
        | session announcement =>
          show Connected (rest.foldl _ (s.onControlMessage parseJson i message))
          rw [onControlMessage, hread]
          refine ih (h.session_message hlive hparse hnone announcement) hlive hparse ?_ hrest
          simp
        | malformed => simp [hread] at hkind
        | protocolMismatch => simp [hread] at hkind
        | unknown => simp [hread] at hkind
      | ping payload => simp [eventKind] at hkind
      | pong payload => simp [eventKind] at hkind
      | close code => simp [eventKind] at hkind
      | error message => simp [eventKind] at hkind
    | lost =>
      rw [hkind] at htidy
      refine (h.onParserEvent_quiet ?_).foldl_quiet htidy
      rw [hkind]
      decide
    | quiet =>
      rw [hkind] at htidy
      cases event with
      | message message =>
        rw [eventKind] at hkind
        cases hread : readHubControl parseJson message <;> simp [hread] at hkind
      | ping payload =>
        have hsent := h.sendFrame (.pong payload) rfl
        show Connected (rest.foldl _ (s.sendFrame (.pong payload)))
        rcases sendFrame_cases s (.pong payload) with hsame | ⟨j, -, hnew⟩
        · rw [hsame]
          exact ih h hlive hparse hfirst htidy
        · rw [hnew] at hsent ⊢
          exact ih hsent hlive hparse hfirst htidy
      | pong payload => exact ih h hlive hparse hfirst htidy
      | close code => simp [eventKind] at hkind
      | error message => simp [eventKind] at hkind

theorem Connected.parsing (h : Connected s) (state : ParserState) :
    Connected { s with parse := some state } :=
  ⟨⟨h.ready_once, h.ready_session, h.pool, h.given, h.timers⟩, h.fresh, h.live, by simp, h.one,
    h.session, h.probes, h.timer⟩

theorem Connected.runParser (h : Connected s) (hlive : s.socket = some i) (state : ParserState)
    (chunk : Buffer)
    (htidy : Tidy parseJson (decide (s.announced i ≠ []))
      ((createFrameParser clientConfig).feed state chunk).2) :
    Connected (s.runParser parseJson i state chunk) := by
  exact (h.parsing ((createFrameParser clientConfig).feed state chunk).1).foldl_tidy hlive
    (by simp) rfl htidy

theorem Connected.onData (h : Connected s) (hlive : s.socket = some i) (chunk : Buffer)
    (htidy : Tidy parseJson (decide (s.announced i ≠ [])) (s.chunkEvents readReply i chunk)) :
    Connected (s.onData parseJson readReply i chunk) := by
  rw [ReverseClient.onData]
  rw [chunkEvents] at htidy
  cases hparse : s.parse with
  | some state =>
    rw [hparse] at htidy
    exact h.runParser hlive state chunk htidy
  | none =>
    rw [hparse] at htidy
    have hbuffered : Connected
        { s with buffered := Function.update s.buffered i (s.buffered i ++ chunk) } := h.alike {}
    rw [hparse] at hbuffered
    dsimp only
    rw [Function.update_self]
    cases hsplit : splitHead (s.buffered i ++ chunk) with
    | none => exact hbuffered
    | some found =>
      obtain ⟨head, rest⟩ := found
      simp only [hsplit] at htidy
      dsimp only
      rw [onHandshakeResponse]
      split_ifs with hdenied hrest
      · exact hbuffered.denied rfl
      · rw [if_neg hdenied] at htidy
        exact (hbuffered.parsing .initial).runParser hlive .initial rest htidy
      · exact hbuffered.parsing .initial

/-! ### Answers of the local DSH -/

theorem countP_eraseIdx {probes : List Probe} {k : ℕ} {probe : Probe} (h : probes[k]? = some probe)
    (p : Probe → Bool) :
    probes.countP p = (probes.eraseIdx k).countP p + if p probe then 1 else 0 := by
  obtain ⟨hk, rfl⟩ := List.getElem?_eq_some_iff.mp h
  rw [← (List.getElem_cons_eraseIdx_perm hk).countP_eq p, List.countP_cons]

/-- A question that is answered without anything being done on account of it. -/
theorem Connected.answered (h : Connected s) (k : ℕ) :
    Connected { s with probes := s.probes.eraseIdx k } := by
  have hasked (j : SocketId) : (s.probes.eraseIdx k).countP (Probe.isFor j) ≤ s.asked j :=
    (List.eraseIdx_sublist s.probes k).countP_le
  refine ⟨⟨h.ready_once, h.ready_session, h.pool, h.given, h.timers⟩, h.fresh, h.live, h.unparsed,
    ?_, h.session, ?_, ?_⟩
  · intro j
    exact ⟨(Nat.add_le_add_left (hasked j) _).trans (h.one j).1, (h.one j).2⟩
  · exact fun j announcement hmem => h.probes j announcement (List.mem_of_mem_eraseIdx hmem)
  · intro t j htimer
    obtain ⟨hroute, hannounced, hnone⟩ := h.timer t j htimer
    exact ⟨hroute, hannounced, Nat.le_zero.mp ((hasked j).trans hnone.le)⟩

/-- The first `ready` over the connection and the interval that goes with it. -/
theorem Connected.begin_session (h : Connected s) (hlive : s.socket = some i) {k : ℕ}
    {announcement : Announcement} (hprobe : s.probes[k]? = some (.session i announcement))
    {ready : Bool} {sent : List Sent}
    (hsent : sent = s.sent ∨ sent = s.sent ++ [⟨i, .ready ready, s.sessionId⟩]) :
    Connected
      { s with
        probes := s.probes.eraseIdx k, sent, currentRouteReady := ready
        lastReportedRouteReady := some ready, backoffAttempt := 0
        pool := some ⟨s.sessionId, announcement.idleTarget, announcement.maxChannels⟩
        given := s.given ++ [(s.socket, s.sessionId)], routeReadyTimer := some s.timerCount
        timers := Function.update s.timers s.timerCount (some i)
        timerCount := s.timerCount + 1 } := by
  have hmem := h.probes i announcement (List.mem_of_getElem? hprobe)
  have hannounced : s.Announced i s.sessionId :=
    ⟨announcement, hmem, h.session i hlive announcement hmem⟩
  have hcount (j : SocketId) : s.asked j = (s.probes.eraseIdx k).countP (Probe.isFor j) +
      if decide (i = j) then 1 else 0 := countP_eraseIdx hprobe (Probe.isFor j)
  have hself : s.asked i = (s.probes.eraseIdx k).countP (Probe.isFor i) + 1 := by
    rw [hcount, if_pos (by simp)]
  have hone := h.one i
  have htimers (t : TimerId) : s.timers t = none := by
    cases htimer : s.timers t with
    | none => rfl
    | some j =>
      obtain rfl : i = j := Option.some.inj (hlive.symm.trans (h.timers t j htimer))
      have hnone := (h.timer t i htimer).2.2
      omega
  have htimer (t : TimerId) (j : SocketId)
      (ht : Function.update s.timers s.timerCount (some i) t = some j) :
      t = s.timerCount ∧ j = i := by
    by_cases hnew : t = s.timerCount
    · subst hnew
      rw [Function.update_self] at ht
      exact ⟨rfl, (Option.some.inj ht).symm⟩
    · rw [Function.update_of_ne hnew, htimers t] at ht
      cases ht
  have hreadies (j : SocketId) : sent.countP (fun entry => entry.socket = j &&
      entry.message.isReady) + (s.probes.eraseIdx k).countP (Probe.isFor j) ≤
      (s.announced j).length := by
    have hold := (h.one j).1
    rw [hcount j, readies] at hold
    rcases hsent with rfl | rfl
    · omega
    · have hnew : (decide (i = j) && (ClientMessage.ready ready).isReady) = decide (i = j) :=
        Bool.and_true _
      rw [List.countP_append, List.countP_singleton]
      dsimp only
      rw [hnew]
      omega
  refine ⟨⟨?_, ?_, ?_, ?_, ?_⟩, h.fresh, h.live, h.unparsed, ?_, h.session, ?_, ?_⟩
  · intro j
    exact (Nat.le_of_add_right_le (hreadies j)).trans (h.one j).2
  · intro entry hentry hready
    rcases hsent with rfl | rfl
    · exact h.ready_session entry hentry hready
    · rcases List.mem_append.mp hentry with hold | hnew
      · exact h.ready_session entry hold hready
      · obtain rfl := List.mem_singleton.mp hnew
        exact hannounced
  · rintro session ⟨⟩
    exact ⟨i, hlive, hannounced⟩
  · intro entry hentry
    rcases List.mem_append.mp hentry with hold | hnew
    · exact h.given entry hold
    · obtain rfl := List.mem_singleton.mp hnew
      exact ⟨i, hlive, hannounced⟩
  · intro t j ht
    obtain ⟨-, rfl⟩ := htimer t j ht
    exact hlive
  · exact fun j => ⟨hreadies j, (h.one j).2⟩
  · exact fun j found hfound => h.probes j found (List.mem_of_mem_eraseIdx hfound)
  · intro t j ht
    obtain ⟨rfl, rfl⟩ := htimer t j ht
    refine ⟨rfl, List.ne_nil_of_mem hmem, ?_⟩
    show (s.probes.eraseIdx k).countP (Probe.isFor j) = 0
    omega

/-- The connection is still there when the local DSH has answered. -/
theorem Connected.resume_session (h : Connected s) (hlive : s.socket = some i) {k : ℕ}
    {announcement : Announcement} (hprobe : s.probes[k]? = some (.session i announcement))
    (ready : Bool) :
    Connected ({ s with probes := s.probes.eraseIdx k }.resume (.session i announcement) ready) := by
  rw [resume]
  rcases sendFrame_cases { s with
    probes := s.probes.eraseIdx k, currentRouteReady := ready
    lastReportedRouteReady := some ready } (.ready ready) with hsame | ⟨j, hj, hsent⟩
  · rw [hsame]
    exact h.begin_session hlive hprobe (.inl rfl)
  · obtain rfl : i = j := Option.some.inj (hlive.symm.trans hj)
    rw [hsent]
    exact h.begin_session hlive hprobe (.inr rfl)

/-- A tick of the interval that watches the readiness. -/
theorem Connected.ticked (h : Connected s) (t : TimerId) :
    Connected { s with probes := s.probes ++ [.status t] } := by
  have hasked (j : SocketId) : (s.probes ++ [Probe.status t]).countP (Probe.isFor j) = s.asked j := by
    rw [List.countP_append, List.countP_singleton, asked]
    simp [Probe.isFor]
  refine ⟨⟨h.ready_once, h.ready_session, h.pool, h.given, h.timers⟩, h.fresh, h.live, h.unparsed,
    ?_, h.session, ?_, ?_⟩
  · intro j
    show s.readies j + _ ≤ _ ∧ _
    rw [asked, hasked]
    exact h.one j
  · intro j found hmem
    rcases List.mem_append.mp hmem with hold | hnew
    · exact h.probes j found hold
    · simp at hnew
  · intro u j htimer
    rw [asked, hasked]
    exact h.timer u j htimer

/-! ### Steps -/

/-- Bytes that an old socket delivers before its response head is complete. -/
theorem onData_incomplete (hparse : s.parse = none) {chunk : Buffer}
    (hsplit : splitHead (s.buffered i ++ chunk) = none) :
    s.onData parseJson readReply i chunk =
      { s with buffered := Function.update s.buffered i (s.buffered i ++ chunk) } := by
  simp [ReverseClient.onData, hparse, hsplit]

theorem Connected.step (h : Connected s) {event : ClientEvent}
    (horder : s.InOrder parseJson readReply event) :
    Connected (s.step parseJson readReply event) := by
  cases event with
  | start attempt =>
    rw [ReverseClient.step]
    split_ifs
    · exact Connected.attemptConnect (h.alike {}) attempt
    · exact h
  | stop => exact h.stop
  | reconnect attempt =>
    rw [ReverseClient.step]
    split_ifs
    · exact Connected.attemptConnect (h.alike {}) attempt
    · exact h
  | connected i accept =>
    rw [ReverseClient.step]
    split_ifs
    · exact h.alike {}
    · exact h
  | data i chunk =>
    rw [ReverseClient.step]
    split_ifs
    · by_cases hlive : s.socket = some i
      · rw [InOrder, if_pos hlive] at horder
        exact h.onData hlive chunk horder
      · rw [InOrder, if_neg hlive] at horder
        rw [onData_incomplete horder.1 horder.2]
        exact h.alike {}
    · exact h
  | down i =>
    rw [ReverseClient.step]
    split_ifs
    · exact h.alike {}
    · exact h
  | error i =>
    rw [ReverseClient.step]
    split_ifs
    · exact Connected.onConnectionLost (h.alike {})
    · exact h
  | close i =>
    rw [ReverseClient.step]
    split_ifs
    · exact h.closed _
    · exact h
  | answer k ready =>
    rw [ReverseClient.step]
    cases hprobe : s.probes[k]? with
    | none => exact h
    | some probe =>
      cases probe with
      | session i announcement =>
        exact h.resume_session (horder i announcement hprobe) hprobe ready
      | status t =>
        dsimp only
        rw [resume]
        split_ifs
        · exact Connected.sendFrame ((h.answered k).alike {}) (.status ready) rfl
        · exact h.answered k
  | tick t =>
    rw [ReverseClient.step]
    cases s.timers t with
    | none => exact h
    | some i => exact h.ticked t

theorem spares_of_inOrder {event : ClientEvent}
    (horder : s.InOrder parseJson readReply event) : Spares parseJson readReply s event := by
  intro i hsocket hold
  cases event with
  | start attempt => cases hsocket
  | stop => cases hsocket
  | reconnect attempt => cases hsocket
  | connected j accept =>
    rw [ReverseClient.step]
    split_ifs <;> rfl
  | data j chunk =>
    obtain rfl : j = i := by simpa [ClientEvent.socket?] using hsocket
    rw [InOrder, if_neg hold] at horder
    rw [ReverseClient.step, onData_incomplete horder.1 horder.2]
    split_ifs <;> rfl
  | down j =>
    rw [ReverseClient.step]
    split_ifs <;> rfl
  | error j =>
    obtain rfl : j = i := by simpa [ClientEvent.socket?] using hsocket
    have hnone := horder.resolve_left hold
    rw [ReverseClient.step]
    split_ifs
    · rw [socket_onConnectionLost, hnone]
    · rfl
  | close j =>
    obtain rfl : j = i := by simpa [ClientEvent.socket?] using hsocket
    rw [ReverseClient.step, if_neg hold]
  | answer k ready => cases hsocket
  | tick t => cases hsocket

end ReverseClient

open ReverseClient

/-- In every run whose steps are all in order, the sessions, the pool and the interval are
those of the live connection, and an event of an old socket leaves the live one as it is. -/
theorem connection_rules (parseJson : Message → Option Json) (readReply : Buffer → Option String)
    (events : List ClientEvent)
    (h : EachStep (step parseJson readReply) (InOrder parseJson readReply) {} events) :
    ConnectionRules (run parseJson readReply events) ∧
      EachStep (step parseJson readReply) (Spares parseJson readReply) {} events := by
  have hstep (s : ReverseClient) (event : ClientEvent) (hs : Connected s)
      (horder : s.InOrder parseJson readReply event) :
      Connected (s.step parseJson readReply event) := hs.step horder
  refine ⟨(runFrom_invariant hstep connected_initial h).toConnectionRules, ?_⟩
  exact EachStep.of_invariant hstep (fun s event _ horder => spares_of_inOrder horder) connected_initial h

/-! ### A connection that is lost while the local DSH is asked -/

def replyHead : String := "HTTP/1.1 101 Ok\r\nsec-websocket-accept: k"

def sessionText : String :=
  "\x7b\"type\":\"session\",\"protocol\":\"orbit-reverse-v1\"\x7d"

/-- `JSON.parse` of the sample message. -/
def sessionJson : Message → Option Json
  | .text text =>
    if text = sessionText then
      some (.obj [("type", .str "session"), ("protocol", .str reverseProtocol)])
    else none
  | .binary _ => none

/-- The accept value of the sample response. -/
def sampleReply (head : Buffer) : Option String :=
  if head = utf8Bytes replyHead then some "k" else none

/-- The client connects. -/
def connectedEvents : List ClientEvent :=
  [.start .connect, .connected 0 "k", .data 0 (utf8Bytes replyHead ++ [13, 10, 13, 10])]

/-- A session is announced to it. -/
def announcedEvents : List ClientEvent :=
  connectedEvents ++ [.data 0 ([0x81, 0x30] ++ utf8Bytes sessionText)]

theorem inOrder_data {s : ReverseClient} {i : SocketId} {chunk : Buffer}
    {events : List ParserEvent} (hlive : s.socket = some i)
    (hevents : chunkEvents sampleReply s i chunk = events)
    (htidy : Tidy sessionJson (decide (s.announced i ≠ [])) events) :
    s.InOrder sessionJson sampleReply (.data i chunk) := by
  rw [InOrder, if_pos hlive, hevents]
  exact htidy

/-- The local DSH answers while the connection is there. -/
theorem connection_rules_answered :
    let s := run sessionJson sampleReply (announcedEvents ++ [.answer 0 true])
    ConnectionRules s ∧ s.sent = [⟨0, .ready true, none⟩] := by
  intro s
  refine ⟨(connection_rules sessionJson sampleReply _ ?_).1, by decide⟩
  have hreply : chunkEvents sampleReply
      (run sessionJson sampleReply [.start .connect, .connected 0 "k"]) 0
      (utf8Bytes replyHead ++ [13, 10, 13, 10]) = [] := by
    decide
  have hconnected : let s := run sessionJson sampleReply connectedEvents
      s.socket = some 0 ∧ s.announced 0 = [] ∧ chunkEvents sampleReply s 0
        ([0x81, 0x30] ++ utf8Bytes sessionText) = [.message (.text sessionText)] := by
    refine ⟨by decide, rfl, by decide +kernel⟩
  have hannounced : let s := run sessionJson sampleReply announcedEvents
      s.socket = some 0 ∧ s.probes.all (Probe.isFor 0) = true := by
    decide
  refine eachStep_append.mpr ⟨eachStep_append.mpr ⟨?_, ?_, trivial⟩, ?_, trivial⟩
  · exact ⟨trivial, trivial, inOrder_data rfl hreply trivial, trivial⟩
  · refine inOrder_data hconnected.1 hconnected.2.2 ?_
    have hnone : decide ((run sessionJson sampleReply connectedEvents).announced 0 ≠ []) = false := by
      simp [hconnected.2.1]
    show Tidy sessionJson
      (decide ((run sessionJson sampleReply connectedEvents).announced 0 ≠ [])) _
    rw [hnone]
    exact ⟨rfl, trivial⟩
  · intro i announcement hprobe
    have hfor := List.all_eq_true.mp hannounced.2 _ (List.mem_of_getElem? hprobe)
    obtain rfl : i = 0 := by simpa [Probe.isFor] using hfor
    exact hannounced.1

/-- The connection is lost and a new one is opened before the local DSH answers. -/
def reconnectedEvents : List ClientEvent :=
  announcedEvents ++ [.close 0, .reconnect .connect, .answer 0 true]

/-- `ready` goes out over the new connection. -/
theorem not_connection_rules_reconnected :
    ¬ ConnectionRules (run sessionJson sampleReply reconnectedEvents) := by
  intro h
  have hrun : let s := run sessionJson sampleReply reconnectedEvents
      s.sent = [⟨1, .ready true, none⟩] ∧ (s.announced 1).length = 0 := by
    decide
  have hsent : ⟨1, .ready true, none⟩ ∈ (run sessionJson sampleReply reconnectedEvents).sent := by
    rw [hrun.1]
    exact List.mem_singleton_self _
  obtain ⟨announcement, hmem, -⟩ := h.ready_session _ hsent rfl
  rw [List.length_eq_zero_iff.mp hrun.2] at hmem
  cases hmem

end DshOrbit.ReverseNode
