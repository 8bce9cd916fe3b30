import DshOrbit.ReverseHub.Session

/-!
# What the session manager keeps

Whatever happens to the connections of a node, it has at most one pending session,
and its current session is open and ready. What a session reads from its connection
is followed by its control state alone, and a session that does not become ready
leaves all others in their places.

## Main definitions

- `Sound` — what every run keeps
- `controlState` — the state of a session by what its parser delivered
- `Follows`, `Spares` — what an event, and an event of one session, leaves as it was

## Main results

- `Sound.follows_foldl`, `Sound.arrive` — what the messages of a session do
- `run_sound`
-/

namespace DshOrbit.ReverseHub

open DshOrbit.Lib DshOrbit.ReverseWs

namespace ReverseSessionManager

variable {World : Type*} {onSessionClosed : World → SessionId → String → World}
  {parseJson : Message → Option Json} {m : ReverseSessionManager World}

/-- What every run keeps. -/
structure Sound (m : ReverseSessionManager World) : Prop where
  absent : ∀ id, m.count ≤ id → (m.session id).closed = true
  closed_iff : ∀ id, (m.session id).closed = true ↔ (m.session id).state = .closed
  superseded : ∀ id, (m.session id).superseded = true → (m.session id).closed = true
  current : ∀ nodeId id, m.current nodeId = some id →
    (m.session id).nodeId = nodeId ∧ (m.session id).state = .ready
  ready : ∀ id, (m.session id).state = .ready → m.current (m.session id).nodeId = some id
  pending : ∀ nodeId id, id ∈ m.pending nodeId →
    (m.session id).nodeId = nodeId ∧ (m.session id).closed = false
  one_pending : ∀ nodeId, (m.pending nodeId).length ≤ 1

theorem sound_initial (world : World) : Sound (initial world) where
  absent _ _ := rfl
  closed_iff _ := by simp [initial, ReverseSession.absent]
  superseded _ _ := rfl
  current nodeId id h := by simp [initial] at h
  ready id h := by simp [initial, ReverseSession.absent] at h
  pending nodeId id h := by simp [initial] at h
  one_pending nodeId := by simp [initial]

/-! ### Changes of one session -/

/-- A change of a session that the rules do not look at. -/
def Harmless (f : ReverseSession → ReverseSession) : Prop :=
  ∀ s, (f s).nodeId = s.nodeId ∧ (f s).state = s.state ∧ (f s).closed = s.closed ∧
    (f s).superseded = s.superseded

theorem session_modify (id other : SessionId) (f : ReverseSession → ReverseSession) :
    (m.modify id f).session other = if other = id then f (m.session other) else m.session other := by
  by_cases hid : other = id
  · subst hid
    simp [modify]
  · simp [modify, hid]

theorem Harmless.session {f : ReverseSession → ReverseSession} (hf : Harmless f)
    (m : ReverseSessionManager World) (id other : SessionId) :
    ((m.modify id f).session other).nodeId = (m.session other).nodeId ∧
      ((m.modify id f).session other).state = (m.session other).state ∧
      ((m.modify id f).session other).closed = (m.session other).closed ∧
      ((m.modify id f).session other).superseded = (m.session other).superseded := by
  rw [session_modify]
  split_ifs
  · exact hf _
  · exact ⟨rfl, rfl, rfl, rfl⟩

theorem Sound.modify (h : Sound m) (id : SessionId) {f : ReverseSession → ReverseSession}
    (hf : Harmless f) : Sound (m.modify id f) := by
  constructor
  · intro other hother
    rw [(hf.session m id other).2.2.1]
    exact h.absent other hother
  · intro other
    rw [(hf.session m id other).2.2.1, (hf.session m id other).2.1]
    exact h.closed_iff other
  · intro other
    rw [(hf.session m id other).2.2.1, (hf.session m id other).2.2.2]
    exact h.superseded other
  · intro nodeId other hother
    rw [(hf.session m id other).1, (hf.session m id other).2.1]
    exact h.current nodeId other hother
  · intro other
    rw [(hf.session m id other).1, (hf.session m id other).2.1]
    exact h.ready other
  · intro nodeId other hother
    rw [(hf.session m id other).1, (hf.session m id other).2.2.1]
    exact h.pending nodeId other hother
  · exact h.one_pending

theorem close_of_closed {id : SessionId} (hclosed : (m.session id).closed = true)
    (reason : String) : m.close onSessionClosed id reason = m := by
  simp [close, hclosed]

/-- What closing an open session does. -/
theorem close_of_open {id : SessionId} (hopen : (m.session id).closed = false)
    (reason : String) : m.close onSessionClosed id reason =
      { session := Function.update m.session id
          { m.session id with closed := true, state := .closed, readyTimer := false }
        count := m.count
        current := if m.current (m.session id).nodeId = some id then
          Function.update m.current (m.session id).nodeId none else m.current
        pending := Function.update m.pending (m.session id).nodeId
          ((m.pending (m.session id).nodeId).filter (· ≠ id))
        world := onSessionClosed m.world id reason } := by
  simp only [close, hopen, Bool.false_eq_true, if_false]
  rfl

theorem session_close_of_ne {id other : SessionId} (hne : other ≠ id) (reason : String) :
    (m.close onSessionClosed id reason).session other = m.session other := by
  cases hclosed : (m.session id).closed with
  | true => rw [close_of_closed hclosed]
  | false => simp [close_of_open hclosed, hne]

theorem closed_close (id : SessionId) (reason : String) :
    ((m.close onSessionClosed id reason).session id).closed = true := by
  cases hclosed : (m.session id).closed with
  | true => rw [close_of_closed hclosed, hclosed]
  | false => simp [close_of_open hclosed]

/-- The current session of a node is open. -/
theorem Sound.not_closed_of_current (h : Sound m) {nodeId : String} {id : SessionId}
    (hcurrent : m.current nodeId = some id) : (m.session id).closed = false := by
  have hready := (h.current nodeId id hcurrent).2
  rw [← Bool.not_eq_true, h.closed_iff, hready]
  simp

/-- Closing a session takes it, and no other, away from its place. -/
theorem Sound.current_close (h : Sound m) (id : SessionId) (reason nodeId : String) :
    (m.close onSessionClosed id reason).current nodeId =
      if m.current nodeId = some id then none else m.current nodeId := by
  cases hclosed : (m.session id).closed with
  | true =>
    have hne : m.current nodeId ≠ some id := by
      intro hcurrent
      simp [h.not_closed_of_current hcurrent] at hclosed
    rw [close_of_closed hclosed, if_neg hne]
  | false =>
    rw [close_of_open hclosed]
    by_cases hnode : nodeId = (m.session id).nodeId
    · subst hnode
      split_ifs <;> simp_all
    · have hne : m.current nodeId ≠ some id :=
        fun hcurrent => hnode (h.current nodeId id hcurrent).1.symm
      split_ifs <;> simp [hnode]

theorem Sound.pending_close (h : Sound m) (id : SessionId) (reason nodeId : String) :
    (m.close onSessionClosed id reason).pending nodeId = (m.pending nodeId).filter (· ≠ id) := by
  have hkeeps (hnot : id ∉ m.pending nodeId) :
      (m.pending nodeId).filter (· ≠ id) = m.pending nodeId := by
    apply List.filter_eq_self.mpr
    intro other hother
    simpa using fun heq : other = id => hnot (heq ▸ hother)
  cases hclosed : (m.session id).closed with
  | true =>
    rw [close_of_closed hclosed, hkeeps]
    intro hmem
    simp [(h.pending nodeId id hmem).2] at hclosed
  | false =>
    rw [close_of_open hclosed]
    by_cases hnode : nodeId = (m.session id).nodeId
    · simp [hnode]
    · rw [hkeeps fun hmem => hnode (h.pending nodeId id hmem).1.symm]
      simp [hnode]

theorem count_close (id : SessionId) (reason : String) :
    (m.close onSessionClosed id reason).count = m.count := by
  cases hclosed : (m.session id).closed with
  | true => rw [close_of_closed hclosed]
  | false => rw [close_of_open hclosed]

theorem Sound.close (h : Sound m) (id : SessionId) (reason : String) :
    Sound (m.close onSessionClosed id reason) := by
  cases hclosed : (m.session id).closed with
  | true => rwa [close_of_closed hclosed]
  | false =>
    have hself : (m.close onSessionClosed id reason).session id =
        { m.session id with closed := true, state := .closed, readyTimer := false } := by
      simp [close_of_open hclosed]
    constructor
    · intro other hother
      rw [count_close] at hother
      by_cases hid : other = id
      · simp [hid, hself]
      · rw [session_close_of_ne hid]
        exact h.absent other hother
    · intro other
      by_cases hid : other = id
      · simp [hid, hself]
      · rw [session_close_of_ne hid]
        exact h.closed_iff other
    · intro other
      by_cases hid : other = id
      · simp [hid, hself]
      · rw [session_close_of_ne hid]
        exact h.superseded other
    · intro nodeId other hother
      rw [h.current_close] at hother
      split_ifs at hother with hcurrent
      have hid : other ≠ id := by
        rintro rfl
        exact hcurrent hother
      rw [session_close_of_ne hid]
      exact h.current nodeId other hother
    · intro other hready
      by_cases hid : other = id
      · simp [hid, hself] at hready
      · rw [session_close_of_ne hid] at hready ⊢
        rw [h.current_close, h.ready other hready, if_neg]
        simpa using hid
    · intro nodeId other hother
      rw [h.pending_close] at hother
      obtain ⟨hmem, hid⟩ := List.mem_filter.mp hother
      rw [session_close_of_ne (by simpa using hid)]
      exact h.pending nodeId other hmem
    · intro nodeId
      rw [h.pending_close]
      exact (List.length_filter_le _ _).trans (h.one_pending nodeId)

/-! ### Promotion -/

/-- What the promotion of an open session does. -/
structure Promotes (m : ReverseSessionManager World) (id : SessionId)
    (m' : ReverseSessionManager World) : Prop where
  count : m'.count = m.count
  self : m'.session id = { m.session id with readyTimer := false, state := .ready }
  replaced : ∀ other, m.current (m.session id).nodeId = some other → other ≠ id →
    m'.session other =
      { m.session other with superseded := true, closed := true, state := .closed,
                             readyTimer := false }
  kept : ∀ other, m.current (m.session id).nodeId ≠ some other → other ≠ id →
    m'.session other = m.session other
  current : m'.current = Function.update m.current (m.session id).nodeId (some id)
  pending : ∀ nodeId, m'.pending nodeId =
    (m.pending nodeId).filter fun other =>
      other ≠ id ∧ m.current (m.session id).nodeId ≠ some other

/-- A list of sessions of another node holds none of the given ones. -/
theorem Sound.filter_pending (h : Sound m) {nodeId : String} {p : SessionId → Prop}
    [DecidablePred p] (hp : ∀ other, ¬p other → (m.session other).nodeId ≠ nodeId) :
    (m.pending nodeId).filter (fun other => p other) = m.pending nodeId := by
  apply List.filter_eq_self.mpr
  intro other hother
  by_contra hnot
  exact hp other (by simpa using hnot) (h.pending nodeId other hother).1

theorem Sound.promotes (h : Sound m) {id : SessionId} (hopen : (m.session id).closed = false)
    (hstate : (m.session id).state ≠ .ready) :
    Promotes m id (m.promote onSessionClosed id) := by
  have hsuperseded : (m.session id).superseded = false := by
    rw [← Bool.not_eq_true]
    intro hsuperseded
    simp [h.superseded id hsuperseded] at hopen
  have hother : m.current (m.session id).nodeId ≠ some id := fun hcurrent =>
    hstate (h.current _ _ hcurrent).2
  have hpending (nodeId : String) (hnode : nodeId ≠ (m.session id).nodeId) :
      (m.pending nodeId).filter (fun other =>
        other ≠ id ∧ m.current (m.session id).nodeId ≠ some other) = m.pending nodeId := by
    refine h.filter_pending (p := fun other =>
      other ≠ id ∧ m.current (m.session id).nodeId ≠ some other) fun other hnot => ?_
    by_cases hid : other = id
    · rw [hid]
      exact hnode.symm
    · have hcurrent : m.current (m.session id).nodeId = some other := by simpa [hid] using hnot
      rw [(h.current _ _ hcurrent).1]
      exact hnode.symm
  cases hprevious : m.current (m.session id).nodeId with
  | none =>
    simp only [promote, hopen, hsuperseded, Bool.or_false, Bool.false_eq_true, if_false,
      ReverseSessionManager.modify, hprevious]
    refine ⟨rfl, by simp [hopen, hsuperseded], ?_, ?_, rfl, ?_⟩
    · intro other hcurrent
      simp [hprevious] at hcurrent
    · intro other _ hid
      simp [hid]
    · intro nodeId
      by_cases hnode : nodeId = (m.session id).nodeId
      · simp [hnode, hprevious]
      · simp only [Function.update_of_ne hnode]
        exact (hpending nodeId hnode).symm
  | some other =>
    have hne : other ≠ id := fun heq => hother (heq ▸ hprevious)
    have hnodeOther := (h.current _ _ hprevious).1
    have hopenOther := h.not_closed_of_current hprevious
    simp only [promote, hopen, hsuperseded, Bool.or_false, Bool.false_eq_true, if_false,
      ReverseSessionManager.modify, hprevious, hne]
    rw [close_of_open (by simp [hne, hopenOther])]
    refine ⟨rfl, ?_, ?_, ?_, ?_, ?_⟩
    · simp [hne.symm, hopen, hsuperseded]
    · rintro another hcurrent -
      obtain rfl : other = another := Option.some.inj (hprevious.symm.trans hcurrent)
      simp [hne]
    · intro another hcurrent hid
      have hnot : another ≠ other := fun heq => hcurrent (heq ▸ hprevious)
      simp [hid, hnot]
    · simp [hne, hne.symm, hnodeOther]
    · intro nodeId
      by_cases hnode : nodeId = (m.session id).nodeId
      · simp only [hnode, Function.update_of_ne hne, Function.update_self, hnodeOther, hprevious,
          List.filter_filter]
        congr 1
        funext another
        by_cases hid : another = id
        · simp [hid]
        · by_cases hnot : another = other
          · simp [hnot]
          · simp [hid, hnot, Ne.symm hnot]
      · simp only [Function.update_of_ne hne, Function.update_self, hnodeOther,
          Function.update_of_ne hnode]
        rw [← hpending nodeId hnode]
        simp [hprevious]

theorem Sound.promote (h : Sound m) {id : SessionId} (hopen : (m.session id).closed = false)
    (hstate : (m.session id).state ≠ .ready) : Sound (m.promote onSessionClosed id) := by
  obtain ⟨hcount, hself, hreplaced, hkept, hcurrent, hpending⟩ :
      Promotes m id (m.promote onSessionClosed id) := h.promotes hopen hstate
  generalize m.promote onSessionClosed id = m' at *
  have hsession (other : SessionId) : other = id ∨ m'.session other = m.session other ∨
      m.current (m.session id).nodeId = some other ∧ (m'.session other).closed = true ∧
        (m'.session other).state = .closed := by
    by_cases hid : other = id
    · exact .inl hid
    · by_cases hother : m.current (m.session id).nodeId = some other
      · rw [hreplaced other hother hid]
        exact .inr (.inr ⟨hother, rfl, rfl⟩)
      · exact .inr (.inl (hkept other hother hid))
  constructor
  · intro other hother
    rw [hcount] at hother
    rcases hsession other with rfl | hsame | ⟨-, hclosed, -⟩
    · simp [h.absent other hother] at hopen
    · rw [hsame]
      exact h.absent other hother
    · exact hclosed
  · intro other
    rcases hsession other with rfl | hsame | ⟨-, hclosed, hstate'⟩
    · simp [hself, hopen]
    · rw [hsame]
      exact h.closed_iff other
    · simp [hclosed, hstate']
  · intro other
    rcases hsession other with rfl | hsame | ⟨-, hclosed, -⟩
    · rw [hself]
      exact h.superseded other
    · rw [hsame]
      exact h.superseded other
    · exact fun _ => hclosed
  · intro nodeId other hother
    rw [hcurrent] at hother
    by_cases hnode : nodeId = (m.session id).nodeId
    · subst hnode
      obtain rfl : id = other := by simpa using hother
      simp [hself]
    · rw [Function.update_of_ne hnode] at hother
      obtain ⟨hnodeOther, hready⟩ := h.current nodeId other hother
      have hid : other ≠ id := fun heq => hnode (heq ▸ hnodeOther).symm
      rw [hkept other _ hid]
      · exact ⟨hnodeOther, hready⟩
      · intro hold
        exact hnode (hnodeOther.symm.trans (h.current _ other hold).1)
  · intro other hready
    rcases hsession other with rfl | hsame | ⟨-, -, hstate'⟩
    · rw [hself, hcurrent, Function.update_self]
    · rw [hsame] at hready ⊢
      have hold := h.ready other hready
      rw [hcurrent, Function.update_of_ne]
      · exact hold
      · intro hnode
        rw [hnode] at hold
        -- the session it would stand beside is the one that was replaced
        by_cases hid : other = id
        · exact hstate (hid ▸ hready)
        · rw [hreplaced other hold hid] at hsame
          have hclosed := congrArg ReverseSession.state hsame
          rw [hready] at hclosed
          cases hclosed
    · simp [hstate'] at hready
  · intro nodeId other hother
    rw [hpending] at hother
    obtain ⟨hmem, hnot⟩ := List.mem_filter.mp hother
    simp only [decide_eq_true_eq] at hnot
    rw [hkept other hnot.2 hnot.1]
    exact h.pending nodeId other hmem
  · intro nodeId
    rw [hpending]
    exact (List.length_filter_le _ _).trans (h.one_pending nodeId)

/-! ### What a parser delivers -/

/-- The state of a session, followed through what its parser delivers. -/
def controlState (parseJson : Message → Option Json) : SessionState → ParserEvent → SessionState
  | .closed, _ => .closed
  | state, .ping _ => state
  | state, .pong _ => state
  | _, .close _ => .closed
  | _, .error _ => .closed
  | .pending, .message message =>
    match readControl parseJson message with
    | .ready true _ => .ready
    | _ => .closed
  | .ready, .message message =>
    match readControl parseJson message with
    | .status (some _) => .ready
    | _ => .closed

theorem foldl_controlState_closed (events : List ParserEvent) :
    events.foldl (controlState parseJson) .closed = .closed := by
  induction events with
  | nil => rfl
  | cons event rest ih => simpa [controlState] using ih

/-- Everything that one callback of a parser can do. -/
theorem Sound.onParserEvent_cases (h : Sound m) (id : SessionId) (event : ParserEvent) :
    (∃ f, Harmless f ∧ m.onParserEvent onSessionClosed parseJson id event = m.modify id f ∧
      controlState parseJson (m.session id).state event = (m.session id).state) ∨
    ((m.session id).closed = false ∧
      (∃ reason, m.onParserEvent onSessionClosed parseJson id event =
        m.close onSessionClosed id reason) ∧
      controlState parseJson (m.session id).state event = .closed) ∨
    ((m.session id).closed = false ∧ (m.session id).state = .pending ∧
      (∃ f, Harmless f ∧ m.onParserEvent onSessionClosed parseJson id event =
        (m.modify id f).promote onSessionClosed id) ∧
      controlState parseJson (m.session id).state event = .ready) := by
  have hkeep : m = m.modify id fun s => s := by simp [ReverseSessionManager.modify]
  have hsame : Harmless fun s => s := fun _ => ⟨rfl, rfl, rfl, rfl⟩
  have hpong : Harmless fun s => { s with awaitingPong := false } := fun _ => ⟨rfl, rfl, rfl, rfl⟩
  have hstatus (routeReady : Bool) : Harmless fun s => { s with routeReady } :=
    fun _ => ⟨rfl, rfl, rfl, rfl⟩
  cases hclosed : (m.session id).closed with
  | true =>
    have hstate := (h.closed_iff id).mp hclosed
    left
    rw [hstate]
    cases event with
    | message message =>
      have hignored : m.onControlMessage onSessionClosed parseJson id message = m := by
        simp only [onControlMessage, hclosed, Bool.true_or, if_true]
      exact ⟨_, hsame, hignored.trans hkeep, rfl⟩
    | ping payload => exact ⟨_, hsame, hkeep, rfl⟩
    | pong payload => exact ⟨fun s => { s with awaitingPong := false }, hpong, rfl, rfl⟩
    | close code => exact ⟨_, hsame, (close_of_closed hclosed _).trans hkeep, rfl⟩
    | error message => exact ⟨_, hsame, (close_of_closed hclosed _).trans hkeep, rfl⟩
  | false =>
    have hsuperseded : (m.session id).superseded = false := by
      rw [← Bool.not_eq_true]
      intro hsuperseded
      simp [h.superseded id hsuperseded] at hclosed
    have hstate : (m.session id).state = .pending ∨ (m.session id).state = .ready := by
      cases hstate : (m.session id).state with
      | pending => exact .inl rfl
      | ready => exact .inr rfl
      | closed =>
        have := (h.closed_iff id).mpr hstate
        simp [hclosed] at this
    cases event with
    | ping payload =>
      refine .inl ⟨_, hsame, hkeep, ?_⟩
      rcases hstate with hstate | hstate
      · rw [hstate, controlState]
        simp
      · rw [hstate, controlState]
        simp
    | pong payload =>
      refine .inl ⟨fun s => { s with awaitingPong := false }, hpong, rfl, ?_⟩
      rcases hstate with hstate | hstate
      · rw [hstate, controlState]
        simp
      · rw [hstate, controlState]
        simp
    | close code =>
      refine .inr (.inl ⟨rfl, ⟨_, rfl⟩, ?_⟩)
      rcases hstate with hstate | hstate
      · rw [hstate, controlState]
        simp
      · rw [hstate, controlState]
        simp
    | error message =>
      refine .inr (.inl ⟨rfl, ⟨_, rfl⟩, ?_⟩)
      rcases hstate with hstate | hstate
      · rw [hstate, controlState]
        simp
      · rw [hstate, controlState]
        simp
    | message message =>
      simp only [ReverseSessionManager.onParserEvent, onControlMessage, hclosed, hsuperseded,
        Bool.or_false, Bool.false_eq_true, if_false]
      rcases hstate with hstate | hstate
      · rw [hstate, controlState]
        cases readControl parseJson message with
        | badJson => exact .inr (.inl ⟨trivial, ⟨_, rfl⟩, rfl⟩)
        | badMessage => exact .inr (.inl ⟨trivial, ⟨_, rfl⟩, rfl⟩)
        | ready protocol routeReady =>
          cases protocol with
          | true =>
            refine .inr (.inr ⟨trivial, rfl, ⟨fun s => { s with routeReady }, hstatus _, ?_⟩, rfl⟩)
            simp
          | false => exact .inr (.inl ⟨trivial, ⟨"protocol-mismatch", by simp⟩, rfl⟩)
        | status routeReady => exact .inr (.inl ⟨trivial, ⟨"status-before-ready", by simp⟩, rfl⟩)
        | unknown => exact .inr (.inl ⟨trivial, ⟨_, rfl⟩, rfl⟩)
      · rw [hstate, controlState]
        cases readControl parseJson message with
        | badJson => exact .inr (.inl ⟨trivial, ⟨_, rfl⟩, rfl⟩)
        | badMessage => exact .inr (.inl ⟨trivial, ⟨_, rfl⟩, rfl⟩)
        | ready protocol routeReady =>
          exact .inr (.inl ⟨trivial, ⟨"duplicate-ready", by simp⟩, rfl⟩)
        | status routeReady =>
          cases routeReady with
          | none => exact .inr (.inl ⟨trivial, ⟨"bad-status", by simp⟩, rfl⟩)
          | some routeReady => exact .inl ⟨fun s => { s with routeReady }, hstatus _, by simp, rfl⟩
        | unknown => exact .inr (.inl ⟨trivial, ⟨_, rfl⟩, rfl⟩)

/-- What every event but a new connection does. -/
structure Follows (m m' : ReverseSessionManager World) : Prop where
  sound : Sound m'
  count : m'.count = m.count
  nodeId : ∀ other, (m'.session other).nodeId = (m.session other).nodeId
  /-- No session becomes pending, and one that stays so keeps its state. -/
  pending : ∀ nodeId other, other ∈ m'.pending nodeId →
    other ∈ m.pending nodeId ∧ (m'.session other).state = (m.session other).state

/-- The other sessions are as they were, and in their places. -/
structure Spares (id : SessionId) (m m' : ReverseSessionManager World) : Prop where
  session : ∀ other, other ≠ id → m'.session other = m.session other
  current : ∀ nodeId other, other ≠ id →
    (m'.current nodeId = some other ↔ m.current nodeId = some other)
  pending : ∀ nodeId other, other ≠ id → (other ∈ m'.pending nodeId ↔ other ∈ m.pending nodeId)

theorem Spares.refl (id : SessionId) (m : ReverseSessionManager World) : Spares id m m :=
  ⟨fun _ _ => rfl, fun _ _ _ => .rfl, fun _ _ _ => .rfl⟩

theorem Spares.trans {id : SessionId} {m m' m'' : ReverseSessionManager World}
    (h : Spares id m m') (h' : Spares id m' m'') : Spares id m m'' where
  session other hid := (h'.session other hid).trans (h.session other hid)
  current nodeId other hid := (h'.current nodeId other hid).trans (h.current nodeId other hid)
  pending nodeId other hid := (h'.pending nodeId other hid).trans (h.pending nodeId other hid)

theorem spares_modify (m : ReverseSessionManager World) (id : SessionId)
    (f : ReverseSession → ReverseSession) : Spares id m (m.modify id f) := by
  refine ⟨fun other hid => ?_, fun _ _ _ => .rfl, fun _ _ _ => .rfl⟩
  rw [session_modify, if_neg hid]

theorem Sound.spares_close (h : Sound m) (id : SessionId) (reason : String) :
    Spares id m (m.close onSessionClosed id reason) := by
  refine ⟨fun other hid => session_close_of_ne hid reason, fun nodeId other hid => ?_,
    fun nodeId other hid => ?_⟩
  · rw [h.current_close]
    split_ifs with hcurrent
    · simp [hcurrent, hid.symm]
    · exact .rfl
  · rw [h.pending_close]
    simp [hid]

theorem follows_modify (h : Sound m) (id : SessionId) {f : ReverseSession → ReverseSession}
    (hf : Harmless f) : Follows m (m.modify id f) where
  sound := h.modify id hf
  count := rfl
  nodeId other := (hf.session m id other).1
  pending _ other hother := ⟨hother, (hf.session m id other).2.1⟩

theorem nodeId_close (id other : SessionId) (reason : String) :
    ((m.close onSessionClosed id reason).session other).nodeId = (m.session other).nodeId := by
  by_cases hid : other = id
  · subst hid
    cases hclosed : (m.session other).closed with
    | true => rw [close_of_closed hclosed]
    | false => simp [close_of_open hclosed]
  · rw [session_close_of_ne hid]

theorem follows_close (h : Sound m) (id : SessionId) (reason : String) :
    Follows m (m.close onSessionClosed id reason) where
  sound := h.close id reason
  count := count_close id reason
  nodeId other := nodeId_close id other reason
  pending _ other hother := by
    rw [h.pending_close] at hother
    obtain ⟨hmem, hid⟩ := List.mem_filter.mp hother
    rw [session_close_of_ne (by simpa using hid)]
    exact ⟨hmem, rfl⟩

theorem follows_promote (h : Sound m) {id : SessionId} (hopen : (m.session id).closed = false)
    (hstate : (m.session id).state ≠ .ready) : Follows m (m.promote onSessionClosed id) := by
  have hpromotes : Promotes m id (m.promote onSessionClosed id) := h.promotes hopen hstate
  refine ⟨h.promote hopen hstate, hpromotes.count, fun other => ?_, fun nodeId other hother => ?_⟩
  · by_cases hid : other = id
    · rw [hid, hpromotes.self]
    · by_cases hold : m.current (m.session id).nodeId = some other
      · rw [hpromotes.replaced other hold hid]
      · rw [hpromotes.kept other hold hid]
  · rw [hpromotes.pending] at hother
    obtain ⟨hmem, hnot⟩ := List.mem_filter.mp hother
    simp only [decide_eq_true_eq] at hnot
    rw [hpromotes.kept other hnot.2 hnot.1]
    exact ⟨hmem, rfl⟩

theorem Follows.trans {m m' m'' : ReverseSessionManager World}
    (h : Follows m m') (h' : Follows m' m'') : Follows m m'' where
  sound := h'.sound
  count := h'.count.trans h.count
  nodeId other := (h'.nodeId other).trans (h.nodeId other)
  pending nodeId other hother := by
    obtain ⟨hmem, hstate⟩ := h'.pending nodeId other hother
    obtain ⟨hmem', hstate'⟩ := h.pending nodeId other hmem
    exact ⟨hmem', hstate.trans hstate'⟩

/-- What one callback does, with the state that `controlState` tells. -/
theorem Sound.follows_onParserEvent (h : Sound m) (id : SessionId) (event : ParserEvent) :
    Follows m (m.onParserEvent onSessionClosed parseJson id event) ∧
      ((m.onParserEvent onSessionClosed parseJson id event).session id).state =
        controlState parseJson (m.session id).state event ∧
      (controlState parseJson (m.session id).state event ≠ .ready ∨
        (m.session id).state = .ready →
        Spares id m (m.onParserEvent onSessionClosed parseJson id event)) := by
  rcases @Sound.onParserEvent_cases _ onSessionClosed parseJson _ h id event
    with ⟨f, hf, heq, hstate⟩ | ⟨hopen, ⟨reason, heq⟩, hstate⟩ |
      ⟨hopen, hpending, ⟨f, hf, heq⟩, hstate⟩
  · rw [heq, hstate]
    exact ⟨follows_modify h id hf, (hf.session m id id).2.1, fun _ => spares_modify m id f⟩
  · rw [heq, hstate]
    refine ⟨follows_close h id reason, ?_, fun _ => h.spares_close id reason⟩
    exact ((h.close id reason).closed_iff id).mp (closed_close id reason)
  · obtain ⟨-, hstate', hopen', -⟩ := hf.session m id id
    have hsound := h.modify id hf
    have hopen'' := hopen'.trans hopen
    have hnot : ((m.modify id f).session id).state ≠ .ready := by simp [hstate', hpending]
    rw [heq, hstate]
    refine ⟨(follows_modify h id hf).trans (follows_promote hsound hopen'' hnot), ?_, ?_⟩
    · rw [(hsound.promotes hopen'' hnot).self]
    · simp [hpending]

/-- What a list of callbacks does. A session that never becomes ready spares the others. -/
theorem Sound.follows_foldl (h : Sound m) (id : SessionId) (events : List ParserEvent) :
    Follows m (events.foldl (onParserEvent onSessionClosed parseJson id) m) ∧
      ((events.foldl (onParserEvent onSessionClosed parseJson id) m).session id).state =
        events.foldl (controlState parseJson) (m.session id).state ∧
      ((∀ k, (events.take k).foldl (controlState parseJson) (m.session id).state ≠ .ready) →
        Spares id m (events.foldl (onParserEvent onSessionClosed parseJson id) m)) := by
  induction events generalizing m with
  | nil => exact ⟨⟨h, rfl, fun _ => rfl, fun _ _ hother => ⟨hother, rfl⟩⟩, rfl, fun _ => .refl id m⟩
  | cons event rest ih =>
    obtain ⟨hfollows, hstate, hspares⟩ :=
      @Sound.follows_onParserEvent _ onSessionClosed parseJson _ h id event
    obtain ⟨hfollows', hstate', hspares'⟩ := ih hfollows.sound
    rw [hstate] at hstate' hspares'
    refine ⟨hfollows.trans hfollows', hstate', fun hnever => ?_⟩
    have hfirst := hnever 1
    refine (hspares (.inl (by simpa using hfirst))).trans (hspares' fun k => ?_)
    simpa using hnever (k + 1)

theorem Sound.follows_parse (h : Sound m) (id : SessionId) (chunk : Buffer) :
    Follows m (m.parse onSessionClosed parseJson id chunk) := by
  have hparse (state : ParserState) : Harmless fun s => { s with parse := state } :=
    fun _ => ⟨rfl, rfl, rfl, rfl⟩
  let state := ((createFrameParser controlConfig).feed (m.session id).parse chunk).1
  have hmodified := follows_modify h id (hparse state)
  exact hmodified.trans (hmodified.sound.follows_foldl id _).1

/-! ### Whole sets -/

theorem Follows.refl (h : Sound m) : Follows m m :=
  ⟨h, rfl, fun _ => rfl, fun _ _ hother => ⟨hother, rfl⟩⟩

theorem closeEach_cons (id : SessionId) (rest : List SessionId) (reason : String) :
    m.closeEach onSessionClosed (id :: rest) reason =
      (m.close onSessionClosed id reason).closeEach onSessionClosed rest reason := rfl

theorem follows_closeEach (h : Sound m) (ids : List SessionId) (reason : String) :
    Follows m (m.closeEach onSessionClosed ids reason) := by
  induction ids generalizing m with
  | nil => exact .refl h
  | cons id rest ih =>
    have hclose : Follows m (m.close onSessionClosed id reason) := follows_close h id reason
    exact hclose.trans (ih hclose.sound)

theorem session_closeEach {ids : List SessionId} {other : SessionId} (hother : other ∉ ids)
    (reason : String) :
    (m.closeEach onSessionClosed ids reason).session other = m.session other := by
  induction ids generalizing m with
  | nil => rfl
  | cons id rest ih =>
    obtain ⟨hid, hrest⟩ : other ≠ id ∧ other ∉ rest := by simpa using hother
    rw [closeEach_cons, ih hrest, session_close_of_ne hid]

theorem Sound.pending_closeEach (h : Sound m) (ids : List SessionId) (reason nodeId : String)
    (other : SessionId) : other ∈ (m.closeEach onSessionClosed ids reason).pending nodeId ↔
      other ∈ m.pending nodeId ∧ other ∉ ids := by
  induction ids generalizing m with
  | nil => simp [ReverseSessionManager.closeEach]
  | cons id rest ih =>
    rw [closeEach_cons, ih (h.close id reason), h.pending_close]
    simp [and_assoc]

theorem Sound.current_closeEach (h : Sound m) (ids : List SessionId) (reason nodeId : String)
    (other : SessionId) : (m.closeEach onSessionClosed ids reason).current nodeId = some other ↔
      m.current nodeId = some other ∧ other ∉ ids := by
  induction ids generalizing m with
  | nil => simp [ReverseSessionManager.closeEach]
  | cons id rest ih =>
    rw [closeEach_cons, ih (h.close id reason), h.current_close]
    by_cases hcurrent : m.current nodeId = some id
    · simp only [hcurrent, if_true, reduceCtorEq, false_and, Option.some.injEq, List.mem_cons,
        not_or, false_iff]
      tauto
    · rw [if_neg hcurrent]
      have hne : m.current nodeId = some other → other ≠ id := by
        rintro hother rfl
        exact hcurrent hother
      simp only [List.mem_cons, not_or]
      tauto

/-! ### New connections -/

/-- What the parser of a new connection delivers from the bytes behind the upgrade. -/
def headEvents (head : Buffer) : List ParserEvent :=
  ((createFrameParser controlConfig).feed ParserState.initial head).2

/-- The bytes behind the upgrade leave the session ready. -/
def ReadyOnArrival (parseJson : Message → Option Json) (head : Buffer) : Prop :=
  (headEvents head).foldl (controlState parseJson) .pending = .ready

/-- The bytes behind the upgrade carry a `ready` message that is accepted, whatever
comes after it. -/
def DeliversReady (parseJson : Message → Option Json) (head : Buffer) : Prop :=
  ∃ k, ((headEvents head).take k).foldl (controlState parseJson) .pending = .ready

/-- The manager with a new session that is not yet among the pending ones. -/
def construct (m : ReverseSessionManager World) (nodeId keyId : String) :
    ReverseSessionManager World :=
  { m with session := Function.update m.session m.count { nodeId, keyId }, count := m.count + 1 }

theorem session_construct_of_ne {nodeId keyId : String} {other : SessionId}
    (hother : other ≠ m.count) : (m.construct nodeId keyId).session other = m.session other := by
  simp [construct, hother]

theorem Sound.ne_count_of_current (h : Sound m) {nodeId : String} {id : SessionId}
    (hcurrent : m.current nodeId = some id) : id ≠ m.count := by
  rintro rfl
  have hclosed := h.absent m.count le_rfl
  simp [h.not_closed_of_current hcurrent] at hclosed

theorem Sound.ne_count_of_pending (h : Sound m) {nodeId : String} {id : SessionId}
    (hpending : id ∈ m.pending nodeId) : id ≠ m.count := by
  rintro rfl
  have hclosed := h.absent m.count le_rfl
  simp [(h.pending nodeId m.count hpending).2] at hclosed

theorem Sound.construct (h : Sound m) (nodeId keyId : String) :
    Sound (m.construct nodeId keyId) := by
  have hself : (m.construct nodeId keyId).session m.count = { nodeId, keyId } := by
    simp [ReverseSessionManager.construct]
  constructor
  · intro other hother
    have hother : m.count + 1 ≤ other := hother
    have hid : other ≠ m.count := by omega
    rw [session_construct_of_ne hid]
    exact h.absent other (by omega)
  · intro other
    by_cases hid : other = m.count
    · simp [hid, hself]
    · rw [session_construct_of_ne hid]
      exact h.closed_iff other
  · intro other
    by_cases hid : other = m.count
    · simp [hid, hself]
    · rw [session_construct_of_ne hid]
      exact h.superseded other
  · intro other id hcurrent
    rw [session_construct_of_ne (h.ne_count_of_current hcurrent)]
    exact h.current other id hcurrent
  · intro other hready
    by_cases hid : other = m.count
    · simp [hid, hself] at hready
    · rw [session_construct_of_ne hid] at hready ⊢
      exact h.ready other hready
  · intro other id hpending
    rw [session_construct_of_ne (h.ne_count_of_pending hpending)]
    exact h.pending other id hpending
  · exact h.one_pending

theorem spares_construct (nodeId keyId : String) :
    Spares m.count m (m.construct nodeId keyId) :=
  ⟨fun _ hother => session_construct_of_ne hother, fun _ _ _ => .rfl, fun _ _ _ => .rfl⟩

/-- The manager once a new connection has read the bytes that came behind its upgrade. -/
def arrive (onSessionClosed : World → SessionId → String → World)
    (parseJson : Message → Option Json) (m : ReverseSessionManager World) (nodeId keyId : String)
    (head : Buffer) : ReverseSessionManager World :=
  if head ≠ [] then
    (m.construct nodeId keyId).parse onSessionClosed parseJson m.count head
  else m.construct nodeId keyId

theorem registerUpgrade_eq (nodeId keyId : String) (head : Buffer) :
    m.registerUpgrade onSessionClosed parseJson nodeId keyId head =
      let bounded := m.closeEach onSessionClosed (m.pending nodeId) "superseded-pending"
      let arrived := bounded.arrive onSessionClosed parseJson nodeId keyId head
      if head ≠ [] ∧ (arrived.session bounded.count).closed then arrived
      else
        { arrived with
          pending := Function.update arrived.pending nodeId
            (arrived.pending nodeId ++ [bounded.count]) } := rfl

/-- What the arrival of a connection does: the new session is in the state that its
first bytes leave it in, and without a `ready` among them it spares all others. -/
theorem Sound.arrive (h : Sound m) (nodeId keyId : String) (head : Buffer) :
    Follows (m.construct nodeId keyId) (m.arrive onSessionClosed parseJson nodeId keyId head) ∧
      ((m.arrive onSessionClosed parseJson nodeId keyId head).session m.count).state =
        (headEvents head).foldl (controlState parseJson) .pending ∧
      (¬DeliversReady parseJson head →
        Spares m.count m (m.arrive onSessionClosed parseJson nodeId keyId head)) := by
  have hconstruct := h.construct nodeId keyId
  have hself : (m.construct nodeId keyId).session m.count = { nodeId, keyId } := by
    simp [ReverseSessionManager.construct]
  by_cases hhead : head = []
  · subst hhead
    have hevents : headEvents [] = [] := rfl
    simp only [ReverseSessionManager.arrive, ne_eq, not_true_eq_false, if_false, hevents,
      List.foldl_nil, hself]
    exact ⟨.refl hconstruct, trivial, fun _ => spares_construct nodeId keyId⟩
  · let state := ((createFrameParser controlConfig).feed ParserState.initial head).1
    have hparse : Harmless fun s => { s with parse := state } := fun _ => ⟨rfl, rfl, rfl, rfl⟩
    have hmodified := follows_modify hconstruct m.count hparse
    have hpending : (((m.construct nodeId keyId).modify m.count fun s =>
        { s with parse := state }).session m.count).state = .pending := by
      rw [(hparse.session _ _ _).2.1, hself]
    obtain ⟨hfollows, hstate, hspares⟩ :=
      @Sound.follows_foldl _ onSessionClosed parseJson _ hmodified.sound m.count (headEvents head)
    have harrive : m.arrive onSessionClosed parseJson nodeId keyId head =
        (headEvents head).foldl (ReverseSessionManager.onParserEvent onSessionClosed parseJson m.count)
          ((m.construct nodeId keyId).modify m.count fun s => { s with parse := state }) := by
      simp only [ReverseSessionManager.arrive, ne_eq, hhead, not_false_eq_true, if_true,
        ReverseSessionManager.parse, hself]
      rfl
    rw [hpending] at hstate hspares
    rw [harrive]
    refine ⟨hmodified.trans hfollows, hstate, fun hnever => ?_⟩
    refine (spares_construct nodeId keyId).trans ((spares_modify _ _ _).trans (hspares ?_))
    exact not_exists.mp hnever

theorem Sound.registerUpgrade (h : Sound m) (nodeId keyId : String) (head : Buffer) :
    Sound (m.registerUpgrade onSessionClosed parseJson nodeId keyId head) := by
  rw [registerUpgrade_eq]
  dsimp only
  have hbounded : Follows m
      (m.closeEach onSessionClosed (m.pending nodeId) "superseded-pending") :=
    follows_closeEach h _ _
  have hnone : (m.closeEach onSessionClosed (m.pending nodeId) "superseded-pending").pending nodeId =
      [] := by
    apply List.eq_nil_iff_forall_not_mem.mpr
    intro other hother
    obtain ⟨hmem, hnot⟩ := (h.pending_closeEach _ _ _ _).mp hother
    exact hnot hmem
  generalize m.closeEach onSessionClosed (m.pending nodeId) "superseded-pending" = bounded at *
  obtain ⟨hfollows, -, -⟩ :=
    @Sound.arrive _ onSessionClosed parseJson _ hbounded.sound nodeId keyId head
  have hself : (bounded.construct nodeId keyId).session bounded.count = { nodeId, keyId } := by
    simp [ReverseSessionManager.construct]
  have hopen : head = [] → ((bounded.arrive onSessionClosed parseJson nodeId keyId head).session
      bounded.count).closed = false := by
    rintro rfl
    simp [ReverseSessionManager.arrive, hself]
  generalize bounded.arrive onSessionClosed parseJson nodeId keyId head = arrived at *
  have hempty : arrived.pending nodeId = [] := by
    apply List.eq_nil_iff_forall_not_mem.mpr
    intro other hother
    have hmem : other ∈ bounded.pending nodeId := (hfollows.pending nodeId other hother).1
    simp [hnone] at hmem
  split_ifs with hclosed
  · exact hfollows.sound
  · have hnodeId : (arrived.session bounded.count).nodeId = nodeId := by
      rw [hfollows.nodeId, hself]
    have hopen : (arrived.session bounded.count).closed = false := by
      by_cases hhead : head = []
      · exact hopen hhead
      · simpa [hhead] using hclosed
    obtain ⟨habsent, hiff, hsuperseded, hcurrent, hready, hpending, hone⟩ := hfollows.sound
    refine ⟨habsent, hiff, hsuperseded, hcurrent, hready, fun other id hother => ?_, fun other => ?_⟩
    · by_cases hother' : other = nodeId
      · subst hother'
        obtain rfl : id = bounded.count := by simpa [hempty] using hother
        exact ⟨hnodeId, hopen⟩
      · exact hpending other id (by simpa [hother'] using hother)
    · by_cases hother' : other = nodeId
      · simp [hother', hempty]
      · simpa [hother'] using hone other

/-! ### Runs -/

end ReverseSessionManager

/-- The session whose connection or timer an event comes from. -/
def SessionEvent.session? : SessionEvent → Option SessionId
  | .data id _ => some id
  | .socketClosed id _ => some id
  | .readyTimeout id => some id
  | .pingTick id => some id
  | .pongTimeout id => some id
  | _ => none

namespace ReverseSessionManager

variable {World : Type*} {onSessionClosed : World → SessionId → String → World}
  {parseJson : Message → Option Json} {m : ReverseSessionManager World}

theorem follows_step (h : Sound m) {event : SessionEvent}
    (hevent : ∀ nodeId keyId head, event ≠ .registerUpgrade nodeId keyId head) :
    Follows m (m.step onSessionClosed parseJson event) := by
  cases event with
  | registerUpgrade nodeId keyId head => exact absurd rfl (hevent nodeId keyId head)
  | data id chunk => exact h.follows_parse id chunk
  | socketClosed id reason => exact follows_close h id reason
  | readyTimeout id =>
    simp only [step]
    split_ifs
    · exact follows_close h id _
    · exact .refl h
  | pingTick id =>
    simp only [step]
    split_ifs
    · exact .refl h
    · exact follows_modify h id fun _ => ⟨rfl, rfl, rfl, rfl⟩
  | pongTimeout id =>
    simp only [step]
    split_ifs
    · exact follows_close h id _
    · exact .refl h
  | closeSessionsForNode nodeId reason =>
    have hcurrent : Follows m (m.closeEach onSessionClosed (m.current nodeId).toList reason) :=
      follows_closeEach h _ _
    exact hcurrent.trans (follows_closeEach hcurrent.sound _ reason)
  | closeSessionsForCredential nodeId keyId reason => exact follows_closeEach h _ reason

theorem Sound.step (h : Sound m) (event : SessionEvent) :
    Sound (m.step onSessionClosed parseJson event) := by
  by_cases hevent : ∃ nodeId keyId head, event = .registerUpgrade nodeId keyId head
  · obtain ⟨nodeId, keyId, head, rfl⟩ := hevent
    exact h.registerUpgrade nodeId keyId head
  · simp only [not_exists] at hevent
    exact (follows_step h hevent).sound

theorem run_sound (h : Sound m) (events : List SessionEvent) :
    Sound (m.run onSessionClosed parseJson events) := by
  induction events generalizing m with
  | nil => exact h
  | cons event rest ih => exact ih (h.step event)

/-- The event of a session that is closed changes nothing outside it. -/
theorem Sound.spares_of_closed (h : Sound m) {event : SessionEvent} {id : SessionId}
    (hevent : event.session? = some id) (hclosed : (m.session id).closed = true) :
    Spares id m (m.step onSessionClosed parseJson event) := by
  cases event with
  | data other chunk =>
    obtain rfl : other = id := Option.some.inj hevent
    let state := ((createFrameParser controlConfig).feed (m.session other).parse chunk).1
    have hparse : Harmless fun s => { s with parse := state } := fun _ => ⟨rfl, rfl, rfl, rfl⟩
    have hmodified := (follows_modify h other hparse).sound
    refine (spares_modify m other _).trans ((hmodified.follows_foldl other _).2.2 fun k => ?_)
    rw [(hparse.session m other other).2.1, (h.closed_iff other).mp hclosed,
      foldl_controlState_closed]
    simp
  | socketClosed other reason =>
    obtain rfl : other = id := Option.some.inj hevent
    exact h.spares_close other reason
  | readyTimeout other =>
    obtain rfl : other = id := Option.some.inj hevent
    simp only [ReverseSessionManager.step]
    split_ifs
    · exact h.spares_close other _
    · exact .refl other m
  | pingTick other =>
    obtain rfl : other = id := Option.some.inj hevent
    simp only [ReverseSessionManager.step, hclosed, if_true]
    exact .refl other m
  | pongTimeout other =>
    obtain rfl : other = id := Option.some.inj hevent
    simp only [ReverseSessionManager.step, hclosed, Bool.true_eq_false, and_false, if_false]
    exact .refl other m
  | registerUpgrade | closeSessionsForNode | closeSessionsForCredential => cases hevent

end ReverseSessionManager

end DshOrbit.ReverseHub
