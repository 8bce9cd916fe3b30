import DshOrbit.ReverseHub.Claims
import DshOrbit.ReverseHub.Hub
import DshOrbit.ReverseHub.Soundness

/-!
# Channels and sessions together

Whatever happens at a Hub, every open channel and every queued waiter with a session
carries the current ready session of its node; no pool outgrows its bound, every waiter
is settled once, and no idle channel is left to itself while a waiter is queued for it.

## Main definitions

- `WorldRule` — what an invariant of the world has to survive
- `ChannelBinding`, `ClosingRules` — channels and the sessions they belong to
- `PoolDiscipline`, `WaiterRules` — pools and waiters

## Main results

- `WorldRule.step` — one event of the sessions keeps such an invariant
- `Hub.disciplined_run`
- `Hub.channels_bound`, `Hub.pool_discipline`
-/

namespace DshOrbit.ReverseHub

open DshOrbit.Lib DshOrbit.ReverseWs

/-! ### The world of the session manager -/

namespace ReverseSessionManager

variable {World : Type*} {onSessionClosed : World → SessionId → String → World}
  {parseJson : Message → Option Json} {m : ReverseSessionManager World}

/-- A relation between the current sessions and the world that survives the closing of a
session and the promotion of one, with or without a session that it replaces. -/
structure WorldRule (onSessionClosed : World → SessionId → String → World)
    (R : (String → Option SessionId) → World → Prop) : Prop where
  close : ∀ current world id reason, R current world →
    R (fun nodeId => if current nodeId = some id then none else current nodeId)
      (onSessionClosed world id reason)
  promote : ∀ current world nodeId id, current nodeId = none → R current world →
    R (Function.update current nodeId (some id)) world
  replace : ∀ current world nodeId id other, current nodeId = some other → R current world →
    R (Function.update current nodeId (some id)) (onSessionClosed world other "superseded")

theorem world_close {id : SessionId} (reason : String) :
    (m.close onSessionClosed id reason).world =
      if (m.session id).closed then m.world else onSessionClosed m.world id reason := by
  cases hclosed : (m.session id).closed with
  | true => rw [close_of_closed hclosed, if_pos rfl]
  | false =>
    rw [close_of_open hclosed]
    rfl

theorem Sound.world_promote (h : Sound m) {id : SessionId}
    (hopen : (m.session id).closed = false) (hstate : (m.session id).state ≠ .ready) :
    (m.promote onSessionClosed id).world =
      match m.current (m.session id).nodeId with
      | none => m.world
      | some other => onSessionClosed m.world other "superseded" := by
  have hsuperseded : (m.session id).superseded = false := by
    rw [← Bool.not_eq_true]
    intro hsuperseded
    simp [h.superseded id hsuperseded] at hopen
  simp only [ReverseSessionManager.promote, hopen, hsuperseded, Bool.or_false,
    Bool.false_eq_true, if_false]
  have hsession : (m.modify id fun s => { s with readyTimer := false, state := .ready }).current =
      m.current := rfl
  rw [hsession]
  cases hcurrent : m.current (m.session id).nodeId with
  | none => rfl
  | some other =>
    have hne : other ≠ id := by
      rintro rfl
      exact hstate (h.current _ _ hcurrent).2
    simp only [hne, if_false]
    rw [world_close, if_neg]
    · rfl
    · have hother := h.not_closed_of_current hcurrent
      simp [ReverseSessionManager.modify, hne, hother]

variable {R : (String → Option SessionId) → World → Prop}

theorem WorldRule.onClose (hrule : WorldRule onSessionClosed R) (h : Sound m)
    (hr : R m.current m.world) (id : SessionId) (reason : String) :
    R (m.close onSessionClosed id reason).current (m.close onSessionClosed id reason).world := by
  rw [world_close]
  have hcurrent : (m.close onSessionClosed id reason).current = fun nodeId =>
      if m.current nodeId = some id then none else m.current nodeId := by
    funext nodeId
    exact h.current_close id reason nodeId
  cases hclosed : (m.session id).closed with
  | true => rwa [close_of_closed hclosed]
  | false =>
    rw [hcurrent]
    exact hrule.close _ _ id reason hr

theorem WorldRule.onPromote (hrule : WorldRule onSessionClosed R) (h : Sound m)
    (hr : R m.current m.world) {id : SessionId} (hopen : (m.session id).closed = false)
    (hstate : (m.session id).state ≠ .ready) :
    R (m.promote onSessionClosed id).current (m.promote onSessionClosed id).world := by
  have hpromotes : Promotes m id (m.promote onSessionClosed id) := h.promotes hopen hstate
  rw [hpromotes.current, h.world_promote hopen hstate]
  cases hcurrent : m.current (m.session id).nodeId with
  | none => exact hrule.promote _ _ _ id hcurrent hr
  | some other => exact hrule.replace _ _ _ id other hcurrent hr

theorem WorldRule.onParserEvent (hrule : WorldRule onSessionClosed R) (h : Sound m)
    (hr : R m.current m.world) (id : SessionId) (event : ParserEvent) :
    R (m.onParserEvent onSessionClosed parseJson id event).current
      (m.onParserEvent onSessionClosed parseJson id event).world := by
  rcases @Sound.onParserEvent_cases _ onSessionClosed parseJson _ h id event with
    ⟨f, -, heq, -⟩ | ⟨-, ⟨reason, heq⟩, -⟩ | ⟨hopen, hpending, ⟨f, hf, heq⟩, -⟩
  · rw [heq]
    exact hr
  · rw [heq]
    exact hrule.onClose h hr id reason
  · obtain ⟨-, hstate, hclosed, -⟩ := hf.session m id id
    rw [heq]
    apply hrule.onPromote (h.modify id hf)
    · exact hr
    · exact hclosed.trans hopen
    · simp [hstate, hpending]

theorem WorldRule.parse (hrule : WorldRule onSessionClosed R) (h : Sound m)
    (hr : R m.current m.world) (id : SessionId) (chunk : Buffer) :
    R (m.parse onSessionClosed parseJson id chunk).current
      (m.parse onSessionClosed parseJson id chunk).world := by
  have hfold : ∀ (events : List ParserEvent) (m : ReverseSessionManager World), Sound m →
      R m.current m.world →
        R (events.foldl (ReverseSessionManager.onParserEvent onSessionClosed parseJson id) m).current
          (events.foldl (ReverseSessionManager.onParserEvent onSessionClosed parseJson id) m).world := by
    intro events
    induction events with
    | nil => exact fun _ _ hr => hr
    | cons event rest ih =>
      intro m h hr
      exact ih _ (h.follows_onParserEvent id event).1.sound (hrule.onParserEvent h hr id event)
  have hparse (state : ParserState) : Harmless fun s => { s with parse := state } :=
    fun _ => ⟨rfl, rfl, rfl, rfl⟩
  rw [ReverseSessionManager.parse]
  exact hfold _ _ (h.modify id (hparse _)) hr

theorem WorldRule.closeEach (hrule : WorldRule onSessionClosed R) (h : Sound m)
    (hr : R m.current m.world) (ids : List SessionId) (reason : String) :
    R (m.closeEach onSessionClosed ids reason).current
      (m.closeEach onSessionClosed ids reason).world := by
  induction ids generalizing m with
  | nil => exact hr
  | cons id rest ih => exact ih (h.close id reason) (hrule.onClose h hr id reason)

theorem WorldRule.registerUpgrade (hrule : WorldRule onSessionClosed R) (h : Sound m)
    (hr : R m.current m.world) (nodeId keyId : String) (head : Buffer) :
    R (m.registerUpgrade onSessionClosed parseJson nodeId keyId head).current
      (m.registerUpgrade onSessionClosed parseJson nodeId keyId head).world := by
  have hbounded : Follows m
      (m.closeEach onSessionClosed (m.pending nodeId) "superseded-pending") :=
    follows_closeEach h _ _
  have hr' := hrule.closeEach h hr (m.pending nodeId) "superseded-pending"
  rw [registerUpgrade_eq]
  dsimp only
  generalize m.closeEach onSessionClosed (m.pending nodeId) "superseded-pending" = bounded at *
  have harrived : R (bounded.arrive onSessionClosed parseJson nodeId keyId head).current
      (bounded.arrive onSessionClosed parseJson nodeId keyId head).world := by
    rw [ReverseSessionManager.arrive]
    split_ifs
    · exact hrule.parse (hbounded.sound.construct nodeId keyId) hr' _ head
    · exact hr'
  split_ifs
  · exact harrived
  · exact harrived

theorem WorldRule.step (hrule : WorldRule onSessionClosed R) (h : Sound m)
    (hr : R m.current m.world) (event : SessionEvent) :
    R (m.step onSessionClosed parseJson event).current
      (m.step onSessionClosed parseJson event).world := by
  cases event with
  | registerUpgrade nodeId keyId head => exact hrule.registerUpgrade h hr nodeId keyId head
  | data id chunk => exact hrule.parse h hr id chunk
  | socketClosed id reason => exact hrule.onClose h hr id reason
  | readyTimeout id =>
    simp only [ReverseSessionManager.step]
    split_ifs
    · exact hrule.onClose h hr id _
    · exact hr
  | pingTick id =>
    simp only [ReverseSessionManager.step]
    split_ifs
    · exact hr
    · exact hr
  | pongTimeout id =>
    simp only [ReverseSessionManager.step]
    split_ifs
    · exact hrule.onClose h hr id _
    · exact hr
  | closeSessionsForNode nodeId reason =>
    have hcurrent : Follows m (m.closeEach onSessionClosed (m.current nodeId).toList reason) :=
      follows_closeEach h _ _
    exact hrule.closeEach hcurrent.sound (hrule.closeEach h hr _ reason) _ reason
  | closeSessionsForCredential nodeId keyId reason => exact hrule.closeEach h hr _ reason

end ReverseSessionManager

/-! ### Every event of a Hub -/

namespace ReverseChannelManager

variable {Flows : Type*} {closeFlow : Flows → RequestId → String → Flows}
  {m : ReverseChannelManager Flows}

theorem Disciplined.mono {current current' : String → Option SessionId}
    (h : Disciplined current m)
    (hcurrent : ∀ nodeId id, current nodeId = some id → current' nodeId = some id) :
    Disciplined current' m :=
  ⟨h.pool, h.queue, ⟨fun c hopen => hcurrent _ _ (h.bound.channel c hopen),
    fun r w id hphase hsettled hid => hcurrent _ _ (h.bound.request r w id hphase hsettled hid)⟩,
    h.served⟩

theorem QueueRules.asleep (h : QueueRules m) (hquiet : m.quiet = true) : Asleep m := by
  intro r w hphase
  rw [h.quiet hquiet hphase]
  simp

/-- The rules of the pool, with no request woken, as a rule about the world of the
sessions. -/
theorem worldRule_disciplined (start : ReverseChannelManager Flows) :
    ReverseSessionManager.WorldRule (Hub.onSessionClosed closeFlow) fun current world =>
      Disciplined current world ∧ Asleep world ∧ Settles start world where
  close := by
    rintro current world id reason ⟨hworld, hasleep, hsettles⟩
    obtain ⟨hclosed, hasleep'⟩ :
        Disciplined (fun nodeId => if current nodeId = some id then none else current nodeId)
          (world.closeChannelsForSession closeFlow id reason) ∧
        Asleep (world.closeChannelsForSession closeFlow id reason) :=
      hworld.closeChannelsForSession hasleep
        (fun nodeId other hcurrent hne => by simpa [hcurrent] using hne) reason
    exact ⟨hclosed, hasleep', hsettles.trans (settles_closeChannelsForSession id reason)⟩
  promote := by
    rintro current world nodeId id hnone ⟨hworld, hasleep, hsettles⟩
    refine ⟨hworld.mono fun other other' hcurrent => ?_, hasleep, hsettles⟩
    rw [Function.update_of_ne]
    · exact hcurrent
    · rintro rfl
      simp [hnone] at hcurrent
  replace := by
    rintro current world nodeId id previous hprevious ⟨hworld, hasleep, hsettles⟩
    have hkept (other : String) (other' : SessionId) (hcurrent : current other = some other')
        (hne : other' ≠ previous) : Function.update current nodeId (some id) other = some other' := by
      rw [Function.update_of_ne]
      · exact hcurrent
      · rintro rfl
        exact hne (Option.some.inj (hcurrent.symm.trans hprevious))
    obtain ⟨hclosed, hasleep'⟩ :
        Disciplined (Function.update current nodeId (some id))
          (world.closeChannelsForSession closeFlow previous "superseded") ∧
        Asleep (world.closeChannelsForSession closeFlow previous "superseded") :=
      hworld.closeChannelsForSession hasleep hkept "superseded"
    exact ⟨hclosed, hasleep', hsettles.trans (settles_closeChannelsForSession previous _)⟩

end ReverseChannelManager

namespace Hub

open ReverseSessionManager ReverseChannelManager

variable {Flows : Type*} {closeFlow : Flows → RequestId → String → Flows}
  {parseJson : Message → Option Json} {h : Hub Flows}

/-- What every run of a Hub keeps. -/
structure Ordered (h : Hub Flows) : Prop where
  sound : Sound h
  world : Disciplined h.current h.world

theorem ordered_initial (maxChannels : ℕ) (capacityWaitMs : ℤ) (flows : Flows) :
    Ordered (initial maxChannels capacityWaitMs flows) :=
  ⟨sound_initial _, disciplined_initial _ _ _ _⟩

theorem Ordered.session (hordered : Ordered h) (hquiet : h.world.quiet = true)
    (event : SessionEvent) :
    Ordered (ReverseSessionManager.step (onSessionClosed closeFlow) parseJson h event) ∧
      Asleep (ReverseSessionManager.step (onSessionClosed closeFlow) parseJson h event).world ∧
      Settles h.world
        (ReverseSessionManager.step (onSessionClosed closeFlow) parseJson h event).world := by
  have hrule : WorldRule (onSessionClosed closeFlow) fun current world =>
      Disciplined current world ∧ Asleep world ∧ Settles h.world world :=
    worldRule_disciplined h.world
  obtain ⟨hworld, hasleep, hsettles⟩ := hrule.step hordered.sound
    ⟨hordered.world, hordered.world.queue.asleep hquiet, .refl _⟩ event
  exact ⟨⟨hordered.sound.step event, hworld⟩, hasleep, hsettles⟩

theorem Ordered.getSessionInfo (hordered : Ordered h) (nodeId : String) :
    h.getSessionInfo nodeId =
      (h.current nodeId).map fun id => (id, (h.session id).keyId, (h.session id).routeReady) := by
  rw [ReverseSessionManager.getSessionInfo]
  cases hcurrent : h.current nodeId with
  | none => rfl
  | some id => simp [(hordered.sound.current nodeId id hcurrent).2]

theorem Ordered.channelUpgrade (hordered : Ordered h) (nodeId keyId : String)
    (boundSession : SessionId) :
    Ordered (channelUpgrade h nodeId keyId boundSession) ∧
      Settles h.world (channelUpgrade h nodeId keyId boundSession).world := by
  rw [Hub.channelUpgrade, hordered.getSessionInfo]
  cases hcurrent : h.current nodeId with
  | none => exact ⟨hordered, .refl _⟩
  | some id =>
    dsimp only [Option.map_some]
    split_ifs with hbound
    · exact ⟨hordered, .refl _⟩
    · rw [not_not] at hbound
      rw [← hbound] at hcurrent
      obtain ⟨habsent, hiff, hsuperseded, hcurrents, hready, hpending, hone⟩ := hordered.sound
      exact ⟨⟨⟨habsent, hiff, hsuperseded, hcurrents, hready, hpending, hone⟩,
        hordered.world.registerChannel hcurrent keyId⟩, settles_registerChannel _ _ _⟩

/-- A change of the world that keeps its rules. -/
theorem Ordered.world_step (hordered : Ordered h) {world : ReverseChannelManager Flows}
    (hworld : Disciplined h.current world) : Ordered { h with world } := by
  obtain ⟨habsent, hiff, hsuperseded, hcurrents, hready, hpending, hone⟩ := hordered.sound
  exact ⟨⟨habsent, hiff, hsuperseded, hcurrents, hready, hpending, hone⟩, hworld⟩

theorem Ordered.acquireChannel (hordered : Ordered h) (nodeId : String)
    (sessionId : Option SessionId) (now : Readings) :
    Ordered (acquireChannel h nodeId sessionId now) ∧
      Settles h.world (acquireChannel h nodeId sessionId now).world := by
  rw [Hub.acquireChannel]
  split_ifs with hsession
  · refine ⟨hordered.world_step (hordered.world.acquireChannel (fun id hid => ?_) now),
      settles_acquireChannel _ _ _⟩
    rw [hid, hordered.getSessionInfo] at hsession
    cases hcurrent : h.current nodeId with
    | none => simp [hcurrent] at hsession
    | some other => simpa [hcurrent, eq_comm] using hsession
  · exact ⟨hordered, .refl _⟩

theorem Ordered.onNodeDeleted (hordered : Ordered h) (hquiet : h.world.quiet = true)
    (nodeId reason : String) :
    Ordered (onNodeDeleted closeFlow h nodeId reason) ∧
      Settles h.world (onNodeDeleted closeFlow h nodeId reason).world := by
  obtain ⟨hclosed, -, hsettles⟩ := @Ordered.session _ closeFlow (fun _ => none) _ hordered hquiet
    (.closeSessionsForNode nodeId reason)
  exact ⟨hclosed.world_step (hclosed.world.closeChannelsForNode nodeId reason),
    hsettles.trans (settles_closeChannelsForNode nodeId reason)⟩

/-- Closing the channels of sessions keeps the rules while no request is woken. -/
theorem disciplined_foldl_onSessionClosed {current : String → Option SessionId}
    {world : ReverseChannelManager Flows} (hworld : Disciplined current world)
    (hasleep : Asleep world) (ids : List SessionId) (reason : String) :
    Disciplined current
        (ids.foldl (fun world id => onSessionClosed closeFlow world id reason) world) ∧
      Settles world
        (ids.foldl (fun world id => onSessionClosed closeFlow world id reason) world) := by
  induction ids generalizing world with
  | nil => exact ⟨hworld, .refl _⟩
  | cons id rest ih =>
    obtain ⟨hclosed, hasleep'⟩ :
        Disciplined current (world.closeChannelsForSession closeFlow id reason) ∧
        Asleep (world.closeChannelsForSession closeFlow id reason) :=
      hworld.closeChannelsForSession hasleep (fun _ _ hcurrent _ => hcurrent) reason
    obtain ⟨hrest, hsettles⟩ := ih hclosed hasleep'
    exact ⟨hrest, (settles_closeChannelsForSession id reason).trans hsettles⟩

theorem Ordered.onNodeCredentialRevoked (hordered : Ordered h) (hquiet : h.world.quiet = true)
    (nodeId keyId reason : String) :
    Ordered (onNodeCredentialRevoked closeFlow h nodeId keyId reason) ∧
      Settles h.world (onNodeCredentialRevoked closeFlow h nodeId keyId reason).world := by
  obtain ⟨hclosed, hasleep, hsettles⟩ := @Ordered.session _ closeFlow (fun _ => none) _ hordered
    hquiet (.closeSessionsForCredential nodeId keyId reason)
  rw [ReverseSessionManager.step] at hclosed hasleep hsettles
  rw [Hub.onNodeCredentialRevoked]
  generalize ReverseSessionManager.closeSessionsForCredential (onSessionClosed closeFlow) h nodeId
    keyId reason = result at *
  obtain ⟨ids, closed⟩ := result
  dsimp only at *
  obtain ⟨hwaiter, -, -, hrequest⟩ := @closeEach_frame _ closeFlow closed.world
    ((closed.world.channels nodeId).filter fun c => (closed.world.channel c).keyId = keyId) reason
  have hasleep' : Asleep (closed.world.closeChannelsForCredential closeFlow nodeId keyId reason) := by
    intro r w hphase
    rw [closeChannelsForCredential, hrequest] at hphase
    rw [closeChannelsForCredential, hwaiter]
    exact hasleep r w hphase
  obtain ⟨hworld, hsettles'⟩ := @disciplined_foldl_onSessionClosed _ closeFlow _ _
    (hclosed.world.closeChannelsForCredential nodeId keyId reason) hasleep' ids reason
  exact ⟨hclosed.world_step hworld,
    hsettles.trans ((settles_closeEach _ _).trans hsettles')⟩

/-- One event keeps the rules, and every waiter that is settled. -/
theorem Ordered.step (hordered : Ordered h) (event : HubEvent Flows) :
    Ordered (step closeFlow parseJson h event) ∧
      Settles h.world (step closeFlow parseJson h event).world := by
  cases event with
  | session event =>
    rw [Hub.step]
    split_ifs with hquiet
    · obtain ⟨hordered', -, hsettles⟩ := hordered.session hquiet event
      exact ⟨hordered', hsettles⟩
    · exact ⟨hordered, .refl _⟩
  | channelUpgrade nodeId keyId boundSession =>
    exact hordered.channelUpgrade nodeId keyId boundSession
  | acquireChannel nodeId sessionId now => exact hordered.acquireChannel nodeId sessionId now
  | channel event =>
    exact ⟨hordered.world_step (hordered.world.step event), settles_step event⟩
  | onNodeDeleted nodeId reason =>
    rw [Hub.step]
    split_ifs with hquiet
    · exact hordered.onNodeDeleted hquiet nodeId reason
    · exact ⟨hordered, .refl _⟩
  | onNodeCredentialRevoked nodeId keyId reason =>
    rw [Hub.step]
    split_ifs with hquiet
    · exact hordered.onNodeCredentialRevoked hquiet nodeId keyId reason
    · exact ⟨hordered, .refl _⟩

theorem ordered_run (hordered : Ordered h) (events : List (HubEvent Flows)) :
    Ordered (run closeFlow parseJson h events) ∧
      Settles h.world (run closeFlow parseJson h events).world := by
  induction events generalizing h with
  | nil => exact ⟨hordered, .refl _⟩
  | cons event rest ih =>
    obtain ⟨hstep, hsettles⟩ := @Ordered.step _ closeFlow parseJson _ hordered event
    obtain ⟨hrest, hsettles'⟩ := ih hstep
    exact ⟨hrest, hsettles.trans hsettles'⟩

/-! ### Bindings -/

/-- Open channels, and waiters that name a session, belong to the current ready session
of their node; nothing belongs to a session that is not ready. -/
structure ChannelBinding (h : Hub Flows) : Prop where
  channel : ∀ c, (h.world.channel c).closed = false →
    ∃ info, h.getSessionInfo (h.world.channel c).nodeId = some ((h.world.channel c).sessionId, info)
  waiter : ∀ nodeId, ∀ w ∈ h.world.idleWaiters nodeId, ∀ id,
    (h.world.waiter w).sessionId = some id → ∃ info, h.getSessionInfo nodeId = some (id, info)
  gone : ∀ id, (h.session id).state ≠ .ready →
    (∀ c, (h.world.channel c).closed = false → (h.world.channel c).sessionId ≠ id) ∧
      ∀ nodeId, ∀ w ∈ h.world.idleWaiters nodeId, (h.world.waiter w).sessionId ≠ some id

/-- What the deletion of a node and the revocation of a credential leave. -/
structure ClosingRules (h : Hub Flows) (event : HubEvent Flows) (h' : Hub Flows) : Prop where
  deleted : ∀ nodeId reason, event = .onNodeDeleted nodeId reason → h.world.quiet = true →
    h'.getSessionInfo nodeId = none ∧ h'.world.channels nodeId = [] ∧
      h'.world.idleWaiters nodeId = []
  revoked : ∀ nodeId keyId reason, event = .onNodeCredentialRevoked nodeId keyId reason →
    h.world.quiet = true →
    (∀ id key routeReady, h'.getSessionInfo nodeId = some (id, key, routeReady) → key ≠ keyId) ∧
      ∀ c ∈ h'.world.channels nodeId, (h'.world.channel c).keyId ≠ keyId

theorem Ordered.channelBinding (hordered : Ordered h) : ChannelBinding h := by
  have hchannel (c : ChannelId) (hopen : (h.world.channel c).closed = false) :
      h.current (h.world.channel c).nodeId = some (h.world.channel c).sessionId :=
    hordered.world.bound.channel c hopen
  have hwaiter (nodeId : String) (w : WaiterId) (hw : w ∈ h.world.idleWaiters nodeId)
      (id : SessionId) (hid : (h.world.waiter w).sessionId = some id) :
      h.current nodeId = some id := by
    obtain ⟨hsettled, hnode⟩ := (hordered.world.queue.queued nodeId w).mp hw
    obtain ⟨r, hphase⟩ := hordered.world.queue.owner w hsettled
    obtain ⟨-, -, hnode', hsession⟩ := hordered.world.queue.waiting r w hphase
    have hcurrent := hordered.world.bound.request r w id hphase (.inl hsettled)
      (hsession.symm.trans hid)
    rwa [← hnode', hnode] at hcurrent
  constructor
  · intro c hopen
    rw [hordered.getSessionInfo, hchannel c hopen]
    exact ⟨_, rfl⟩
  · intro nodeId w hw id hid
    rw [hordered.getSessionInfo, hwaiter nodeId w hw id hid]
    exact ⟨_, rfl⟩
  · intro id hstate
    refine ⟨fun c hopen hsession => ?_, fun nodeId w hw hid => ?_⟩
    · exact hstate (hordered.sound.current _ id (hsession ▸ hchannel c hopen)).2
    · exact hstate (hordered.sound.current _ id (hwaiter nodeId w hw id hid)).2

theorem none_of_onNodeDeleted (hordered : Ordered h) (hquiet : h.world.quiet = true)
    (nodeId reason : String) :
    (onNodeDeleted closeFlow h nodeId reason).getSessionInfo nodeId = none ∧
      (onNodeDeleted closeFlow h nodeId reason).world.channels nodeId = [] ∧
      (onNodeDeleted closeFlow h nodeId reason).world.idleWaiters nodeId = [] := by
  obtain ⟨hclosed, -⟩ := @Ordered.session _ closeFlow (fun _ => none) _ hordered hquiet
    (.closeSessionsForNode nodeId reason)
  refine ⟨?_, hclosed.world.none_of_closeChannelsForNode nodeId reason⟩
  rw [(hordered.onNodeDeleted hquiet nodeId reason).1.getSessionInfo]
  have hcurrent (other : SessionId) :
      (onNodeDeleted closeFlow h nodeId reason).current nodeId ≠ some other := by
    intro hother
    have hfirst : Follows h
        (h.closeEach (onSessionClosed closeFlow) (h.current nodeId).toList reason) :=
      follows_closeEach hordered.sound _ _
    obtain ⟨hother', -⟩ := (hfirst.sound.current_closeEach _ _ _ _).mp hother
    obtain ⟨hother'', hnot⟩ := (hordered.sound.current_closeEach _ _ _ _).mp hother'
    exact hnot (by simp [hother''])
  cases hnone : (onNodeDeleted closeFlow h nodeId reason).current nodeId with
  | none => rfl
  | some other => exact absurd hnone (hcurrent other)

/-- Closing the channels of sessions opens none and gives none another key. -/
theorem channel_foldl_onSessionClosed (ids : List SessionId) (reason : String)
    (world : ReverseChannelManager Flows) (c : ChannelId) :
    let after := ids.foldl (fun world id => onSessionClosed closeFlow world id reason) world
    ((after.channel c).closed = false → (world.channel c).closed = false) ∧
      (after.channel c).nodeId = (world.channel c).nodeId ∧
      (after.channel c).keyId = (world.channel c).keyId := by
  induction ids generalizing world with
  | nil => exact ⟨id, rfl, rfl⟩
  | cons sessionId rest ih =>
    obtain ⟨hopen, hnode, hkey⟩ := ih (world.closeChannelsForSession closeFlow sessionId reason)
    let closing := world.closeEach closeFlow (world.channelsOfSession sessionId) reason
    have hchannel : (world.closeChannelsForSession closeFlow sessionId reason).channel =
        closing.channel := (settleEach_frame _ _).1
    rw [hchannel] at hopen hnode hkey
    obtain ⟨hnode', -, hkey'⟩ :=
      @channel_closeEach _ closeFlow world (world.channelsOfSession sessionId) reason c
    refine ⟨fun hafter => ?_, hnode.trans hnode', hkey.trans hkey'⟩
    rw [← Bool.not_eq_true]
    intro hclosed
    have hstill : (closing.channel c).closed = true := (closed_closeEach reason).mpr (.inr hclosed)
    simp [hopen hafter] at hstill

theorem none_of_onNodeCredentialRevoked (hordered : Ordered h) (hquiet : h.world.quiet = true)
    (nodeId keyId reason : String) :
    (∀ id key routeReady, (onNodeCredentialRevoked closeFlow h nodeId keyId reason).getSessionInfo
      nodeId = some (id, key, routeReady) → key ≠ keyId) ∧
    ∀ c ∈ (onNodeCredentialRevoked closeFlow h nodeId keyId reason).world.channels nodeId,
      ((onNodeCredentialRevoked closeFlow h nodeId keyId reason).world.channel c).keyId ≠ keyId := by
  have hafter : Ordered (onNodeCredentialRevoked closeFlow h nodeId keyId reason) :=
    (hordered.onNodeCredentialRevoked hquiet nodeId keyId reason).1
  let matching := h.sessionsForCredential nodeId keyId
  let closed : Hub Flows := h.closeEach (onSessionClosed closeFlow) matching reason
  obtain ⟨hclosed, -⟩ : Ordered closed ∧ _ := @Ordered.session _ closeFlow (fun _ => none) _
    hordered hquiet (.closeSessionsForCredential nodeId keyId reason)
  constructor
  · intro id key routeReady hinfo
    rw [hafter.getSessionInfo] at hinfo
    have hcurrent : closed.current nodeId = some id ∧ (closed.session id).keyId = key := by
      cases hcurrent : closed.current nodeId with
      | none =>
        have : (onNodeCredentialRevoked closeFlow h nodeId keyId reason).current nodeId = none :=
          hcurrent
        simp [this] at hinfo
      | some other =>
        have : (onNodeCredentialRevoked closeFlow h nodeId keyId reason).current nodeId =
          some other := hcurrent
        rw [this] at hinfo
        obtain ⟨rfl, hkey⟩ := Prod.mk.inj (Option.some.inj hinfo)
        exact ⟨rfl, (Prod.mk.inj hkey).1⟩
    obtain ⟨hcurrent, hkey⟩ := hcurrent
    obtain ⟨hold, hnot⟩ := (hordered.sound.current_closeEach _ _ _ _).mp hcurrent
    have hsame : closed.session id = h.session id := session_closeEach hnot reason
    rw [← hkey, hsame]
    rintro hmatch
    apply hnot
    simp [matching, sessionsForCredential, hold, hmatch]
  · intro c hc hkey
    obtain ⟨hopen, hnode⟩ := (hafter.world.pool.pooled nodeId c).mp hc
    let world := closed.world.closeChannelsForCredential closeFlow nodeId keyId reason
    obtain ⟨hopen', hnode', hkey'⟩ : ((_ : Bool) = false → (world.channel c).closed = false) ∧
        (_ : String) = (world.channel c).nodeId ∧ (_ : String) = (world.channel c).keyId :=
      @channel_foldl_onSessionClosed _ closeFlow matching reason world c
    obtain ⟨hnode'', -, hkey''⟩ := @channel_closeEach _ closeFlow closed.world
      ((closed.world.channels nodeId).filter fun c => (closed.world.channel c).keyId = keyId)
      reason c
    have hgone : (world.channel c).closed = true :=
      closed_closeChannelsForCredential hclosed.world.pool
        (hnode''.symm.trans (hnode'.symm.trans hnode)) (hkey''.symm.trans (hkey'.symm.trans hkey))
        reason
    rw [hopen' hopen] at hgone
    cases hgone

/-- Every run of a Hub binds its channels and waiters to the current sessions. -/
theorem channels_bound (closeFlow : Flows → RequestId → String → Flows)
    (parseJson : Message → Option Json) (maxChannels : ℕ) (capacityWaitMs : ℤ) (flows : Flows)
    (events : List (HubEvent Flows)) :
    let h := run closeFlow parseJson (initial maxChannels capacityWaitMs flows) events
    ChannelBinding h ∧ ∀ event, ClosingRules h event (step closeFlow parseJson h event) := by
  intro h
  have hordered : Ordered h := (ordered_run (ordered_initial _ _ _) events).1
  refine ⟨hordered.channelBinding, fun event => ⟨?_, ?_⟩⟩
  · rintro nodeId reason rfl hquiet
    rw [Hub.step, if_pos hquiet]
    exact none_of_onNodeDeleted hordered hquiet nodeId reason
  · rintro nodeId keyId reason rfl hquiet
    rw [Hub.step, if_pos hquiet]
    exact none_of_onNodeCredentialRevoked hordered hquiet nodeId keyId reason

/-! ### Pools and waiters -/

/-- The pools and the queues of waiters. -/
structure PoolDiscipline (maxChannels : ℕ) (m : ReverseChannelManager Flows) : Prop where
  bounded : ∀ nodeId, (m.channels nodeId).length ≤ maxChannels
  opened : ∀ nodeId, ∀ c ∈ m.channels nodeId, (m.channel c).closed = false
  queued : ∀ nodeId w, w ∈ m.idleWaiters nodeId ↔
    (m.waiter w).settled = none ∧ (m.waiter w).nodeId = nodeId
  queued_once : ∀ nodeId, (m.idleWaiters nodeId).Nodup
  owner : ∀ nodeId, ∀ w ∈ m.idleWaiters nodeId, ∃ r, (m.request r).phase = .waiting w
  /-- Once every woken request has gone on, no queued waiter takes an idle channel. -/
  served : m.quiet = true → ∀ nodeId, ∀ w ∈ m.idleWaiters nodeId, ∀ c ∈ m.channels nodeId,
    ¬((m.channel c).state = .idle ∧ (m.waiter w).takes (m.channel c).sessionId = true)

/-- A waiter is settled once, by its time or its browser if by nothing else. -/
structure WaiterRules (closeFlow : Flows → RequestId → String → Flows)
    (parseJson : Message → Option Json) (h : Hub Flows) : Prop where
  once : ∀ event, ∀ w < h.world.waiterCount, (h.world.waiter w).settled ≠ none →
    (step closeFlow parseJson h event).world.waiter w = h.world.waiter w
  ended : ∀ w, ∀ event ∈ [ChannelEvent.waiterTimeout w, .waiterAbort w], ∀ nodeId,
    ((step closeFlow parseJson h (.channel event)).world.waiter w).settled ≠ none ∧
      w ∉ (step closeFlow parseJson h (.channel event)).world.idleWaiters nodeId

theorem Ordered.poolDiscipline (hordered : Ordered h) :
    PoolDiscipline h.world.maxChannels h.world := by
  obtain ⟨hpool, hqueue, -, hserved⟩ := hordered.world
  refine ⟨hpool.bounded, fun nodeId c hc => ((hpool.pooled nodeId c).mp hc).1, hqueue.queued,
    hqueue.nodup, fun nodeId w hw => hqueue.owner w ((hqueue.queued nodeId w).mp hw).1, ?_⟩
  rintro hquiet nodeId w hw c hc ⟨hidle, -⟩
  obtain ⟨hopen, hnode⟩ := (hpool.pooled nodeId c).mp hc
  have hempty : h.world.wokenSet nodeId = ∅ := by
    apply Finset.eq_empty_of_forall_notMem
    intro r hr
    obtain ⟨other, hphase, hresolved⟩ := woken_iff.mp ((mem_wokenSet hqueue).mp hr).2
    exact hqueue.asleep hquiet r other hphase hresolved
  have hle := hserved nodeId (List.ne_nil_of_mem hw)
  rw [hempty, Finset.card_empty, Nat.le_zero, Finset.card_eq_zero] at hle
  have hmem := (mem_idleSet hpool).mpr ⟨hopen, hidle, hnode⟩
  simp [hle] at hmem

/-- In every run of a Hub the pools are bounded, every waiter is settled once, and no
wake-up is lost. -/
theorem pool_discipline (closeFlow : Flows → RequestId → String → Flows)
    (parseJson : Message → Option Json) (maxChannels : ℕ) (capacityWaitMs : ℤ) (flows : Flows)
    (events : List (HubEvent Flows)) :
    let h := run closeFlow parseJson (initial maxChannels capacityWaitMs flows) events
    PoolDiscipline maxChannels h.world ∧ WaiterRules closeFlow parseJson h := by
  intro h
  obtain ⟨hordered, hsettles⟩ : Ordered h ∧ Settles _ h.world :=
    ordered_run (ordered_initial maxChannels capacityWaitMs flows) events
  have hmax : h.world.maxChannels = maxChannels := hsettles.maxChannels
  refine ⟨hmax ▸ hordered.poolDiscipline, fun event w hw hsettled => ?_, fun w event hevent => ?_⟩
  · exact (hordered.step event).2.waiter w hw hsettled
  · have hended (settlement : Settlement) (nodeId : String) :
        ((h.world.settle w settlement).waiter w).settled ≠ none ∧
          w ∉ (h.world.settle w settlement).idleWaiters nodeId := by
      have hsettled : ((h.world.settle w settlement).waiter w).settled ≠ none := by
        rw [waiter_settle]
        split_ifs with hnone
        · simp
        · simpa using hnone
      refine ⟨hsettled, fun hmem => hsettled ?_⟩
      exact (((hordered.world.queue.settle w settlement).queued nodeId w).mp hmem).1
    simp only [List.mem_cons, List.not_mem_nil, or_false] at hevent
    rcases hevent with rfl | rfl
    · exact hended .resolved
    · exact hended (.rejected .browserAbort)

end Hub

end DshOrbit.ReverseHub
