import DshOrbit.ReverseHub.Binding

/-!
# Credentials of reverse connections

A control session and a data channel keep the node and the key that they were authenticated with
for as long as they are open. The server closes them when the node is deleted and when the key is
revoked, whatever else is under way at the Hub.

## Main definitions

- `Placed` — a session that is pending or current under its node
- `Narrows` — what an event leaves of the sessions that are there
- `Hub.Held` — every open connection has a credential that is admitted

## Main results

- `Hub.Held.session`, `Hub.Held.registerUpgrade`, `Hub.Held.channelUpgrade`
- `Hub.Held.onNodeDeleted`, `Hub.Held.onNodeCredentialRevoked` — no connection is left out
-/

namespace DshOrbit.ReverseHub

open DshOrbit.Lib DshOrbit.ReverseWs

/-! ### Sessions -/

namespace ReverseSessionManager

variable {World : Type*} {onSessionClosed : World → SessionId → String → World}
  {parseJson : Message → Option Json} {m m' : ReverseSessionManager World}

theorem keyId_modify (id other : SessionId) {f : ReverseSession → ReverseSession}
    (hf : ∀ s, (f s).keyId = s.keyId) :
    ((m.modify id f).session other).keyId = (m.session other).keyId := by
  rw [session_modify]
  split_ifs
  · exact hf _
  · rfl

theorem keyId_close (id other : SessionId) (reason : String) :
    ((m.close onSessionClosed id reason).session other).keyId = (m.session other).keyId := by
  by_cases hid : other = id
  · subst hid
    cases hclosed : (m.session other).closed with
    | true => rw [close_of_closed hclosed]
    | false => simp [close_of_open hclosed]
  · rw [session_close_of_ne hid]

theorem keyId_promote (id other : SessionId) :
    ((m.promote onSessionClosed id).session other).keyId = (m.session other).keyId := by
  have hready := @keyId_modify _ m id other
    (fun s => { s with readyTimer := false, state := .ready }) fun _ => rfl
  simp only [promote]
  split_ifs
  · rfl
  · split
    · exact hready
    · split_ifs
      · exact hready
      · rw [keyId_close, keyId_modify]
        · exact hready
        · exact fun _ => rfl

theorem keyId_onControlMessage (id other : SessionId) (message : Message) :
    ((m.onControlMessage onSessionClosed parseJson id message).session other).keyId =
      (m.session other).keyId := by
  have hroute : ∀ routeReady, ((m.modify id fun s => { s with routeReady }).session other).keyId =
      (m.session other).keyId := fun _ => keyId_modify id other fun _ => rfl
  rw [onControlMessage]
  split
  · rfl
  · split
    · exact keyId_close ..
    · exact keyId_close ..
    · split_ifs
      · exact keyId_close ..
      · exact keyId_close ..
      · exact (keyId_promote ..).trans (hroute _)
    · split
      · exact keyId_close ..
      · split
        · exact keyId_close ..
        · exact hroute _
    · exact keyId_close ..

theorem keyId_onParserEvent (id other : SessionId) (event : ParserEvent) :
    ((m.onParserEvent onSessionClosed parseJson id event).session other).keyId =
      (m.session other).keyId := by
  cases event with
  | message message => exact keyId_onControlMessage ..
  | ping payload => rfl
  | pong payload =>
    exact @keyId_modify _ m id other (fun s => { s with awaitingPong := false }) fun _ => rfl
  | close code => exact keyId_close ..
  | error message => exact keyId_close ..

/-- The session is pending or current under its node. -/
def Placed (m : ReverseSessionManager World) (id : SessionId) : Prop :=
  id ∈ m.pending (m.session id).nodeId ∨ m.current (m.session id).nodeId = some id

/-- What every event but a new connection leaves of the sessions. -/
structure Narrows (m m' : ReverseSessionManager World) : Prop where
  nodeId : ∀ id, (m'.session id).nodeId = (m.session id).nodeId
  keyId : ∀ id, (m'.session id).keyId = (m.session id).keyId
  opened : ∀ id, (m'.session id).closed = false → (m.session id).closed = false
  placed : ∀ id, (m'.session id).closed = false → m.Placed id → m'.Placed id

theorem Narrows.refl (m : ReverseSessionManager World) : Narrows m m :=
  ⟨fun _ => rfl, fun _ => rfl, fun _ h => h, fun _ _ h => h⟩

theorem Narrows.trans {m'' : ReverseSessionManager World} (h : Narrows m m')
    (h' : Narrows m' m'') : Narrows m m'' where
  nodeId id := (h'.nodeId id).trans (h.nodeId id)
  keyId id := (h'.keyId id).trans (h.keyId id)
  opened id hopen := h.opened id (h'.opened id hopen)
  placed id hopen hplaced := h'.placed id hopen (h.placed id (h'.opened id hopen) hplaced)

theorem narrows_modify (id : SessionId) {f : ReverseSession → ReverseSession} (hf : Harmless f)
    (hkey : ∀ other, ((m.modify id f).session other).keyId = (m.session other).keyId) :
    Narrows m (m.modify id f) where
  nodeId other := (hf.session m id other).1
  keyId := hkey
  opened other hopen := (hf.session m id other).2.2.1.symm.trans hopen
  placed other _ hplaced := by
    rw [Placed, (hf.session m id other).1]
    exact hplaced

theorem Sound.narrows_close (h : Sound m) (id : SessionId) (reason : String) :
    Narrows m (m.close onSessionClosed id reason) := by
  have hself := @closed_close _ onSessionClosed m id reason
  refine ⟨fun other => nodeId_close id other reason, fun other => keyId_close id other reason,
    fun other hopen => ?_, fun other hopen hplaced => ?_⟩
  · have hne : other ≠ id := by
      rintro rfl
      rw [hself] at hopen
      cases hopen
    rwa [session_close_of_ne hne] at hopen
  · have hne : other ≠ id := by
      rintro rfl
      rw [hself] at hopen
      cases hopen
    rw [Placed, nodeId_close, h.pending_close, h.current_close]
    refine hplaced.imp (fun hpending => ?_) fun hcurrent => ?_
    · exact List.mem_filter.mpr ⟨hpending, by simpa using hne⟩
    · rw [hcurrent, if_neg]
      simpa using hne

theorem Sound.narrows_promote (h : Sound m) {id : SessionId}
    (hopen : (m.session id).closed = false) (hstate : (m.session id).state ≠ .ready) :
    Narrows m (m.promote onSessionClosed id) := by
  have hpromotes : Promotes m id (m.promote onSessionClosed id) := h.promotes hopen hstate
  have hfollows : Follows m (m.promote onSessionClosed id) := follows_promote h hopen hstate
  -- a session that is still open was not replaced
  have hkept : ∀ other, ((m.promote onSessionClosed id).session other).closed = false →
      other ≠ id → m.current (m.session id).nodeId ≠ some other := by
    intro other hother hid hcurrent
    rw [hpromotes.replaced other hcurrent hid] at hother
    cases hother
  refine ⟨hfollows.nodeId, fun other => keyId_promote id other, fun other hother => ?_,
    fun other hother hplaced => ?_⟩
  · by_cases hid : other = id
    · rw [hid]
      exact hopen
    · rwa [hpromotes.kept other (hkept other hother hid) hid] at hother
  · rw [Placed, hfollows.nodeId, hpromotes.pending, hpromotes.current]
    by_cases hid : other = id
    · subst hid
      exact .inr (Function.update_self ..)
    · have hcurrent := hkept other hother hid
      refine hplaced.imp (fun hpending => ?_) fun hplace => ?_
      · exact List.mem_filter.mpr ⟨hpending, decide_eq_true ⟨hid, hcurrent⟩⟩
      · rw [Function.update_of_ne]
        · exact hplace
        · intro hnode
          rw [hnode] at hplace
          exact hcurrent hplace

theorem Sound.narrows_onParserEvent (h : Sound m) (id : SessionId) (event : ParserEvent) :
    Narrows m (m.onParserEvent onSessionClosed parseJson id event) := by
  have hkey := fun other => @keyId_onParserEvent _ onSessionClosed parseJson m id other event
  rcases @Sound.onParserEvent_cases _ onSessionClosed parseJson _ h id event
    with ⟨f, hf, heq, -⟩ | ⟨-, ⟨reason, heq⟩, -⟩ | ⟨hopen, hpending, ⟨f, hf, heq⟩, -⟩
  · rw [heq] at hkey ⊢
    exact narrows_modify id hf hkey
  · rw [heq]
    exact h.narrows_close id reason
  · obtain ⟨-, hstate, hclosed, -⟩ := hf.session m id id
    have hnot : ((m.modify id f).session id).state ≠ .ready := by simp [hstate, hpending]
    rw [heq] at hkey ⊢
    refine (narrows_modify id hf fun other => ?_).trans
      ((h.modify id hf).narrows_promote (hclosed.trans hopen) hnot)
    exact (keyId_promote id other).symm.trans (hkey other)

theorem Sound.narrows_parse (h : Sound m) (id : SessionId) (chunk : Buffer) :
    Narrows m (m.parse onSessionClosed parseJson id chunk) := by
  have hfold : ∀ (events : List ParserEvent) (m : ReverseSessionManager World), Sound m →
      Narrows m (events.foldl (onParserEvent onSessionClosed parseJson id) m) := by
    intro events
    induction events with
    | nil => exact fun m _ => .refl m
    | cons event rest ih =>
      intro m h
      have hnext : Follows m (m.onParserEvent onSessionClosed parseJson id event) :=
        (h.follows_onParserEvent id event).1
      exact (h.narrows_onParserEvent id event).trans (ih _ hnext.sound)
  have hparse (state : ParserState) : Harmless fun s => { s with parse := state } :=
    fun _ => ⟨rfl, rfl, rfl, rfl⟩
  rw [ReverseSessionManager.parse]
  exact (narrows_modify id (hparse _) fun other => keyId_modify id other fun _ => rfl).trans
    (hfold _ _ (h.modify id (hparse _)))

theorem Sound.narrows_closeEach (h : Sound m) (ids : List SessionId) (reason : String) :
    Narrows m (m.closeEach onSessionClosed ids reason) := by
  induction ids generalizing m with
  | nil => exact .refl m
  | cons id rest ih => exact (h.narrows_close id reason).trans (ih (h.close id reason))

theorem closed_of_closed {ids : List SessionId} {reason : String} {id : SessionId}
    (h : (m.session id).closed = true) :
    ((m.closeEach onSessionClosed ids reason).session id).closed = true := by
  induction ids generalizing m with
  | nil => exact h
  | cons other rest ih =>
    refine ih ?_
    by_cases hid : id = other
    · rw [hid]
      exact closed_close other reason
    · rwa [session_close_of_ne hid]

theorem closed_closeEach {ids : List SessionId} {reason : String} {id : SessionId} (h : id ∈ ids) :
    ((m.closeEach onSessionClosed ids reason).session id).closed = true := by
  induction ids generalizing m with
  | nil => cases h
  | cons other rest ih =>
    rcases List.mem_cons.mp h with rfl | hrest
    · rw [closeEach_cons]
      exact closed_of_closed (closed_close id reason)
    · exact ih hrest

theorem Sound.narrows_step (h : Sound m) {event : SessionEvent}
    (hevent : ∀ nodeId keyId head, event ≠ .registerUpgrade nodeId keyId head) :
    Narrows m (m.step onSessionClosed parseJson event) := by
  cases event with
  | registerUpgrade nodeId keyId head => exact absurd rfl (hevent nodeId keyId head)
  | data id chunk => exact h.narrows_parse id chunk
  | socketClosed id reason => exact h.narrows_close id reason
  | readyTimeout id =>
    simp only [ReverseSessionManager.step]
    split_ifs
    · exact h.narrows_close id _
    · exact .refl m
  | pingTick id =>
    simp only [ReverseSessionManager.step]
    split_ifs
    · exact .refl m
    · exact narrows_modify id (fun _ => ⟨rfl, rfl, rfl, rfl⟩) fun other =>
        keyId_modify id other fun _ => rfl
  | pongTimeout id =>
    simp only [ReverseSessionManager.step]
    split_ifs
    · exact h.narrows_close id _
    · exact .refl m
  | closeSessionsForNode nodeId reason =>
    have hcurrent : Narrows m (m.closeEach onSessionClosed (m.current nodeId).toList reason) :=
      h.narrows_closeEach _ _
    have hsound := (@follows_closeEach _ onSessionClosed m h (m.current nodeId).toList reason).sound
    exact hcurrent.trans (hsound.narrows_closeEach _ reason)
  | closeSessionsForCredential nodeId keyId reason => exact h.narrows_closeEach _ reason

/-! ### New sessions -/

theorem placed_construct {nodeId keyId : String} {id : SessionId} (hid : id ≠ m.count)
    (h : m.Placed id) : (m.construct nodeId keyId).Placed id := by
  rw [Placed, session_construct_of_ne hid]
  exact h

/-- Once a connection has arrived, the open sessions are its own and some that were there. -/
theorem Sound.narrows_arrive (h : Sound m) (nodeId keyId : String) (head : Buffer) :
    Narrows (m.construct nodeId keyId) (m.arrive onSessionClosed parseJson nodeId keyId head) := by
  rw [ReverseSessionManager.arrive]
  split_ifs
  · exact (h.construct nodeId keyId).narrows_parse m.count head
  · exact .refl _

/-- An open session after a new connection was there before, with the same credential, or is the
new one. -/
theorem Sound.session_registerUpgrade (h : Sound m) {nodeId keyId : String} {head : Buffer}
    {id : SessionId}
    (hopen : ((m.registerUpgrade onSessionClosed parseJson nodeId keyId head).session id).closed =
      false) :
    let m' := m.registerUpgrade onSessionClosed parseJson nodeId keyId head
    ((m.session id).closed = false ∧ (m'.session id).nodeId = (m.session id).nodeId ∧
        (m'.session id).keyId = (m.session id).keyId ∧ (m.Placed id → m'.Placed id)) ∨
      ((m'.session id).nodeId = nodeId ∧ (m'.session id).keyId = keyId ∧ m'.Placed id) := by
  intro m'
  have hbounded : Narrows m (m.closeEach onSessionClosed (m.pending nodeId) "superseded-pending") :=
    h.narrows_closeEach _ _
  have hsound := (@follows_closeEach _ onSessionClosed _ h (m.pending nodeId)
    "superseded-pending").sound
  have hm' : m' = m.registerUpgrade onSessionClosed parseJson nodeId keyId head := rfl
  rw [← hm'] at hopen
  rw [registerUpgrade_eq] at hm'
  dsimp only at hm'
  generalize m.closeEach onSessionClosed (m.pending nodeId) "superseded-pending" = bounded at *
  have harrived : Narrows (bounded.construct nodeId keyId)
      (bounded.arrive onSessionClosed parseJson nodeId keyId head) :=
    hsound.narrows_arrive nodeId keyId head
  generalize bounded.arrive onSessionClosed parseJson nodeId keyId head = arrived at *
  -- the pending list only grows, and the new session is on it unless it is closed
  have hsession : m'.session = arrived.session := by
    rw [hm']
    split_ifs
    · rfl
    · rfl
  have hstays : ∀ other, arrived.Placed other → m'.Placed other := by
    intro other hplaced
    rw [Placed, hsession, hm']
    split_ifs
    · exact hplaced
    · refine hplaced.imp_left fun hpending => ?_
      dsimp only
      by_cases hnode : (arrived.session other).nodeId = nodeId
      · rw [hnode] at hpending ⊢
        rw [Function.update_self]
        exact List.mem_append_left _ hpending
      · rwa [Function.update_of_ne hnode]
  rw [hsession] at hopen ⊢
  have hconstructed := harrived.opened id hopen
  have hnode := harrived.nodeId id
  have hkey := harrived.keyId id
  by_cases hid : id = bounded.count
  · right
    have hself : (bounded.construct nodeId keyId).session id = { nodeId, keyId } := by
      simp [ReverseSessionManager.construct, hid]
    rw [hself] at hnode hkey
    refine ⟨hnode, hkey, .inl ?_⟩
    rw [hsession, hnode, hm', if_neg]
    · show id ∈ Function.update arrived.pending nodeId _ nodeId
      rw [Function.update_self, ← hid]
      exact List.mem_append_right _ (List.mem_singleton_self id)
    · rw [← hid, hopen]
      rintro ⟨-, hclosed⟩
      cases hclosed
  · left
    rw [session_construct_of_ne hid] at hconstructed hnode hkey
    refine ⟨hbounded.opened id hconstructed, hnode.trans (hbounded.nodeId id),
      hkey.trans (hbounded.keyId id), fun hplaced => hstays id ?_⟩
    exact harrived.placed id hopen (placed_construct hid (hbounded.placed id hconstructed hplaced))

end ReverseSessionManager

/-! ### Channels -/

namespace ReverseChannelManager

variable {Flows : Type*} {closeFlow : Flows → RequestId → String → Flows}
  {m m' : ReverseChannelManager Flows}

/-- Every channel that is open after was open before, with the same credential. -/
def Shrinks (m m' : ReverseChannelManager Flows) : Prop :=
  ∀ c, (m'.channel c).closed = false → (m.channel c).closed = false ∧
    (m'.channel c).nodeId = (m.channel c).nodeId ∧ (m'.channel c).keyId = (m.channel c).keyId

theorem Shrinks.refl (m : ReverseChannelManager Flows) : Shrinks m m :=
  fun _ hopen => ⟨hopen, rfl, rfl⟩

theorem Shrinks.trans {m'' : ReverseChannelManager Flows} (h : Shrinks m m')
    (h' : Shrinks m' m'') : Shrinks m m'' := by
  intro c hopen
  obtain ⟨hopen', hnode', hkey'⟩ := h' c hopen
  obtain ⟨hopen'', hnode, hkey⟩ := h c hopen'
  exact ⟨hopen'', hnode'.trans hnode, hkey'.trans hkey⟩

theorem shrinks_of_eq (h : m'.channel = m.channel) : Shrinks m m' := by
  intro c hopen
  rw [h] at hopen ⊢
  exact ⟨hopen, rfl, rfl⟩

theorem shrinks_modifyChannel (c : ChannelId) {f : ReverseChannel → ReverseChannel}
    (hf : Stays f) (hkey : ∀ channel, (f channel).keyId = channel.keyId) :
    Shrinks m (m.modifyChannel c f) := by
  intro other hopen
  obtain ⟨hnode, -, hclosed⟩ := hf.channel (m := m) c other
  refine ⟨hclosed.symm.trans hopen, hnode, ?_⟩
  rw [channel_modifyChannel]
  split_ifs with hc
  · rw [hc]
    exact hkey _
  · rfl

theorem shrinks_settle (w : WaiterId) (settlement : Settlement) :
    Shrinks m (m.settle w settlement) :=
  shrinks_of_eq (settle_frame w settlement).2.1

theorem channel_resolveIdleWaiters (nodeId : String) (sessionId : SessionId) :
    (m.resolveIdleWaiters nodeId sessionId).channel = m.channel := by
  rw [resolveIdleWaiters]
  split
  · rfl
  · exact (settle_frame _ _).2.1

theorem shrinks_closeEach (cs : List ChannelId) (reason : String) :
    Shrinks m (m.closeEach closeFlow cs reason) := by
  intro c hopen
  obtain ⟨hnode, -, hkey⟩ := @channel_closeEach _ closeFlow m cs reason c
  refine ⟨?_, hnode, hkey⟩
  by_contra hclosed
  rw [Bool.not_eq_false] at hclosed
  rw [(closed_closeEach reason).mpr (.inr hclosed)] at hopen
  cases hopen

theorem shrinks_claimOrWait (r : RequestId) (now : ℤ) : Shrinks m (m.claimOrWait r now) := by
  rw [claimOrWait]
  split
  · rename_i c m' hclaim
    obtain ⟨-, -, rfl⟩ := claimIdleChannel_some hclaim
    have hbusy : Shrinks m (m.modifyChannel c fun channel => { channel with state := .busy }) :=
      shrinks_modifyChannel c (fun _ => ⟨rfl, rfl, rfl⟩) fun _ => rfl
    exact hbusy.trans (shrinks_of_eq rfl)
  · rw [wait_eq]
    split_ifs
    · exact shrinks_of_eq rfl
    · exact shrinks_of_eq rfl

theorem shrinks_acquireChannel (nodeId : String) (sessionId : Option SessionId)
    (now : Readings) : Shrinks m (m.acquireChannel nodeId sessionId now) := by
  rw [acquireChannel_eq]
  have harrive : Shrinks m (m.arrive nodeId sessionId (now 0)) := shrinks_of_eq rfl
  exact harrive.trans (shrinks_claimOrWait _ _)

theorem shrinks_step (event : ChannelEvent Flows) : Shrinks m (m.step closeFlow event) := by
  cases event with
  | resume r now =>
    rw [step, resume]
    split
    · split
      · exact .refl m
      · exact shrinks_claimOrWait r _
      · exact shrinks_of_eq rfl
    · exact .refl m
  | waiterTimeout w => exact shrinks_settle w _
  | waiterAbort w => exact shrinks_settle w _
  | markBusy c flow =>
    have hbusy : Shrinks m (m.modifyChannel c fun channel =>
        { channel with state := .busy, flow := some flow }) :=
      shrinks_modifyChannel c (fun _ => ⟨rfl, rfl, rfl⟩) fun _ => rfl
    exact hbusy
  | markIdle c =>
    rw [step]
    split_ifs
    · exact .refl m
    · have hidle : Shrinks m (m.modifyChannel c fun channel =>
          { channel with flow := none, state := .idle }) :=
        shrinks_modifyChannel c (fun _ => ⟨rfl, rfl, rfl⟩) fun _ => rfl
      exact hidle.trans (shrinks_of_eq (channel_resolveIdleWaiters _ _))
  | close c reason => exact shrinks_closeEach [c] reason
  | flows change => exact shrinks_of_eq rfl

theorem shrinks_settleEach (ws : List WaiterId) (settlement : Settlement) :
    Shrinks m (m.settleEach ws settlement) :=
  shrinks_of_eq (settleEach_frame ws settlement).1

theorem shrinks_closeChannelsForSession (sessionId : SessionId) (reason : String) :
    Shrinks m (m.closeChannelsForSession closeFlow sessionId reason) :=
  (shrinks_closeEach _ reason).trans (shrinks_settleEach _ _)

theorem shrinks_closeChannelsForNode (nodeId reason : String) :
    Shrinks m (m.closeChannelsForNode closeFlow nodeId reason) :=
  (shrinks_closeEach _ reason).trans (shrinks_settleEach _ _)

/-- A channel that is open after the registration of one was open before, or is the new one. -/
theorem channel_registerChannel {nodeId keyId : String} {sessionId : SessionId} {c : ChannelId}
    (hopen : ((m.registerChannel nodeId keyId sessionId).channel c).closed = false) :
    ((m.channel c).closed = false ∧
        (m.registerChannel nodeId keyId sessionId).channel c = m.channel c) ∨
      (m.registerChannel nodeId keyId sessionId).channel c = { nodeId, keyId, sessionId } := by
  rw [registerChannel_eq] at hopen ⊢
  split_ifs at hopen ⊢
  · exact .inl ⟨hopen, rfl⟩
  · rw [channel_resolveIdleWaiters] at hopen ⊢
    by_cases hc : c = m.channelCount
    · right
      simp [ReverseChannelManager.addChannel, hc]
    · left
      have hsame : (m.addChannel nodeId keyId sessionId).channel c = m.channel c := by
        simp [ReverseChannelManager.addChannel, hc]
      exact ⟨hsame ▸ hopen, hsame⟩

/-- The shrinking of the world, as a rule about the world of the sessions. -/
theorem worldRule_shrinks (start : ReverseChannelManager Flows) :
    ReverseSessionManager.WorldRule (Hub.onSessionClosed closeFlow) fun _ world =>
      Shrinks start world where
  close _ _ id reason hworld := hworld.trans (shrinks_closeChannelsForSession id reason)
  promote _ _ _ _ _ hworld := hworld
  replace _ _ _ _ other _ hworld := hworld.trans (shrinks_closeChannelsForSession other _)

end ReverseChannelManager

/-! ### Every connection of a Hub -/

namespace Hub

open ReverseSessionManager ReverseChannelManager

variable {Flows : Type*} {closeFlow : Flows → RequestId → String → Flows}
  {parseJson : Message → Option Json} {h : Hub Flows} {P : String → String → Prop}

/-- Every open connection of the Hub has a node and a key that `P` admits, and every open session
is one that the closing of a node finds. -/
structure Held (P : String → String → Prop) (h : Hub Flows) : Prop where
  ordered : Ordered h
  session : ∀ id, (h.session id).closed = false →
    P (h.session id).nodeId (h.session id).keyId ∧ Placed h id
  channel : ∀ c, (h.world.channel c).closed = false →
    P (h.world.channel c).nodeId (h.world.channel c).keyId

theorem held_initial (maxChannels : ℕ) (capacityWaitMs : ℤ) (flows : Flows) :
    Held P (initial maxChannels capacityWaitMs flows) where
  ordered := ordered_initial maxChannels capacityWaitMs flows
  session _ hopen := by cases hopen
  channel _ hopen := by cases hopen

theorem Held.mono {Q : String → String → Prop} (hheld : Held P h)
    (himp : ∀ nodeId keyId, P nodeId keyId → Q nodeId keyId) : Held Q h where
  ordered := hheld.ordered
  session id hopen := (hheld.session id hopen).imp_left (himp _ _)
  channel c hopen := himp _ _ (hheld.channel c hopen)

theorem Held.of_narrows {h' : Hub Flows} (hheld : Held P h) (hordered : Ordered h')
    (hnarrows : Narrows h h') (hshrinks : Shrinks h.world h'.world) : Held P h' where
  ordered := hordered
  session id hopen := by
    obtain ⟨hp, hplaced⟩ := hheld.session id (hnarrows.opened id hopen)
    rw [hnarrows.nodeId, hnarrows.keyId]
    exact ⟨hp, hnarrows.placed id hopen hplaced⟩
  channel c hopen := by
    obtain ⟨hbefore, hnode, hkey⟩ := hshrinks c hopen
    rw [hnode, hkey]
    exact hheld.channel c hbefore

/-- A change of the channels alone that opens none. -/
theorem Held.of_shrinks {world : ReverseChannelManager Flows} (hheld : Held P h)
    (hordered : Ordered { h with world }) (hshrinks : Shrinks h.world world) :
    Held P { h with world } :=
  hheld.of_narrows hordered ⟨fun _ => rfl, fun _ => rfl, fun _ h => h, fun _ _ h => h⟩ hshrinks

/-- An event of the sessions wakes no request. -/
theorem Ordered.session_asleep (hordered : Ordered h) (hasleep : Asleep h.world)
    (event : SessionEvent) :
    Ordered (ReverseSessionManager.step (onSessionClosed closeFlow) parseJson h event) ∧
      Asleep (ReverseSessionManager.step (onSessionClosed closeFlow) parseJson h event).world := by
  have hrule : WorldRule (onSessionClosed closeFlow) fun current world =>
      Disciplined current world ∧ Asleep world ∧ Settles h.world world :=
    worldRule_disciplined h.world
  obtain ⟨hworld, hasleep', -⟩ := hrule.step hordered.sound ⟨hordered.world, hasleep, .refl _⟩ event
  exact ⟨⟨hordered.sound.step event, hworld⟩, hasleep'⟩

theorem Held.session_step (hheld : Held P h) (hasleep : Asleep h.world) {event : SessionEvent}
    (hevent : ∀ nodeId keyId head, event ≠ .registerUpgrade nodeId keyId head) :
    Held P (ReverseSessionManager.step (onSessionClosed closeFlow) parseJson h event) := by
  have hrule : WorldRule (onSessionClosed closeFlow) fun _ world => Shrinks h.world world :=
    worldRule_shrinks h.world
  exact hheld.of_narrows (hheld.ordered.session_asleep hasleep event).1
    (hheld.ordered.sound.narrows_step hevent)
    (hrule.step hheld.ordered.sound (.refl _) event)

theorem Held.acquireChannel (hheld : Held P h) (nodeId : String) (sessionId : Option SessionId)
    (now : Readings) : Held P (acquireChannel h nodeId sessionId now) := by
  have hordered := (hheld.ordered.acquireChannel nodeId sessionId now).1
  rw [Hub.acquireChannel] at hordered ⊢
  split_ifs at hordered ⊢
  · exact hheld.of_shrinks hordered (shrinks_acquireChannel nodeId sessionId now)
  · exact hheld

theorem Held.channel_step (hheld : Held P h) (event : ChannelEvent Flows) :
    Held P { h with world := h.world.step closeFlow event } :=
  hheld.of_shrinks (hheld.ordered.world_step (hheld.ordered.world.step event)) (shrinks_step event)

/-- A new channel has the credential that it was authenticated with. -/
theorem Held.channelUpgrade (hheld : Held P h) {nodeId keyId : String} (hp : P nodeId keyId)
    (boundSession : SessionId) : Held P (channelUpgrade h nodeId keyId boundSession) := by
  have hordered := (hheld.ordered.channelUpgrade nodeId keyId boundSession).1
  rw [Hub.channelUpgrade] at hordered ⊢
  cases hinfo : h.getSessionInfo nodeId with
  | none => exact hheld
  | some info =>
    simp only [hinfo] at hordered ⊢
    split_ifs at hordered ⊢
    · exact hheld
    · refine ⟨hordered, hheld.session, fun c hopen => ?_⟩
      dsimp only at hopen ⊢
      rcases channel_registerChannel hopen with ⟨hbefore, hsame⟩ | hnew
      · rw [hsame]
        exact hheld.channel c hbefore
      · rw [hnew]
        exact hp

/-- A new session has the credential that it was authenticated with. -/
theorem Held.registerUpgrade (hheld : Held P h) (hasleep : Asleep h.world)
    {nodeId keyId : String} (hp : P nodeId keyId) (head : Buffer) :
    Held P (ReverseSessionManager.registerUpgrade (onSessionClosed closeFlow) parseJson h nodeId
      keyId head) := by
  have hrule : WorldRule (onSessionClosed closeFlow) fun _ world => Shrinks h.world world :=
    worldRule_shrinks h.world
  have hshrinks : Shrinks h.world (ReverseSessionManager.registerUpgrade
      (onSessionClosed closeFlow) parseJson h nodeId keyId head).world :=
    hrule.registerUpgrade hheld.ordered.sound (.refl _) nodeId keyId head
  refine ⟨(hheld.ordered.session_asleep hasleep (.registerUpgrade nodeId keyId head)).1,
    fun id hopen => ?_, fun c hopen => ?_⟩
  · rcases hheld.ordered.sound.session_registerUpgrade hopen with
      ⟨hbefore, hnode, hkey, hplaced⟩ | ⟨hnode, hkey, hplaced⟩
    · obtain ⟨hadmitted, hthere⟩ := hheld.session id hbefore
      rw [hnode, hkey]
      exact ⟨hadmitted, hplaced hthere⟩
    · rw [hnode, hkey]
      exact ⟨hp, hplaced⟩
  · obtain ⟨hbefore, hnode, hkey⟩ := hshrinks c hopen
    rw [hnode, hkey]
    exact hheld.channel c hbefore

/-- No connection of a deleted node stays open. -/
theorem Held.onNodeDeleted (hheld : Held P h) (hquiet : h.world.quiet = true)
    (nodeId reason : String) :
    Held (fun node key => P node key ∧ node ≠ nodeId)
      (onNodeDeleted closeFlow h nodeId reason) := by
  have hordered := (@Ordered.onNodeDeleted _ closeFlow _ hheld.ordered hquiet nodeId reason).1
  have hclosed : Held P
      (ReverseSessionManager.closeSessionsForNode (onSessionClosed closeFlow) h nodeId reason) :=
    @Held.session_step _ closeFlow (fun _ => none) _ _ hheld
      (hheld.ordered.world.queue.asleep hquiet) (.closeSessionsForNode nodeId reason)
      fun _ _ _ => nofun
  have hheld' : Held P (Hub.onNodeDeleted closeFlow h nodeId reason) :=
    hclosed.of_shrinks hordered (shrinks_closeChannelsForNode nodeId reason)
  refine ⟨hordered, fun id hopen => ?_, fun c hopen => ?_⟩
  · obtain ⟨hadmitted, hplaced⟩ := hheld'.session id hopen
    refine ⟨⟨hadmitted, fun hnode => ?_⟩, hplaced⟩
    rw [Placed, hnode] at hplaced
    have hcurrents := @follows_closeEach _ (onSessionClosed closeFlow) h hheld.ordered.sound
      (h.current nodeId).toList reason
    have hpending : id ∉ (ReverseSessionManager.closeSessionsForNode (onSessionClosed closeFlow) h
        nodeId reason).pending nodeId := by
      rw [ReverseSessionManager.closeSessionsForNode, hcurrents.sound.pending_closeEach]
      exact fun ⟨hthere, hnot⟩ => hnot hthere
    have hcurrent : (ReverseSessionManager.closeSessionsForNode (onSessionClosed closeFlow) h
        nodeId reason).current nodeId ≠ some id := by
      rw [ReverseSessionManager.closeSessionsForNode, ne_eq, hcurrents.sound.current_closeEach,
        hheld.ordered.sound.current_closeEach]
      rintro ⟨⟨hthere, hnot⟩, -⟩
      rw [hthere] at hnot
      exact hnot (List.mem_singleton_self id)
    exact hplaced.elim hpending hcurrent
  · refine ⟨hheld'.channel c hopen, fun hnode => ?_⟩
    have hpooled := (hordered.world.pool.pooled nodeId c).mpr ⟨hopen, hnode⟩
    have hnone := (@Disciplined.none_of_closeChannelsForNode _ closeFlow _ _ hclosed.ordered.world
      nodeId reason).1
    have hnone' : (Hub.onNodeDeleted closeFlow h nodeId reason).world.channels nodeId = [] := hnone
    rw [hnone'] at hpooled
    cases hpooled

theorem foldl_onSessionClosed {current : String → Option SessionId}
    {world : ReverseChannelManager Flows} (hworld : Disciplined current world)
    (hasleep : Asleep world) (ids : List SessionId) (reason : String) :
    let world' := ids.foldl (fun world id => onSessionClosed closeFlow world id reason) world
    Disciplined current world' ∧ Asleep world' ∧ Shrinks world world' := by
  induction ids generalizing world with
  | nil => exact ⟨hworld, hasleep, .refl world⟩
  | cons id rest ih =>
    obtain ⟨hclosed, hasleep'⟩ :
        Disciplined current (world.closeChannelsForSession closeFlow id reason) ∧
        Asleep (world.closeChannelsForSession closeFlow id reason) :=
      hworld.closeChannelsForSession hasleep (fun _ _ hcurrent _ => hcurrent) reason
    obtain ⟨hrest, hasleep'', hshrinks⟩ := ih hclosed hasleep'
    exact ⟨hrest, hasleep'', (shrinks_closeChannelsForSession id reason).trans hshrinks⟩

/-- No connection of a revoked credential stays open, and no request is woken. -/
theorem Held.onNodeCredentialRevoked (hheld : Held P h) (hasleep : Asleep h.world)
    (nodeId keyId reason : String) :
    Held (fun node key => P node key ∧ ¬(node = nodeId ∧ key = keyId))
        (onNodeCredentialRevoked closeFlow h nodeId keyId reason) ∧
      Asleep (onNodeCredentialRevoked closeFlow h nodeId keyId reason).world := by
  let matching := h.sessionsForCredential nodeId keyId
  have hclosed : Held P (h.closeEach (onSessionClosed closeFlow) matching reason) :=
    @Held.session_step _ closeFlow (fun _ => none) _ _ hheld hasleep
      (.closeSessionsForCredential nodeId keyId reason) fun _ _ _ => nofun
  have hasleep' : Asleep (h.closeEach (onSessionClosed closeFlow) matching reason).world :=
    (@Ordered.session_asleep _ closeFlow (fun _ => none) _ hheld.ordered hasleep
      (.closeSessionsForCredential nodeId keyId reason)).2
  let world := (h.closeEach (onSessionClosed closeFlow) matching reason).world
  obtain ⟨hwaiter, -, -, hrequest⟩ := @closeEach_frame _ closeFlow world
    ((world.channels nodeId).filter fun c => (world.channel c).keyId = keyId) reason
  have hasleep'' : Asleep (world.closeChannelsForCredential closeFlow nodeId keyId reason) := by
    intro r w hphase
    rw [closeChannelsForCredential, hrequest] at hphase
    rw [closeChannelsForCredential, hwaiter]
    exact hasleep' r w hphase
  obtain ⟨hworld, hstill, hchannels⟩ := @foldl_onSessionClosed _ closeFlow _ _
    (hclosed.ordered.world.closeChannelsForCredential nodeId keyId reason) hasleep'' matching reason
  have hchannels : Shrinks (world.closeChannelsForCredential closeFlow nodeId keyId reason)
      (Hub.onNodeCredentialRevoked closeFlow h nodeId keyId reason).world := hchannels
  have hordered : Ordered (Hub.onNodeCredentialRevoked closeFlow h nodeId keyId reason) :=
    hclosed.ordered.world_step hworld
  have hheld' : Held P (Hub.onNodeCredentialRevoked closeFlow h nodeId keyId reason) :=
    hclosed.of_shrinks hordered ((shrinks_closeEach _ reason).trans hchannels)
  refine ⟨⟨hordered, fun id hopen => ?_, fun c hopen => ?_⟩, hstill⟩
  · obtain ⟨hadmitted, hplaced⟩ := hheld'.session id hopen
    refine ⟨⟨hadmitted, ?_⟩, hplaced⟩
    rintro ⟨hnode, hkey⟩
    have hnarrows : Narrows h (h.closeEach (onSessionClosed closeFlow) matching reason) :=
      hheld.ordered.sound.narrows_closeEach matching reason
    have hopen' : ((h.closeEach (onSessionClosed closeFlow) matching reason).session id).closed =
      false := hopen
    have hnode' : (h.session id).nodeId = nodeId := (hnarrows.nodeId id).symm.trans hnode
    have hkey' : (h.session id).keyId = keyId := (hnarrows.keyId id).symm.trans hkey
    have hnot : id ∉ matching := by
      intro hmem
      rw [ReverseSessionManager.closed_closeEach hmem] at hopen'
      cases hopen'
    -- every open session of the credential is one of those that were closed
    obtain ⟨-, hthere⟩ := hheld.session id (hnarrows.opened id hopen')
    rw [Placed, hnode'] at hthere
    simp only [matching, sessionsForCredential, List.mem_append, List.mem_filter, hkey',
      Option.mem_toList, decide_eq_true_eq, true_and, and_true, not_or] at hnot
    rcases hthere with hpending | hcurrent
    · exact hnot.2 ⟨hpending, hnot.1⟩
    · exact hnot.1 hcurrent
  · refine ⟨hheld'.channel c hopen, ?_⟩
    rintro ⟨hnode, hkey⟩
    obtain ⟨hbefore, hnode', hkey'⟩ := hchannels c hopen
    rw [closed_closeChannelsForCredential hclosed.ordered.world.pool] at hbefore
    · cases hbefore
    · rw [← hnode, hnode']
      exact (channel_closeEach _ reason c).1.symm
    · rw [← hkey, hkey']
      exact (channel_closeEach _ reason c).2.2.symm

end Hub

end DshOrbit.ReverseHub
