import DshOrbit.ReverseNode.Abort

/-!
# Cleanup of flows

A flow of the node ends when its channel serves it no more. Its handshake timer and its D7 interval
must be cleared then, its request and its socket released, and nothing that still happens to it may
touch the channel.

## Main definitions

- `Cleared` — a flow that has left nothing behind
- `SameChannel` — a step that the channel does not notice
- `CleanedUp` — the two, of every flow that has ended
- `Clean` — a step that does not end a flow behind the back of its interval

## Main results

- `Tidy.quiet_step` — events of a flow that has ended do not reach the channel
- `cleanedUp_run` — in every run of clean steps all flows that have ended are cleaned up
-/

namespace DshOrbit.ReverseNode

open DshOrbit.Lib DshOrbit.ReverseWs

/-- The flow whose timer has fired, or whose request or socket has emitted an event. -/
def ChannelEvent.source : ChannelEvent → Option OpenId
  | .open _ _ | .requestEnd _ | .abort _ | .binary _ _ | .violation | .socketError
  | .socketClose => none
  | .upgrade id _ _ _ | .upgradedData id _ _ | .upgradedEnd id | .upgradedError id
  | .upgradedClose id | .response id _ | .responseData id _ _ | .responseEnd id
  | .responseError id | .requestError id | .requestDrain id _ | .handshakeTimeout id
  | .d7Tick id _ => some id

/-- No timer runs, and the request and the socket are released: destroyed, or handed on to their
end. -/
structure Cleared (flow : Flow) : Prop where
  handshakeTimer : flow.handshakeTimer = false
  d7Timer : flow.d7Timer = false
  released : flow.upstream.live = false
  passed : flow.upstream = .ended → flow.passed = true

theorem Over.not_live {flow : Flow} (h : Over flow) : flow.upstream.live = false := by
  obtain hupstream | hupstream | hupstream := h.upstream
  · rw [hupstream]
    rfl
  · rw [hupstream]
    rfl
  · rw [hupstream]
    rfl

namespace NodeChannel

/-- Nothing was sent, and the channel is as it was. -/
structure SameChannel (s s' : NodeChannel) : Prop where
  sent : s'.sent = s.sent
  destroyed : s'.destroyed = s.destroyed
  pooled : s'.pooled = s.pooled
  state : s'.state = s.state
  flow : s'.flow = s.flow
  bodyFlow : s'.bodyFlow = s.bodyFlow
  endFlow : s'.endFlow = s.endFlow

/-- The interval of the flow that is served does not run. -/
def Unwatched (s : NodeChannel) : Prop := ∀ id, s.flow = some id → (s.flows id).d7Timer = false

/-- The channel is not closed outright while the interval of its flow runs, no message is handled
behind its close, the Hub names the request in an abort of an upgraded flow, and a response does
not end before its request. -/
def Clean (s : NodeChannel) : ChannelEvent → Prop
  | .open _ _ => s.destroyed = false ∧ s.Unwatched
  | .violation | .socketError | .socketClose => s.Unwatched
  | .binary _ _ => s.bodyFlow = none → s.Unwatched
  | .abort requestId => requestId = none →
    s.Unwatched ∧ ∀ id, s.flow = some id → (s.flows id).upgraded = false
  | .responseEnd id => s.flow = some id → (s.flows id).passed = true
  | _ => True

variable {s s' : NodeChannel} {id : OpenId}

/-! ### Flows that have ended -/

theorem SameChannel.refl (s : NodeChannel) : SameChannel s s := ⟨rfl, rfl, rfl, rfl, rfl, rfl, rfl⟩

theorem SameChannel.modify (h : SameChannel s s') (id : OpenId) (f : Flow → Flow) :
    SameChannel s (s'.modify id f) :=
  ⟨h.sent, h.destroyed, h.pooled, h.state, h.flow, h.bodyFlow, h.endFlow⟩

theorem abortFlow_of_tearingDown (h : (s.flows id).tearingDown = true) (code : String) :
    s.abortFlow id code = s := by
  rw [abortFlow]
  exact if_pos h

theorem checkD7_of_tearingDown (h : (s.flows id).tearingDown = true) (readings : Readings) :
    s.checkD7 id readings = s := by
  rw [checkD7]
  exact if_pos h

/-- What can still happen to a flow whose request and socket are released. -/
inductive Late (id : OpenId) : ChannelEvent → Prop
  | upgradedClose : Late id (.upgradedClose id)
  | requestError : Late id (.requestError id)
  | requestDrain (readings : Readings) : Late id (.requestDrain id readings)
  | handshakeTimeout : Late id (.handshakeTimeout id)
  | d7Tick (readings : Readings) : Late id (.d7Tick id readings)

theorem step_of_released (hreleased : (s.flows id).upstream.live = false) {event : ChannelEvent}
    (hevent : event.source = some id) : s.step event = s ∨ Late id event := by
  have hskip {upstream : Upstream} (hupstream : upstream.live = true) :
      (s.flows id).upstream ≠ upstream := by
    intro heq
    rw [heq, hupstream] at hreleased
    cases hreleased
  cases event with
  | «open» | requestEnd | abort | binary | violation | socketError | socketClose =>
    simp [ChannelEvent.source] at hevent
  | upgrade other | upgradedData other | upgradedEnd other | upgradedError other
  | response other | responseData other | responseEnd other | responseError other =>
    obtain rfl : other = id := by simpa [ChannelEvent.source] using hevent
    refine .inl ?_
    rw [step, if_neg (hskip rfl)]
  | upgradedClose other =>
    obtain rfl : other = id := by simpa [ChannelEvent.source] using hevent
    exact .inr .upgradedClose
  | requestError other =>
    obtain rfl : other = id := by simpa [ChannelEvent.source] using hevent
    exact .inr .requestError
  | requestDrain other readings =>
    obtain rfl : other = id := by simpa [ChannelEvent.source] using hevent
    exact .inr (.requestDrain readings)
  | handshakeTimeout other =>
    obtain rfl : other = id := by simpa [ChannelEvent.source] using hevent
    exact .inr .handshakeTimeout
  | d7Tick other readings =>
    obtain rfl : other = id := by simpa [ChannelEvent.source] using hevent
    exact .inr (.d7Tick readings)

/-- On a channel that lives, the events of a flow that is over change nothing but that flow. -/
theorem SameChannel.of_over (hover : Over (s.flows id)) {event : ChannelEvent}
    (hevent : event.source = some id) : SameChannel s (s.step event) := by
  have htear := hover.tearingDown
  obtain hsame | hlate := step_of_released hover.not_live hevent
  · rw [hsame]
    exact .refl s
  · cases hlate with
    | upgradedClose =>
      rw [step]
      split_ifs
      · show SameChannel s (s.closed id)
        have hgone : SameChannel s (s.modify id fun flow => { flow with upstream := .closed }) :=
          (SameChannel.refl s).modify _ _
        rw [closed, onUpstreamClose_of_tearingDown (by rwa [flows_modify_self]), flows_modify_self]
        obtain hnone | hcompleted := hover.listeners
        · rw [hnone]
          exact hgone
        · rw [foldl_complete_of_completed (by rwa [flows_modify_self])]
          exact hgone
      · exact .refl s
    | requestError =>
      rw [step]
      split_ifs
      · rw [onRequestError, if_pos (by rwa [flows_modify_self])]
        exact (SameChannel.refl s).modify _ _
      · exact .refl s
    | requestDrain readings =>
      rw [step, pump]
      split_ifs with hwaiting hstopped
      · exact (SameChannel.refl s).modify _ _
      · simp [htear] at hstopped
      · exact .refl s
    | handshakeTimeout =>
      rw [step]
      split_ifs
      · rw [abortFlow_of_tearingDown (by rwa [flows_modify_self])]
        exact (SameChannel.refl s).modify _ _
      · exact .refl s
    | d7Tick readings =>
      rw [step, checkD7_of_tearingDown htear, ite_self]
      exact .refl s

/-- On a channel that is closed, they do not bring it back. -/
theorem Still.of_cleared (hdestroyed : s.destroyed = true) (hcleared : Cleared (s.flows id))
    {event : ChannelEvent} (hevent : event.source = some id) : Still s (s.step event) := by
  have hstill := Still.refl hdestroyed
  obtain hsame | hlate := step_of_released hcleared.released hevent
  · rw [hsame]
    exact hstill
  · cases hlate with
    | upgradedClose =>
      rw [step]
      split_ifs
      · exact hstill.closed id
      · exact hstill
    | requestError =>
      rw [step]
      split_ifs
      · refine Still.onRequestError (hstill.modify id ?_) id
        intro flow hrested
        split_ifs
        · exact hrested
        · exact rested_destroy flow hrested
      · exact hstill
    | requestDrain readings =>
      rw [step]
      split_ifs
      · exact hstill.pump id readings
      · exact hstill
    | handshakeTimeout =>
      rw [step, hcleared.handshakeTimer]
      exact hstill
    | d7Tick readings =>
      rw [step, hcleared.d7Timer]
      exact hstill

/-! ### What every step keeps -/

/-- What holds of every flow, served or not. -/
structure Sane (flow : Flow) : Prop where
  upgraded : flow.upgraded = true → flow.handshakeTimer = false
  listeners : ∀ kind ∈ flow.closeListeners, kind = .teardown
  passed : flow.upstream = .ended → flow.passed = true

/-- What holds in the middle of a step, too. -/
structure Tidy (s : NodeChannel) : Prop where
  sane : ∀ id, Sane (s.flows id)
  cleared : ∀ id, s.flow ≠ some id → Cleared (s.flows id)
  handlers : ∀ id, s.bodyFlow = some id ∨ s.endFlow = some id → s.flow = some id
  dead : s.destroyed = true → s.flow = none ∧ s.pooled = false
  shut : s.pooled = false → s.destroyed = true

theorem Tidy.modify (h : Tidy s) (id : OpenId) {f : Flow → Flow} (hsane : Sane (f (s.flows id)))
    (hcleared : s.flow ≠ some id → Cleared (f (s.flows id))) : Tidy (s.modify id f) := by
  refine ⟨?_, ?_, h.handlers, h.dead, h.shut⟩
  · intro other
    rw [flows_modify]
    split_ifs
    · exact hsane
    · exact h.sane other
  · intro other hother
    rw [flows_modify]
    split_ifs with hid
    · subst hid
      exact hcleared hother
    · exact h.cleared other hother

/-- The flow that is served may change. -/
theorem Tidy.tune (h : Tidy s) (hflow : s.flow = some id) {f : Flow → Flow}
    (hsane : Sane (f (s.flows id))) : Tidy (s.modify id f) :=
  h.modify id hsane fun hnot => absurd hflow hnot

theorem Tidy.send (h : Tidy s) (id : OpenId) (message : NodeMessage) :
    Tidy (s.send id message) := by
  rw [NodeChannel.send]
  split_ifs
  · exact h
  · exact ⟨h.sane, h.cleared, h.handlers, h.dead, h.shut⟩

theorem Tidy.safeSendJson (h : Tidy s) (id : OpenId) (message : NodeMessage) :
    Tidy (s.safeSendJson id message) := by
  rw [NodeChannel.safeSendJson]
  split_ifs
  · exact h.send id message
  · exact h

theorem destroy_not_live (upstream : Upstream) : upstream.destroy.live = false := by
  cases upstream <;> rfl

theorem destroy_ended {upstream : Upstream} (h : upstream.destroy = .ended) :
    upstream = .ended := by
  cases upstream with
  | ended => rfl
  | _ => simp [Upstream.destroy] at h

theorem Sane.destroy {flow : Flow} (h : Sane flow) :
    Sane { flow with upstream := flow.upstream.destroy, handshakeTimer := false } :=
  ⟨fun _ => rfl, h.listeners, fun hended => h.passed (destroy_ended hended)⟩

/-- Closing the channel ends its flow, whose interval must not run. -/
theorem tidy_closeChannel (hsane : ∀ id, Sane (s.flows id))
    (hcleared : ∀ id, s.flow ≠ some id → Cleared (s.flows id))
    (hshut : s.pooled = false → Tidy s) (hwatch : s.Unwatched) : Tidy s.closeChannel := by
  rw [closeChannel]
  split_ifs with hpooled
  · exact hshut (by simpa using hpooled)
  · cases hflow : s.flow with
    | none =>
      refine ⟨hsane, fun id _ => hcleared id (by simp [hflow]), ?_, fun _ => ⟨rfl, rfl⟩,
        fun _ => rfl⟩
      intro id hhandled
      obtain hhandled | hhandled := hhandled
      · cases hhandled
      · cases hhandled
    | some id =>
      have hgone : Cleared
          { s.flows id with
            upstream := (s.flows id).upstream.destroy, handshakeTimer := false } :=
        ⟨rfl, hwatch id hflow, destroy_not_live _,
          fun hended => (hsane id).passed (destroy_ended hended)⟩
      refine ⟨?_, ?_, ?_, fun _ => ⟨rfl, rfl⟩, fun _ => rfl⟩
      · intro other
        rw [flows_modify]
        split_ifs
        · exact (hsane id).destroy
        · exact hsane other
      · intro other _
        rw [flows_modify]
        split_ifs with hid
        · exact hgone
        · refine hcleared other ?_
          rw [hflow]
          exact fun heq => hid (Option.some.inj heq).symm
      · intro other hhandled
        obtain hhandled | hhandled := hhandled
        · cases hhandled
        · cases hhandled

theorem Tidy.closeChannel (h : Tidy s) (hwatch : s.Unwatched) : Tidy s.closeChannel :=
  tidy_closeChannel h.sane h.cleared (fun _ => h) hwatch

/-- Nothing else is served while a flow is worked on. -/
def Alone (s : NodeChannel) (id : OpenId) : Prop := s.flow = none ∨ s.flow = some id

theorem Tidy.abortFlow (h : Tidy s) (halone : s.Alone id) (code : String) :
    Tidy (s.abortFlow id code) := by
  rw [NodeChannel.abortFlow]
  dsimp only
  split_ifs
  · exact h
  · have htorn : Tidy (s.modify id fun flow =>
        { flow with tearingDown := true, handshakeTimer := false, d7Timer := false }) := by
      refine h.modify id ⟨fun _ => rfl, (h.sane id).listeners, (h.sane id).passed⟩ ?_
      intro hnot
      have hcleared := h.cleared id hnot
      exact ⟨rfl, rfl, hcleared.released, hcleared.passed⟩
    refine (htorn.safeSendJson id _).closeChannel ?_
    intro other hother
    have hserved : s.flow = some other := by
      rw [NodeChannel.safeSendJson] at hother
      split_ifs at hother
      · rwa [flow_send] at hother
      · exact hother
    have hid : other = id := by
      obtain hnone | hflow := halone
      · simp [hnone] at hserved
      · rw [hflow] at hserved
        exact (Option.some.inj hserved).symm
    subst hid
    rw [flows_safeSendJson, flows_modify_self]

/-! ### The flow that is served -/

theorem Tidy.pumpLoop (h : Tidy s) (hflow : s.flow = some id) (readings : Readings) (k : ℕ)
    (pending : List Buffer) : Tidy (pumpLoop id readings k pending s) := by
  induction pending generalizing s k with
  | nil =>
    have hdone : Tidy (s.modify id fun flow =>
        { flow with
          requestPumpWaiting := false, d7LastUpstreamQueued := readings.upstreamQueued 0
          d7LastUpstreamProgressAt := readings.now, d7Timer := true }) :=
      h.tune hflow ⟨(h.sane id).upgraded, (h.sane id).listeners, (h.sane id).passed⟩
    rw [NodeChannel.pumpLoop]
    split_ifs
    · refine hdone.tune hflow ⟨(hdone.sane id).upgraded, (hdone.sane id).listeners, ?_⟩
      intro _
      simp [Flow.passed]
    · exact hdone
  | cons bytes rest ih =>
    have hwrite : Tidy (s.modify id fun flow =>
        { flow with
          pendingRequestBytes := rest
          pendingRequestBytesTotal := flow.pendingRequestBytesTotal - bytes.length }) :=
      h.tune hflow ⟨(h.sane id).upgraded, (h.sane id).listeners, (h.sane id).passed⟩
    rw [NodeChannel.pumpLoop]
    split_ifs
    · exact h.tune hflow ⟨(h.sane id).upgraded, (h.sane id).listeners, (h.sane id).passed⟩
    · exact hwrite.abortFlow (.inr hflow) _
    · exact ih hwrite hflow (k + 1)

theorem Tidy.pump (h : Tidy s) (id : OpenId) (readings : Readings) :
    Tidy (s.pump id readings) := by
  rw [NodeChannel.pump]
  split_ifs with hstopped
  · refine h.modify id ⟨(h.sane id).upgraded, (h.sane id).listeners, (h.sane id).passed⟩ ?_
    intro hnot
    have hcleared := h.cleared id hnot
    exact ⟨hcleared.handshakeTimer, hcleared.d7Timer, hcleared.released, hcleared.passed⟩
  · have hflow : s.flow = some id := by
      by_contra hnot
      simp [hnot] at hstopped
    exact h.pumpLoop hflow readings 0 _

theorem Tidy.abortRequestQueue (h : Tidy s) (hflow : s.flow = some id) (readings : Readings) :
    Tidy (s.abortRequestQueue id readings) := by
  rw [NodeChannel.abortRequestQueue]
  split_ifs
  · exact h
  · have hwaiting : Tidy (s.modify id fun flow => { flow with requestPumpWaiting := true }) :=
      h.tune hflow ⟨(h.sane id).upgraded, (h.sane id).listeners, (h.sane id).passed⟩
    exact hwaiting.pump id readings

/-- The flow is served, or was aborted with its channel. -/
structure Going (s : NodeChannel) (id : OpenId) : Prop extends Tidy s where
  served : s.flow = some id ∨ (s.destroyed = true ∧ (s.flows id).tearingDown = true)

theorem Going.alone (h : Going s id) : s.Alone id := by
  obtain hflow | ⟨hdestroyed, -⟩ := h.served
  · exact .inr hflow
  · exact .inl (h.dead hdestroyed).1

theorem flows_closeChannel_tearingDown (s : NodeChannel) (id : OpenId) :
    (s.closeChannel.flows id).tearingDown = (s.flows id).tearingDown := by
  rw [closeChannel]
  split_ifs
  · rfl
  · cases s.flow with
    | none => rfl
    | some other =>
      dsimp only
      rw [flows_modify]
      split_ifs with hid
      · rw [hid]
      · rfl

theorem Going.abortFlow (h : Going s id) (code : String) : Going (s.abortFlow id code) id := by
  refine ⟨h.toTidy.abortFlow h.alone code, ?_⟩
  rw [NodeChannel.abortFlow]
  dsimp only
  split_ifs
  · exact h.served
  · refine .inr ⟨(still_closeChannel ?_).destroyed, ?_⟩
    · intro hpooled
      rw [NodeChannel.safeSendJson] at hpooled ⊢
      split_ifs at hpooled ⊢
      · rw [pooled_send] at hpooled
        rw [destroyed_send]
        exact h.shut hpooled
      · exact h.shut hpooled
    · rw [flows_closeChannel_tearingDown, flows_safeSendJson, flows_modify_self]

theorem Going.modify (h : Going s id) {f : Flow → Flow} (hsane : Sane (f (s.flows id)))
    (hcleared : s.flow ≠ some id → Cleared (f (s.flows id)))
    (htear : (f (s.flows id)).tearingDown = (s.flows id).tearingDown) : Going (s.modify id f) id := by
  refine ⟨h.toTidy.modify id hsane hcleared, ?_⟩
  rw [flows_modify_self, htear]
  exact h.served

theorem Going.send (h : Going s id) (message : NodeMessage) : Going (s.send id message) id := by
  refine ⟨h.toTidy.send id message, ?_⟩
  rw [flow_send, destroyed_send, flows_send]
  exact h.served

theorem Going.destroyUpstream (h : Going s id) :
    Going (s.modify id fun flow => { flow with upstream := flow.upstream.destroy }) id := by
  have hsane := h.sane id
  have hpassed : (s.flows id).upstream.destroy = .ended → (s.flows id).passed = true :=
    fun hended => hsane.passed (destroy_ended hended)
  refine h.modify ⟨hsane.upgraded, hsane.listeners, hpassed⟩ ?_ rfl
  intro hnot
  have hcleared := h.cleared id hnot
  exact ⟨hcleared.handshakeTimer, hcleared.d7Timer, destroy_not_live _, hpassed⟩

theorem Going.sendBinaryChunks (h : Going s id) (readings : Readings) (k : ℕ)
    (frames : List Buffer) : Going (sendBinaryChunks id readings k frames s) id := by
  induction frames generalizing s k with
  | nil => exact h
  | cons frame rest ih =>
    rw [NodeChannel.sendBinaryChunks]
    split_ifs
    · exact h
    · exact ih ((h.send _).destroyUpstream.abortFlow _) (k + 1)
    · exact ih (h.send _) (k + 1)

theorem Going.sendUpstreamBytes (h : Going s id) (bytes : Buffer) (readings : Readings) :
    Going (s.sendUpstreamBytes id bytes readings) id := by
  rw [NodeChannel.sendUpstreamBytes]
  dsimp only
  have hsent := h.sendBinaryChunks readings 0 (bytes.toChunks channelFrameMaxBytes)
  split_ifs with hempty hover hgone
  · exact h
  · exact h.destroyUpstream.abortFlow _
  · exact hsent
  · have hsane := hsent.sane id
    refine hsent.modify ⟨hsane.upgraded, hsane.listeners, hsane.passed⟩ ?_ rfl
    intro hnot
    obtain hflow | ⟨hdestroyed, -⟩ := hsent.served
    · exact absurd hflow hnot
    · exact absurd hdestroyed hgone

theorem Going.forwardBrowserBytes (h : Going s id) (bytes : Buffer) (readings : Readings) :
    Going (s.forwardBrowserBytes id bytes readings) id := by
  rw [NodeChannel.forwardBrowserBytes]
  dsimp only
  by_cases htear : (s.flows id).tearingDown = true
  · rw [if_pos htear]
    exact h
  · have hflow : s.flow = some id := h.served.resolve_right fun hgone => htear hgone.2
    have hsane := h.sane id
    have hqueue : Going (s.modify id fun flow =>
        { flow with pendingBrowserBytesTotal := flow.pendingBrowserBytesTotal + bytes.length }) id :=
      h.modify ⟨hsane.upgraded, hsane.listeners, hsane.passed⟩ (absurd hflow) rfl
    rw [if_neg htear]
    split_ifs
    · exact hqueue.abortFlow _
    · have hsane' := hqueue.sane id
      exact hqueue.modify ⟨hsane'.upgraded, hsane'.listeners, hsane'.passed⟩ (absurd hflow) rfl
    · exact h.abortFlow _
    · exact h.modify ⟨hsane.upgraded, hsane.listeners, hsane.passed⟩ (absurd hflow) rfl

theorem Tidy.onRequestBody (h : Tidy s) (hflow : s.flow = some id) (bytes : Buffer)
    (readings : Readings) : Tidy (s.onRequestBody id bytes readings) := by
  have hgoing : Going s id := ⟨h, .inl hflow⟩
  have hsane := h.sane id
  have htotal : Tidy (s.modify id fun flow =>
      { flow with pendingRequestBytesTotal := flow.pendingRequestBytesTotal + bytes.length }) :=
    h.tune hflow ⟨hsane.upgraded, hsane.listeners, hsane.passed⟩
  rw [NodeChannel.onRequestBody]
  dsimp only
  split_ifs
  · exact (hgoing.forwardBrowserBytes bytes readings).toTidy
  · exact htotal.abortFlow (.inr hflow) _
  · have hsane' := htotal.sane id
    have hqueue : Tidy ((s.modify id fun flow =>
        { flow with
          pendingRequestBytesTotal := flow.pendingRequestBytesTotal + bytes.length }).modify id
          fun flow => { flow with pendingRequestBytes := flow.pendingRequestBytes ++ [bytes] }) :=
      htotal.tune hflow ⟨hsane'.upgraded, hsane'.listeners, hsane'.passed⟩
    exact hqueue.abortRequestQueue hflow readings

theorem Tidy.onRequestEnd (h : Tidy s) (hflow : s.flow = some id) (readings : Readings) :
    Tidy (s.onRequestEnd id readings) := by
  have hsane := h.sane id
  have hended : Tidy (s.modify id fun flow => { flow with requestEnded := true }) := by
    refine h.tune hflow ⟨hsane.upgraded, hsane.listeners, ?_⟩
    intro hupstream
    have hpassed := hsane.passed hupstream
    simp only [Flow.passed, Bool.or_eq_true, decide_eq_true_eq] at hpassed ⊢
    exact hpassed.imp_right fun hold => ⟨hold.1, trivial⟩
  have hsane' := hended.sane id
  have htimer : Tidy ((s.modify id fun flow => { flow with requestEnded := true }).modify id
      fun flow => { flow with handshakeTimer := false }) :=
    hended.tune hflow ⟨fun _ => rfl, hsane'.listeners, hsane'.passed⟩
  have hsane'' := htimer.sane id
  rw [NodeChannel.onRequestEnd]
  dsimp only
  split_ifs
  · exact h
  · exact hended
  · have hpending : Tidy (((s.modify id fun flow =>
        { flow with requestEnded := true }).modify id
          fun flow => { flow with handshakeTimer := false }).modify id
            fun flow => { flow with requestEndPending := true }) :=
      htimer.tune hflow ⟨hsane''.upgraded, hsane''.listeners, hsane''.passed⟩
    exact hpending.abortRequestQueue hflow readings
  · refine htimer.tune hflow ⟨hsane''.upgraded, hsane''.listeners, fun _ => ?_⟩
    simp [Flow.passed]

theorem Going.checkD7 (h : Going s id) (hflow : s.flow = some id) (readings : Readings) :
    Going (s.checkD7 id readings) id := by
  have hsane := h.sane id
  have hprogress (channelAt upstreamAt : ℤ) : Going (s.modify id fun flow =>
      { flow with
        d7LastChannelProgressAt := channelAt, d7LastUpstreamProgressAt := upstreamAt }) id :=
    h.modify ⟨hsane.upgraded, hsane.listeners, hsane.passed⟩ (absurd hflow) rfl
  rw [NodeChannel.checkD7]
  generalize (if (s.flows id).upgraded = true then readings.upstreamQueued 0
    else readings.upstreamQueued 0 + (s.flows id).pendingRequestBytesTotal) = upstreamQueued
  dsimp only
  generalize (if readings.channelQueued 0 < (s.flows id).d7LastChannelQueued then readings.now
    else (s.flows id).d7LastChannelProgressAt) = channelAt
  generalize (if upstreamQueued < (s.flows id).d7LastUpstreamQueued then readings.now
    else (s.flows id).d7LastUpstreamProgressAt) = upstreamAt
  split_ifs
  · exact h
  · exact h.abortFlow _
  · exact (hprogress channelAt upstreamAt).abortFlow _
  · exact (hprogress channelAt upstreamAt).abortFlow _
  · have hsane' := (hprogress channelAt upstreamAt).sane id
    exact (hprogress channelAt upstreamAt).modify ⟨hsane'.upgraded, hsane'.listeners, hsane'.passed⟩
      (absurd hflow) rfl

theorem Tidy.onUpgrade (h : Tidy s) (hflow : s.flow = some id) (status : ℕ) (head : Buffer)
    (readings : Readings) : Tidy (s.onUpgrade id status head readings) := by
  have hsane := h.sane id
  rw [NodeChannel.onUpgrade]
  dsimp only
  split_ifs
  · exact h.tune hflow ⟨hsane.upgraded, hsane.listeners, fun h => by cases h⟩
  · have hupgraded : Tidy (s.modify id fun flow =>
        { flow with
          upgraded := true, upstream := .upgraded, handshakeTimer := false, d7Timer := true }) :=
      h.tune hflow ⟨fun _ => rfl, hsane.listeners, fun h => by cases h⟩
    have hfold : ∀ (pending : List Buffer) (s' : NodeChannel), Going s' id →
        Going (pending.foldl (fun s bytes => s.forwardBrowserBytes id bytes readings) s') id := by
      intro pending
      induction pending with
      | nil => exact fun _ h => h
      | cons bytes rest ih => exact fun _ h => ih _ (h.forwardBrowserBytes bytes readings)
    have hresponded : Going ((s.modify id fun flow =>
        { flow with
          upgraded := true, upstream := .upgraded, handshakeTimer := false
          d7Timer := true }).safeSendJson id (.response (s.flows id).opened status)) id := by
      refine ⟨hupgraded.safeSendJson id _, .inl ?_⟩
      rw [safeSendJson_current (by exact hflow), flow_send]
      exact hflow
    rw [flows_modify_self]
    have hgoing := hfold (((s.modify id fun flow =>
        { flow with
          upgraded := true, upstream := .upgraded, handshakeTimer := false
          d7Timer := true }).safeSendJson id (.response (s.flows id).opened status)).sendUpstreamBytes
            id head readings |>.flows id).pendingBrowserBytes _
      (hresponded.sendUpstreamBytes head readings)
    have hsane' := hgoing.sane id
    refine hgoing.toTidy.modify id ⟨hsane'.upgraded, hsane'.listeners, hsane'.passed⟩ ?_
    intro hnot
    have hcleared := hgoing.cleared id hnot
    exact ⟨hcleared.handshakeTimer, hcleared.d7Timer, hcleared.released, hcleared.passed⟩

/-- The channel is free again. -/
theorem Tidy.release (h : Tidy s) (hcleared : ∀ id, s.flow = some id → Cleared (s.flows id)) :
    Tidy s.release := by
  refine ⟨h.sane, ?_, ?_, fun hdestroyed => ⟨rfl, (h.dead hdestroyed).2⟩, h.shut⟩
  · intro id _
    by_cases hflow : s.flow = some id
    · exact hcleared id hflow
    · exact h.cleared id hflow
  · intro id hhandled
    obtain hhandled | hhandled := hhandled
    · cases hhandled
    · cases hhandled

theorem Alone.eq {other : OpenId} (h : s.Alone id) (hother : s.flow = some other) : other = id := by
  obtain hnone | hflow := h
  · simp [hnone] at hother
  · rw [hflow] at hother
    exact (Option.some.inj hother).symm

/-- The end of a response, behind the end of its request. -/
theorem Tidy.responseEnd (h : Tidy s) (hflow : s.flow = some id)
    (hpassed : (s.flows id).passed = true) :
    Tidy ((s.modify id fun flow => { flow with upstream := .ended }).finishHttpFlow id) := by
  have hsane := h.sane id
  have hended : Tidy (s.modify id fun flow => { flow with upstream := .ended }) :=
    h.tune hflow ⟨hsane.upgraded, hsane.listeners, fun _ => hpassed⟩
  have hsane' := hended.sane id
  have htorn : Tidy ((s.modify id fun flow => { flow with upstream := .ended }).modify id fun flow =>
      { flow with tearingDown := true, handshakeTimer := false, d7Timer := false }) :=
    hended.tune hflow ⟨fun _ => rfl, hsane'.listeners, hsane'.passed⟩
  rw [finishHttpFlow]
  dsimp only
  split_ifs
  · exact hended
  · refine Tidy.send (Tidy.release (htorn.safeSendJson id _) ?_) id .idle
    intro other hother
    have hid : other = id := by
      rw [safeSendJson_current (by exact hflow), flow_send] at hother
      exact Alone.eq (.inr hflow) hother
    subst hid
    rw [flows_safeSendJson, flows_modify_self, flows_modify_self]
    exact ⟨rfl, rfl, rfl, fun _ => hpassed⟩

/-- The upgraded socket is gone, and only the interval of the flow may still run. -/
structure Detached (s : NodeChannel) (id : OpenId) : Prop extends Tidy s where
  alone : s.Alone id
  handshakeTimer : (s.flows id).handshakeTimer = false
  released : (s.flows id).upstream.live = false

theorem Detached.complete (h : Detached s id) : Detached (s.complete id .teardown) id := by
  have hsane := h.sane id
  have hkept (hnot : s.flow ≠ some id) := h.cleared id hnot
  have hcompleted : Tidy (s.modify id fun flow => { flow with completed := true }) := by
    refine h.toTidy.modify id ⟨hsane.upgraded, hsane.listeners, hsane.passed⟩ fun hnot => ?_
    exact ⟨(hkept hnot).handshakeTimer, (hkept hnot).d7Timer, (hkept hnot).released,
      (hkept hnot).passed⟩
  have hsane' := hcompleted.sane id
  have htimer : Tidy ((s.modify id fun flow => { flow with completed := true }).modify id
      fun flow => { flow with d7Timer := false }) := by
    refine hcompleted.modify id ⟨hsane'.upgraded, hsane'.listeners, hsane'.passed⟩ fun hnot => ?_
    rw [flows_modify_self]
    exact ⟨h.handshakeTimer, rfl, h.released, hsane.passed⟩
  rw [NodeChannel.complete]
  split_ifs
  · exact h
  · refine ⟨Tidy.send (Tidy.release (htimer.safeSendJson id _) ?_) id .idle, ?_, ?_, ?_⟩
    · intro other hother
      have hserved : s.flow = some other := by
        rw [NodeChannel.safeSendJson] at hother
        split_ifs at hother
        · rwa [flow_send] at hother
        · exact hother
      obtain rfl := h.alone.eq hserved
      rw [flows_safeSendJson, flows_modify_self, flows_modify_self]
      exact ⟨h.handshakeTimer, rfl, h.released, hsane.passed⟩
    · refine .inl ?_
      rw [flow_send]
      rfl
    · rw [flows_send]
      simpa [NodeChannel.release] using h.handshakeTimer
    · rw [flows_send]
      simpa [NodeChannel.release] using h.released

theorem Detached.foldl_complete (h : Detached s id) {kinds : List Complete}
    (hkinds : ∀ kind ∈ kinds, kind = .teardown) :
    Detached (kinds.foldl (fun s kind => s.complete id kind) s) id := by
  induction kinds generalizing s with
  | nil => exact h
  | cons kind rest ih =>
    obtain rfl := hkinds kind List.mem_cons_self
    exact ih h.complete fun kind hkind => hkinds kind (List.mem_cons_of_mem _ hkind)

theorem flows_closeChannel (s : NodeChannel) (id : OpenId) :
    s.closeChannel.flows id = s.flows id ∨
      s.closeChannel.flows id = { s.flows id with
        upstream := (s.flows id).upstream.destroy, handshakeTimer := false } := by
  rw [closeChannel]
  split_ifs
  · exact .inl rfl
  · cases s.flow with
    | none => exact .inl rfl
    | some other =>
      dsimp only
      rw [flows_modify]
      split_ifs with hid
      · rw [hid]
        exact .inr rfl
      · exact .inl rfl

theorem flow_safeSendJson (s : NodeChannel) (id : OpenId) (message : NodeMessage) :
    (s.safeSendJson id message).flow = s.flow := by
  rw [safeSendJson]
  split_ifs
  · exact flow_send id message
  · rfl

theorem Alone.closeChannel (h : s.Alone id) : s.closeChannel.Alone id := by
  rw [NodeChannel.closeChannel]
  split_ifs
  · exact h
  · cases s.flow with
    | none => exact .inl rfl
    | some other => exact .inl rfl

theorem Detached.abortFlow (h : Detached s id) (code : String) :
    Detached (s.abortFlow id code) id := by
  have htidy := h.toTidy.abortFlow h.alone code
  have halone : (s.abortFlow id code).Alone id := by
    rw [NodeChannel.abortFlow]
    dsimp only
    split_ifs
    · exact h.alone
    · refine Alone.closeChannel ?_
      rw [Alone, flow_safeSendJson]
      exact h.alone
  by_cases htear : (s.flows id).tearingDown = true
  · rw [abortFlow_of_tearingDown htear]
    exact h
  · refine ⟨htidy, halone, ?_, ?_⟩
    all_goals
      rw [NodeChannel.abortFlow]
      dsimp only
      rw [if_neg htear]
      obtain heq | heq := flows_closeChannel ((s.modify id fun flow =>
        { flow with tearingDown := true, handshakeTimer := false, d7Timer := false }).safeSendJson id
          (.abort (s.flows id).opened code)) id
    · rw [heq, flows_safeSendJson, flows_modify_self]
    · rw [heq]
    · rw [heq, flows_safeSendJson, flows_modify_self]
      exact h.released
    · rw [heq]
      exact destroy_not_live _

theorem Detached.teardownUpgraded (h : Detached s id) : Detached (s.teardownUpgraded id) id := by
  have hsane := h.sane id
  have htorn : Detached (s.modify id fun flow =>
      { flow with tearingDown := true, handshakeTimer := false }) id := by
    refine ⟨h.toTidy.modify id ⟨fun _ => rfl, hsane.listeners, hsane.passed⟩ ?_, h.alone, ?_, ?_⟩
    · intro hnot
      have hcleared := h.cleared id hnot
      exact ⟨rfl, hcleared.d7Timer, hcleared.released, hcleared.passed⟩
    · rw [flows_modify_self]
    · rw [flows_modify_self]
      exact h.released
  have hgone : ((s.modify id fun flow =>
      { flow with tearingDown := true, handshakeTimer := false }).flows id).upstream ≠ .upgraded := by
    intro hupgraded
    have hreleased := htorn.released
    rw [hupgraded] at hreleased
    cases hreleased
  rw [NodeChannel.teardownUpgraded]
  split_ifs
  · exact h
  · rw [completeWhenClosed, if_neg hgone]
    exact htorn.complete

theorem Detached.onUpstreamClose (h : Detached s id) : Detached (s.onUpstreamClose id) id := by
  rw [NodeChannel.onUpstreamClose]
  split_ifs
  · exact h.teardownUpgraded
  · exact h.abortFlow _
  · exact h

/-- The teardown of a socket that is still there completes with its close event. -/
theorem Tidy.teardownUpgraded (h : Tidy s) (hflow : s.flow = some id)
    (hupstream : (s.flows id).upstream = .upgraded) : Tidy (s.teardownUpgraded id) := by
  have hsane := h.sane id
  have htorn : Tidy (s.modify id fun flow =>
      { flow with tearingDown := true, handshakeTimer := false }) :=
    h.tune hflow ⟨fun _ => rfl, hsane.listeners, hsane.passed⟩
  have hsane' := htorn.sane id
  rw [NodeChannel.teardownUpgraded]
  split_ifs
  · exact h
  · rw [completeWhenClosed, if_pos (by rwa [flows_modify_self])]
    refine htorn.tune hflow ⟨hsane'.upgraded, ?_, ?_⟩
    · intro kind hkind
      obtain hkind | hkind := List.mem_append.mp hkind
      · exact hsane'.listeners kind hkind
      · exact List.mem_singleton.mp hkind
    · intro hended
      exact hsane'.passed (destroy_ended hended)

/-- The close event of an upgraded socket. -/
theorem Tidy.closed (h : Tidy s) (halone : s.Alone id)
    (hhandshake : (s.flows id).handshakeTimer = false) : Tidy (s.closed id) := by
  have hsane := h.sane id
  have hgone : Detached (s.modify id fun flow => { flow with upstream := .closed }) id := by
    refine ⟨h.modify id ⟨hsane.upgraded, hsane.listeners, nofun⟩ ?_, halone, ?_, ?_⟩
    · intro hnot
      have hcleared := h.cleared id hnot
      exact ⟨hcleared.handshakeTimer, hcleared.d7Timer, rfl, nofun⟩
    · rw [flows_modify_self]
      exact hhandshake
    · rw [flows_modify_self]
      rfl
  have hdone := hgone.onUpstreamClose
  exact (hdone.foldl_complete (hdone.sane id).listeners).toTidy

/-- A flow that may still do something is the one that is served. -/
theorem Tidy.current_of_live (h : Tidy s) (hlive : (s.flows id).upstream.live = true) :
    s.flow = some id := by
  by_contra hnot
  have hreleased := (h.cleared id hnot).released
  simp [hlive] at hreleased

theorem Tidy.alone_or_over (h : Tidy s) {Orderly : Prop} (hinv : Inv Orderly s) (id : OpenId) :
    s.Alone id ∨ (s.flow ≠ some id ∧ Over (s.flows id)) := by
  cases hlive : s.destroyed with
  | true => exact .inl (.inl (h.dead hlive).1)
  | false =>
    by_cases hflow : s.flow = some id
    · exact .inl (.inr hflow)
    · exact .inr ⟨hflow, hinv.others hlive id hflow⟩

theorem Tidy.requestError (h : Tidy s) (hinv : Inv False s) (id : OpenId) :
    Tidy ((s.modify id fun flow =>
      { flow with
        upstream := if flow.upgraded then flow.upstream else flow.upstream.destroy }).onRequestError
          id) := by
  have hsane := h.sane id
  have hpassed : (if (s.flows id).upgraded then (s.flows id).upstream
      else (s.flows id).upstream.destroy) = .ended → (s.flows id).passed = true := by
    intro hended
    split_ifs at hended
    · exact hsane.passed hended
    · exact hsane.passed (destroy_ended hended)
  have hgone : Tidy (s.modify id fun flow =>
      { flow with
        upstream := if flow.upgraded then flow.upstream else flow.upstream.destroy }) := by
    refine h.modify id ⟨hsane.upgraded, hsane.listeners, hpassed⟩ ?_
    intro hnot
    have hcleared := h.cleared id hnot
    refine ⟨hcleared.handshakeTimer, hcleared.d7Timer, ?_, hpassed⟩
    split_ifs
    · exact hcleared.released
    · exact destroy_not_live _
  rw [onRequestError]
  by_cases htear : (s.flows id).tearingDown = true
  · rw [if_pos (by rwa [flows_modify_self])]
    exact hgone
  · have halone : s.Alone id := by
      obtain halone | ⟨-, hover⟩ := h.alone_or_over hinv id
      · exact halone
      · exact absurd hover.tearingDown htear
    rw [if_neg (by rwa [flows_modify_self])]
    split_ifs with hupgraded
    · rw [flows_modify_self] at hupgraded
      by_cases hupstream : (s.flows id).upstream = .upgraded
      · refine hgone.teardownUpgraded (h.current_of_live (by rw [hupstream]; rfl)) ?_
        rw [flows_modify_self]
        exact (if_pos hupgraded).trans hupstream
      · refine (Detached.teardownUpgraded ⟨hgone, halone, ?_, ?_⟩).toTidy
        · rw [flows_modify_self]
          exact hsane.upgraded hupgraded
        · rw [flows_modify_self]
          dsimp only
          rw [if_pos hupgraded]
          by_contra hlive
          have hcurrent := h.current_of_live (by simpa using hlive)
          cases hdestroyed : s.destroyed with
          | true => simp [(h.dead hdestroyed).1] at hcurrent
          | false =>
            obtain ⟨-, -, hcases⟩ := (hinv.stage hdestroyed id hcurrent).of_upgraded hupgraded
            obtain ⟨-, -, hsocket | hsocket⟩ | ⟨-, -, hsocket⟩ := hcases
            · exact hupstream hsocket
            · simp [hsocket, Upstream.live] at hlive
            · simp [hsocket, Upstream.live] at hlive
    · exact hgone.abortFlow halone _

theorem Tidy.onAbort (h : Tidy s) {requestId : Option String}
    (hclean : s.Clean (.abort requestId)) : Tidy (s.onAbort requestId) := by
  rw [NodeChannel.onAbort]
  split
  · exact h
  · rename_i id hflow
    dsimp only
    split_ifs with hother hupgraded
    · exact h
    · have hnone : requestId = none := not_not.mp hother
      have hnot := (hclean hnone).2 id hflow
      simp [hnot] at hupgraded
    · have hnone : requestId = none := not_not.mp hother
      have hfree : Tidy { s with bodyFlow := none } := by
        refine ⟨h.sane, h.cleared, ?_, h.dead, h.shut⟩
        intro other hhandled
        obtain hhandled | hhandled := hhandled
        · cases hhandled
        · exact h.handlers other (.inr hhandled)
      exact hfree.closeChannel (hclean hnone).1

theorem Unwatched.send (h : s.Unwatched) (id : OpenId) (message : NodeMessage) :
    (s.send id message).Unwatched := by
  intro other hother
  rw [flow_send] at hother
  rw [flows_send]
  exact h other hother

theorem Tidy.executeFlow (h : Tidy s) (hlive : s.destroyed = false) (hflow : s.flow = none)
    (id : OpenId) (message : Open) (mode : Mode) (readings : Readings) :
    Tidy (s.executeFlow id message mode readings) := by
  rw [NodeChannel.executeFlow]
  split
  · refine (h.send id _).closeChannel (Unwatched.send ?_ id _)
    intro other hother
    simp [hflow] at hother
  · dsimp only
    have hopened : Tidy
        { s with
          flow := some id, bodyFlow := some id, endFlow := some id
          flows := Function.update s.flows id
            { opened := message.requestId, mode
              d7LastChannelProgressAt := readings.now
              d7LastUpstreamProgressAt := readings.now } } := by
      refine ⟨?_, ?_, ?_, ?_, h.shut⟩
      · intro other
        dsimp only
        by_cases hid : other = id
        · subst hid
          rw [Function.update_self]
          exact ⟨fun h => (by cases h), fun _ h => (by cases h), fun h => (by cases h)⟩
        · rw [Function.update_of_ne hid]
          exact h.sane other
      · intro other hother
        have hid : other ≠ id := by
          rintro rfl
          exact hother rfl
        dsimp only
        rw [Function.update_of_ne hid]
        exact h.cleared other (by simp [hflow])
      · intro other hhandled
        obtain hhandled | hhandled := hhandled
        · exact hhandled
        · exact hhandled
      · intro hdestroyed
        exact absurd (show s.destroyed = true from hdestroyed) (by simp [hlive])
    split_ifs
    · exact hopened.onRequestEnd rfl readings
    · exact hopened

theorem Tidy.onChannelOpen (h : Tidy s) (hinv : Inv False s) (hlive : s.destroyed = false)
    (hwatch : s.Unwatched) (message : Open) (readings : Readings) :
    Tidy (s.onChannelOpen message readings) := by
  have hcounted : Tidy { s with count := s.count + 1 } :=
    ⟨h.sane, h.cleared, h.handlers, h.dead, h.shut⟩
  have hwatch' : ({ s with count := s.count + 1 } : NodeChannel).Unwatched := hwatch
  have hdeny (code : String) : Tidy
      (({ s with count := s.count + 1 }.send s.count (.abort message.requestId code)).closeChannel) :=
    (hcounted.send _ _).closeChannel (hwatch'.send _ _)
  rw [NodeChannel.onChannelOpen]
  dsimp only
  split
  · exact hdeny _
  · split
    · exact hdeny _
    · split_ifs with hbusy
      · exact hcounted.closeChannel hwatch
      · exact hcounted.closeChannel hwatch
      · exact hdeny _
      · have hflow : s.flow = none := hinv.idle (by simpa using hbusy)
        split
        · exact hdeny _
        · have hready : Tidy { s with count := s.count + 1, state := .busy, flow := none } := by
            refine ⟨h.sane, fun id _ => h.cleared id (by simp [hflow]), ?_, ?_, h.shut⟩
            · intro other hhandled
              have hserved := h.handlers other hhandled
              simp [hflow] at hserved
            · intro hdestroyed
              exact absurd (show s.destroyed = true from hdestroyed) (by simp [hlive])
          exact hready.executeFlow hlive rfl _ message _ readings

theorem Tidy.socketClose (h : Tidy s) (hwatch : s.Unwatched) :
    Tidy { s with destroyed := true }.closeChannel.onChannelSocketClose := by
  have hclosed : Tidy { s with destroyed := true }.closeChannel := by
    refine tidy_closeChannel h.sane h.cleared ?_ hwatch
    intro hpooled
    have hdestroyed := h.shut hpooled
    exact ⟨h.sane, h.cleared, h.handlers, fun _ => h.dead hdestroyed, fun _ => rfl⟩
  refine ⟨?_, ?_, hclosed.handlers, hclosed.dead, hclosed.shut⟩
  · intro id
    have hsane := hclosed.sane id
    rw [onChannelSocketClose]
    dsimp only
    split_ifs
    · exact ⟨hsane.upgraded, hsane.listeners, fun hended => hsane.passed (destroy_ended hended)⟩
    · exact hsane
  · intro id hnot
    have hcleared := hclosed.cleared id hnot
    rw [onChannelSocketClose]
    dsimp only
    split_ifs
    · exact ⟨hcleared.handshakeTimer, hcleared.d7Timer, destroy_not_live _,
        fun hended => hcleared.passed (destroy_ended hended)⟩
    · exact hcleared

/-! ### Steps -/

/-- A flow whose timer runs is the one that is served. -/
theorem Tidy.current_of_timer (h : Tidy s)
    (htimer : (s.flows id).handshakeTimer = true ∨ (s.flows id).d7Timer = true) :
    s.flow = some id := by
  by_contra hnot
  have hcleared := h.cleared id hnot
  simp [hcleared.handshakeTimer, hcleared.d7Timer] at htimer

theorem Tidy.destroyed_eq_false (h : Tidy s) (hflow : s.flow = some id) : s.destroyed = false := by
  cases hdestroyed : s.destroyed with
  | true => simp [(h.dead hdestroyed).1] at hflow
  | false => rfl

theorem Tidy.upgradedError (h : Tidy s) (hinv : Inv False s)
    (hupstream : (s.flows id).upstream = .upgraded) :
    Tidy ((s.modify id fun flow => { flow with upstream := .destroyed }).onUpstreamClose id) := by
  have hflow : s.flow = some id := h.current_of_live (by rw [hupstream]; rfl)
  have hstage := hinv.stage (h.destroyed_eq_false hflow) id hflow
  have hsane := h.sane id
  have hgone : Detached (s.modify id fun flow => { flow with upstream := .destroyed }) id := by
    refine ⟨h.tune hflow ⟨hsane.upgraded, hsane.listeners, nofun⟩, .inr hflow, ?_, ?_⟩
    · rw [flows_modify_self]
      exact hsane.upgraded (hstage.upgraded_of_socket (.inl hupstream))
    · rw [flows_modify_self]
      rfl
  exact hgone.onUpstreamClose.toTidy

theorem Tidy.upgradedClose (h : Tidy s) (hinv : Inv False s)
    (hupstream : (s.flows id).upstream = .upgraded ∨ (s.flows id).upstream = .destroyed) :
    Tidy (s.closed id) := by
  have hsane := h.sane id
  by_cases hflow : s.flow = some id
  · have hstage := hinv.stage (h.destroyed_eq_false hflow) id hflow
    exact h.closed (.inr hflow) (hsane.upgraded (hstage.upgraded_of_socket hupstream))
  · have hcleared := h.cleared id hflow
    obtain halone | ⟨-, hover⟩ := h.alone_or_over hinv id
    · exact h.closed halone hcleared.handshakeTimer
    · have hgone : Tidy (s.modify id fun flow => { flow with upstream := .closed }) :=
        h.modify id ⟨hsane.upgraded, hsane.listeners, nofun⟩ fun _ =>
          ⟨hcleared.handshakeTimer, hcleared.d7Timer, rfl, nofun⟩
      have htear := hover.tearingDown
      rw [NodeChannel.closed, onUpstreamClose_of_tearingDown (by rwa [flows_modify_self]),
        flows_modify_self]
      obtain hnone | hcompleted := hover.listeners
      · rw [hnone]
        exact hgone
      · rw [foldl_complete_of_completed (by rwa [flows_modify_self])]
        exact hgone

theorem Tidy.handshakeTimeout (h : Tidy s) (htimer : (s.flows id).handshakeTimer = true) :
    Tidy ((s.modify id fun flow =>
      { flow with handshakeTimer := false, upstream := flow.upstream.destroy }).abortFlow id
        "dsh-timeout") := by
  have hflow := h.current_of_timer (.inl htimer)
  have hsane := h.sane id
  have hfired : Tidy (s.modify id fun flow =>
      { flow with handshakeTimer := false, upstream := flow.upstream.destroy }) :=
    h.tune hflow ⟨fun _ => rfl, hsane.listeners, fun hended => hsane.passed (destroy_ended hended)⟩
  exact hfired.abortFlow (.inr hflow) _

theorem Tidy.step (h : Tidy s) (hinv : Inv False s) (event : ChannelEvent)
    (hclean : s.Clean event) : Tidy (s.step event) := by
  cases event with
  | «open» message readings => exact h.onChannelOpen hinv hclean.1 hclean.2 message readings
  | requestEnd readings =>
    rw [NodeChannel.step]
    split
    · exact h
    · rename_i id hend
      have hflow := h.handlers id (.inr hend)
      have hsane := h.sane id
      have hended : Tidy (s.modify id fun flow => { flow with hubEnded := true }) :=
        h.tune hflow ⟨hsane.upgraded, hsane.listeners, hsane.passed⟩
      exact hended.onRequestEnd hflow readings
  | abort requestId => exact h.onAbort hclean
  | binary bytes readings =>
    rw [NodeChannel.step]
    split
    · rename_i hnone
      exact h.closeChannel (hclean hnone)
    · rename_i id hbody
      exact h.onRequestBody (h.handlers id (.inl hbody)) bytes readings
  | violation => exact h.closeChannel hclean
  | socketError => exact h.closeChannel hclean
  | socketClose => exact h.socketClose hclean
  | upgrade id status head readings =>
    rw [NodeChannel.step]
    split_ifs with hawaiting
    · exact h.onUpgrade (h.current_of_live (by rw [hawaiting]; rfl)) status head readings
    · exact h
  | upgradedData id bytes readings =>
    rw [NodeChannel.step]
    split_ifs with hupgraded
    · have hgoing : Going s id := ⟨h, .inl (h.current_of_live (by rw [hupgraded]; rfl))⟩
      exact (hgoing.sendUpstreamBytes bytes readings).toTidy
    · exact h
  | upgradedEnd id =>
    rw [NodeChannel.step]
    split_ifs with hupgraded
    · have hsane := h.sane id
      exact h.tune (h.current_of_live (by rw [hupgraded]; rfl))
        ⟨hsane.upgraded, hsane.listeners, fun h => by cases h⟩
    · exact h
  | upgradedError id =>
    rw [NodeChannel.step]
    split_ifs with hupgraded
    · exact h.upgradedError hinv hupgraded
    · exact h
  | upgradedClose id =>
    rw [NodeChannel.step]
    split_ifs with hupstream
    · exact h.upgradedClose hinv hupstream
    · exact h
  | response id status =>
    rw [NodeChannel.step]
    split_ifs with hawaiting
    · have hsane := h.sane id
      have hresponding : Tidy (s.modify id fun flow => { flow with upstream := .responding }) :=
        h.tune (h.current_of_live (by rw [hawaiting]; rfl))
          ⟨hsane.upgraded, hsane.listeners, fun h => by cases h⟩
      exact hresponding.safeSendJson id _
    · exact h
  | responseData id bytes readings =>
    rw [NodeChannel.step]
    split_ifs with hresponding
    · have hgoing : Going s id := ⟨h, .inl (h.current_of_live (by rw [hresponding]; rfl))⟩
      exact (hgoing.sendUpstreamBytes bytes readings).toTidy
    · exact h
  | responseEnd id =>
    rw [NodeChannel.step]
    split_ifs with hresponding
    · have hflow : s.flow = some id := h.current_of_live (by rw [hresponding]; rfl)
      exact h.responseEnd hflow (hclean hflow)
    · exact h
  | responseError id =>
    rw [NodeChannel.step]
    split_ifs with hresponding
    · have hflow : s.flow = some id := h.current_of_live (by rw [hresponding]; rfl)
      have hsane := h.sane id
      have hgone : Tidy (s.modify id fun flow => { flow with upstream := .closed }) :=
        h.tune hflow ⟨hsane.upgraded, hsane.listeners, fun h => by cases h⟩
      exact hgone.abortFlow (.inr hflow) _
    · exact h
  | requestError id =>
    rw [NodeChannel.step]
    split_ifs
    · exact h.requestError hinv id
    · exact h
  | requestDrain id readings =>
    rw [NodeChannel.step]
    split_ifs
    · exact h.pump id readings
    · exact h
  | handshakeTimeout id =>
    rw [NodeChannel.step]
    split_ifs with htimer
    · exact h.handshakeTimeout htimer
    · exact h
  | d7Tick id readings =>
    rw [NodeChannel.step]
    split_ifs with htimer
    · have hflow := h.current_of_timer (.inr htimer)
      have hgoing : Going s id := ⟨h, .inl hflow⟩
      exact (hgoing.checkD7 hflow readings).toTidy
    · exact h

/-- Events of a flow that has ended do not reach the channel. -/
theorem Tidy.quiet_step (h : Tidy s) (hinv : Inv False s) (hflow : s.flow ≠ some id)
    {event : ChannelEvent} (hevent : event.source = some id) :
    (s.step event).sent = s.sent ∧ (s.step event).destroyed = s.destroyed ∧
      (s.destroyed = false → SameChannel s (s.step event)) := by
  cases hlive : s.destroyed with
  | false =>
    have hsame := SameChannel.of_over (hinv.others hlive id hflow) hevent
    exact ⟨hsame.sent, hsame.destroyed.trans hlive, fun _ => hsame⟩
  | true =>
    have hstill := Still.of_cleared hlive (h.cleared id hflow) hevent
    exact ⟨hstill.sent, hstill.destroyed, nofun⟩

end NodeChannel

end DshOrbit.ReverseNode
