import DshOrbit.ReverseNode.Channel

/-!
# What the node sends for one `open`

For every `open` the node sends a response, its body, the end of the response and the
word that the channel is idle, in that order; or it breaks off with one abort and closes
the channel.

## Main definitions

- `Grammatical`, `BrokenOff` — the words of the wire
- `Stage`, `Over` — a flow that is served, and one that is not any more
- `Inv` — what every run keeps
- `Still` — a change after which nothing can be sent any more

## Main results

- `Word.grammatical` — the automaton accepts the grammar
- `Base.still` — a channel whose socket is destroyed keeps the invariant
-/

namespace DshOrbit.ReverseNode

open DshOrbit.Lib DshOrbit.ReverseWs

/-! ### The grammar -/

/-- A prefix of what the node sends for an `open` that is served to its end. -/
def Grammatical (messages : List NodeMessage) : Prop :=
  ∃ (requestId : String) (status : ℕ) (frames : List Buffer) (ended : Option String),
    messages <+: .response requestId status :: (frames.map .binary ++ [.responseEnd ended, .idle])

/-- Such a prefix, cut off by one abort. -/
def BrokenOff (messages : List NodeMessage) : Prop :=
  ∃ sent requestId code, messages = sent ++ [.abort requestId code] ∧ Grammatical sent

/-- How far the messages for one `open` have come. -/
inductive Word
  | start
  | responded
  | ended
  | done
  | aborted
  | bad
  deriving DecidableEq

def Word.next : Word → NodeMessage → Word
  | .start, .response _ _ => .responded
  | .responded, .binary _ => .responded
  | .responded, .responseEnd _ => .ended
  | .ended, .idle => .done
  | .start, .abort _ _ => .aborted
  | .responded, .abort _ _ => .aborted
  | _, _ => .bad

/-- What the word that a list of messages leads to says about it. -/
def Word.Says : Word → List NodeMessage → Prop
  | .start, messages => messages = []
  | .responded, messages => ∃ (requestId : String) (status : ℕ) (frames : List Buffer),
      messages = .response requestId status :: frames.map .binary
  | .ended, messages =>
    ∃ (requestId : String) (status : ℕ) (frames : List Buffer) (ended : Option String),
      messages = .response requestId status :: (frames.map .binary ++ [.responseEnd ended])
  | .done, messages =>
    ∃ (requestId : String) (status : ℕ) (frames : List Buffer) (ended : Option String),
      messages = .response requestId status :: (frames.map .binary ++ [.responseEnd ended, .idle])
  | .aborted, messages => BrokenOff messages
  | .bad, _ => True

theorem grammatical_nil : Grammatical [] :=
  ⟨"", 0, [], none, List.nil_prefix⟩

theorem grammatical_responded (requestId : String) (status : ℕ) (frames : List Buffer) :
    Grammatical (.response requestId status :: frames.map .binary) := by
  refine ⟨requestId, status, frames, none, ?_⟩
  rw [List.cons_prefix_cons]
  exact ⟨rfl, List.prefix_append _ _⟩

theorem Word.says_next {word : Word} {messages : List NodeMessage} (h : word.Says messages)
    (message : NodeMessage) : (word.next message).Says (messages ++ [message]) := by
  cases word with
  | start =>
    obtain rfl : messages = [] := h
    cases message with
    | response requestId status => exact ⟨requestId, status, [], rfl⟩
    | abort requestId code => exact ⟨[], requestId, code, rfl, grammatical_nil⟩
    | _ => trivial
  | responded =>
    obtain ⟨requestId, status, frames, rfl⟩ := h
    cases message with
    | binary payload => exact ⟨requestId, status, frames ++ [payload], by simp⟩
    | responseEnd ended => exact ⟨requestId, status, frames, ended, by simp⟩
    | abort id code => exact ⟨_, id, code, rfl, grammatical_responded requestId status frames⟩
    | _ => trivial
  | ended =>
    obtain ⟨requestId, status, frames, ended, rfl⟩ := h
    cases message with
    | idle => exact ⟨requestId, status, frames, ended, by simp⟩
    | _ => trivial
  | done => cases message <;> trivial
  | aborted => cases message <;> trivial
  | bad => cases message <;> trivial

theorem Word.says_foldl {word : Word} {messages : List NodeMessage} (h : word.Says messages)
    (rest : List NodeMessage) : (rest.foldl Word.next word).Says (messages ++ rest) := by
  induction rest generalizing word messages with
  | nil => simpa using h
  | cons message rest ih =>
    have hrest := ih (Word.says_next h message)
    rwa [List.append_assoc, List.singleton_append] at hrest

/-- A word that is not bad is one of the grammar. -/
theorem Word.grammatical {word : Word} {messages : List NodeMessage} (h : word.Says messages)
    (hword : word ≠ .bad) : Grammatical messages ∨ (word = .aborted ∧ BrokenOff messages) := by
  cases word with
  | start =>
    obtain rfl : messages = [] := h
    exact .inl grammatical_nil
  | responded =>
    obtain ⟨requestId, status, frames, rfl⟩ := h
    exact .inl (grammatical_responded requestId status frames)
  | ended =>
    obtain ⟨requestId, status, frames, ended, rfl⟩ := h
    refine .inl ⟨requestId, status, frames, ended, ?_⟩
    rw [List.cons_prefix_cons]
    exact ⟨rfl, ⟨[.idle], by simp⟩⟩
  | done =>
    obtain ⟨requestId, status, frames, ended, rfl⟩ := h
    exact .inl ⟨requestId, status, frames, ended, List.prefix_rfl⟩
  | aborted => exact .inr ⟨rfl, h⟩
  | bad => exact absurd rfl hword

theorem Word.foldl_of_over {word : Word} (h : word = .done ∨ word = .bad)
    (messages : List NodeMessage) :
    messages.foldl Word.next word = .done ∨ messages.foldl Word.next word = .bad := by
  induction messages generalizing word with
  | nil => exact h
  | cons message rest ih =>
    refine ih (.inr ?_)
    rcases h with rfl | rfl
    · rfl
    · rfl

/-- After the word that the channel is idle nothing may follow. -/
theorem Word.foldl_of_idle (word : Word) {messages : List NodeMessage} (h : .idle ∈ messages) :
    messages.foldl Word.next word = .done ∨ messages.foldl Word.next word = .bad := by
  induction messages generalizing word with
  | nil => cases h
  | cons message rest ih =>
    rcases List.mem_cons.mp h with rfl | hrest
    · refine Word.foldl_of_over ?_ rest
      cases word with
      | ended => exact .inl rfl
      | _ => exact .inr rfl
    · exact ih (word.next message) hrest

theorem Grammatical.count_idle {messages : List NodeMessage} (h : Grammatical messages) :
    messages.count .idle ≤ 1 := by
  obtain ⟨requestId, status, frames, ended, hcut⟩ := h
  refine (hcut.sublist.count_le .idle).trans ?_
  have hframes : (frames.map NodeMessage.binary).count .idle = 0 := by
    rw [List.count_eq_zero]
    simp
  simp [List.count_append, hframes]

theorem BrokenOff.count_idle {messages : List NodeMessage} (h : BrokenOff messages) :
    messages.count .idle ≤ 1 := by
  obtain ⟨sent, requestId, code, rfl, hsent⟩ := h
  simpa [List.count_append, List.count_cons] using hsent.count_idle

/-! ### What every run keeps -/

/-- A flow that sends nothing any more, whatever happens to it. -/
structure Over (flow : Flow) : Prop where
  tearingDown : flow.tearingDown = true
  upstream : flow.upstream = .ended ∨ flow.upstream = .destroyed ∨ flow.upstream = .closed
  listeners : flow.closeListeners = [] ∨ flow.completed = true

/-- The flow that the channel serves, and how far its messages have come. -/
inductive Stage (flow : Flow) : Word → Prop
  | awaiting : flow.upstream = .awaiting → flow.upgraded = false → flow.tearingDown = false →
      flow.completed = false → flow.closeListeners = [] → Stage flow .start
  | responding : flow.upstream = .responding → flow.upgraded = false → flow.tearingDown = false →
      flow.completed = false → flow.closeListeners = [] → Stage flow .responded
  | upgraded : flow.upstream = .upgraded ∨ flow.upstream = .destroyed → flow.upgraded = true →
      flow.tearingDown = false → flow.completed = false → flow.closeListeners = [] →
      Stage flow .responded
  | closing : flow.upstream = .destroyed → flow.upgraded = true → flow.tearingDown = true →
      flow.completed = false → flow.closeListeners ≠ [] → Stage flow .responded

theorem Over.congr {flow flow' : Flow} (h : Over flow) (hupstream : flow'.upstream = flow.upstream)
    (htear : flow'.tearingDown = flow.tearingDown) (hcompleted : flow'.completed = flow.completed)
    (hlisteners : flow'.closeListeners = flow.closeListeners) : Over flow' := by
  refine ⟨?_, ?_, ?_⟩
  · rw [htear, h.tearingDown]
  · rw [hupstream]
    exact h.upstream
  · rw [hlisteners, hcompleted]
    exact h.listeners

theorem Stage.congr {flow flow' : Flow} {word : Word} (h : Stage flow word)
    (hupstream : flow'.upstream = flow.upstream) (hupgraded : flow'.upgraded = flow.upgraded)
    (htear : flow'.tearingDown = flow.tearingDown) (hcompleted : flow'.completed = flow.completed)
    (hlisteners : flow'.closeListeners = flow.closeListeners) : Stage flow' word := by
  cases h with
  | awaiting hu hg ht hc hl =>
    exact .awaiting (hupstream.trans hu) (hupgraded.trans hg) (htear.trans ht)
      (hcompleted.trans hc) (hlisteners.trans hl)
  | responding hu hg ht hc hl =>
    exact .responding (hupstream.trans hu) (hupgraded.trans hg) (htear.trans ht)
      (hcompleted.trans hc) (hlisteners.trans hl)
  | upgraded hu hg ht hc hl =>
    exact .upgraded (by rwa [hupstream]) (hupgraded.trans hg) (htear.trans ht)
      (hcompleted.trans hc) (hlisteners.trans hl)
  | closing hu hg ht hc hl =>
    exact .closing (hupstream.trans hu) (hupgraded.trans hg) (htear.trans ht)
      (hcompleted.trans hc) (by rwa [hlisteners])

/-- The local request has been handed on to its end. -/
def Flow.passed (flow : Flow) : Bool :=
  flow.requestEndedSent || (flow.mode = .websocket ∧ flow.requestEnded)

/-- A flow that is torn down: the Hub has ended its request, and no local handle is live. -/
def Rested (flow : Flow) : Prop :=
  flow.hubEnded = true ∧ (flow.upstream = .destroyed ∨ flow.upstream = .closed ∨
    flow.upstream = .ended ∧ flow.passed = true)

theorem Rested.mono {flow flow' : Flow} (h : Rested flow) (hended : flow'.hubEnded = flow.hubEnded)
    (hupstream : flow'.upstream = flow.upstream) (hpassed : flow.passed = true → flow'.passed = true) :
    Rested flow' := by
  rw [Rested, hended, hupstream]
  exact ⟨h.1, h.2.imp_right (.imp_right (.imp_right hpassed))⟩

namespace NodeChannel

/-- The messages for one `open`. -/
def sentFor (s : NodeChannel) (id : OpenId) : List NodeMessage :=
  (s.sent.filter fun entry => entry.1 = id).map Prod.snd

def word (s : NodeChannel) (id : OpenId) : Word := (s.sentFor id).foldl Word.next .start

/-- What holds in the middle of a step, too. A run whose steps are all orderly also keeps
`rested`. -/
structure Base (Orderly : Prop) (s : NodeChannel) : Prop where
  pooled : s.pooled = false → s.destroyed = true
  word : ∀ id, s.word id ≠ .bad
  fresh : ∀ id, s.count ≤ id → s.sentFor id = []
  counted : ∀ id, s.flow = some id → id < s.count
  idle : s.state = .idle → s.flow = none
  rested : Orderly → ∀ id, s.word id = .done → Rested (s.flows id)

/-- What every run keeps. -/
structure Inv (Orderly : Prop) (s : NodeChannel) : Prop extends Base Orderly s where
  aborted : ∀ id, s.word id = .aborted → s.destroyed = true
  others : s.destroyed = false → ∀ id, s.flow ≠ some id → Over (s.flows id)
  stage : s.destroyed = false → ∀ id, s.flow = some id → Stage (s.flows id) (s.word id)

variable {Orderly : Prop} {s s' s'' : NodeChannel} {id : OpenId}

theorem inv_initial : Inv Orderly {} where
  pooled h := by cases h
  word id := by simp [NodeChannel.word, sentFor]
  fresh id _ := rfl
  counted id h := by cases h
  idle _ := rfl
  rested _ id h := by cases h
  aborted id h := by cases h
  others _ id _ := ⟨rfl, .inr (.inr rfl), .inl rfl⟩
  stage _ id h := by cases h

/-! ### A channel whose socket is destroyed -/

/-- A change after which, as before it, nothing can be sent. -/
structure Still (s s' : NodeChannel) : Prop where
  destroyed : s'.destroyed = true
  sent : s'.sent = s.sent
  count : s'.count = s.count
  flow : ∀ id, s'.flow = some id → s.flow = some id
  idle : s'.state = .idle → s.state = .idle ∨ s'.flow = none
  rested : ∀ id, Rested (s.flows id) → Rested (s'.flows id)

theorem Still.refl (h : s.destroyed = true) : Still s s :=
  ⟨h, rfl, rfl, fun _ h => h, .inl, fun _ h => h⟩

theorem Still.trans (h : Still s s') (h' : Still s' s'') : Still s s'' := by
  refine ⟨h'.destroyed, h'.sent.trans h.sent, h'.count.trans h.count,
    fun id hflow => h.flow id (h'.flow id hflow), fun hidle => ?_,
    fun id hrested => h'.rested id (h.rested id hrested)⟩
  rcases h'.idle hidle with hidle' | hnone
  · rcases h.idle hidle' with hidle'' | hnone
    · exact .inl hidle''
    · refine .inr (Option.eq_none_iff_forall_ne_some.mpr fun id hflow => ?_)
      have hold := h'.flow id hflow
      simp [hnone] at hold
  · exact .inr hnone

theorem sentFor_of_sent (h : s'.sent = s.sent) (id : OpenId) : s'.sentFor id = s.sentFor id := by
  rw [sentFor, h, sentFor]

theorem word_of_sent (h : s'.sent = s.sent) (id : OpenId) : s'.word id = s.word id := by
  rw [word, sentFor_of_sent h, word]

theorem Base.still (h : Base Orderly s) (hstill : Still s s') : Inv Orderly s' := by
  have hword := word_of_sent hstill.sent
  refine ⟨⟨fun _ => hstill.destroyed, fun id => ?_, fun id hid => ?_, fun id hflow => ?_,
    fun hidle => ?_, fun horderly id hdone => ?_⟩, fun _ _ => hstill.destroyed, ?_, ?_⟩
  · rw [hword]
    exact h.word id
  · rw [sentFor_of_sent hstill.sent]
    exact h.fresh id (hstill.count ▸ hid)
  · rw [hstill.count]
    exact h.counted id (hstill.flow id hflow)
  · rcases hstill.idle hidle with hidle' | hnone
    · refine Option.eq_none_iff_forall_ne_some.mpr fun id hflow => ?_
      have hold := hstill.flow id hflow
      simp [h.idle hidle'] at hold
    · exact hnone
  · rw [hword] at hdone
    exact hstill.rested id (h.rested horderly id hdone)
  · intro hlive
    simp [hstill.destroyed] at hlive
  · intro hlive
    simp [hstill.destroyed] at hlive

theorem Still.modify (h : Still s s') (id : OpenId) {f : Flow → Flow}
    (hf : ∀ flow, Rested flow → Rested (f flow)) : Still s (s'.modify id f) := by
  refine ⟨h.destroyed, h.sent, h.count, h.flow, h.idle, fun other hrested => ?_⟩
  have hrested' := h.rested other hrested
  by_cases hid : other = id
  · subst hid
    simpa [NodeChannel.modify] using hf _ hrested'
  · simpa [NodeChannel.modify, hid] using hrested'

/-- A flow that is not torn down may change in any way. -/
theorem Still.modify_live (h : Still s s') (hlive : ¬ Rested (s'.flows id)) (f : Flow → Flow) :
    Still s (s'.modify id f) := by
  refine ⟨h.destroyed, h.sent, h.count, h.flow, h.idle, fun other hrested => ?_⟩
  have hrested' := h.rested other hrested
  by_cases hid : other = id
  · subst hid
    exact absurd hrested' hlive
  · simpa [NodeChannel.modify, hid] using hrested'

theorem rested_destroy (flow : Flow) (h : Rested flow) :
    Rested { flow with upstream := flow.upstream.destroy } := by
  obtain ⟨hended, hupstream⟩ := h
  refine ⟨hended, ?_⟩
  rcases hupstream with hupstream | hupstream | ⟨hupstream, hpassed⟩
  · exact .inl (by simp [hupstream, Upstream.destroy])
  · exact .inr (.inl (by simp [hupstream, Upstream.destroy]))
  · exact .inr (.inr ⟨by simp [hupstream, Upstream.destroy], hpassed⟩)

theorem Still.send (h : Still s s') (id : OpenId) (message : NodeMessage) :
    Still s (s'.send id message) := by
  rwa [NodeChannel.send, if_pos h.destroyed]

theorem Still.safeSendJson (h : Still s s') (id : OpenId) (message : NodeMessage) :
    Still s (s'.safeSendJson id message) := by
  rw [NodeChannel.safeSendJson]
  split_ifs
  · exact h.send id message
  · exact h

theorem Still.release (h : Still s s') : Still s s'.release :=
  ⟨h.destroyed, h.sent, h.count, fun _ hflow => by simp [NodeChannel.release] at hflow,
    fun _ => .inr rfl, h.rested⟩

theorem Still.closeChannel (h : Still s s') : Still s s'.closeChannel := by
  rw [NodeChannel.closeChannel]
  split_ifs
  · exact h
  · have hclosed : Still s
        { s' with
          pooled := false, flow := none, bodyFlow := none, endFlow := none, destroyed := true } :=
      ⟨rfl, h.sent, h.count, fun _ hflow => by simp at hflow, fun _ => .inr rfl, h.rested⟩
    cases s'.flow with
    | none => exact hclosed
    | some id => exact hclosed.modify id rested_destroy

theorem Still.abortFlow (h : Still s s') (id : OpenId) (code : String) :
    Still s (s'.abortFlow id code) := by
  rw [NodeChannel.abortFlow]
  split_ifs
  · exact h
  · have htear : Still s (s'.modify id fun flow =>
        { flow with tearingDown := true, handshakeTimer := false, d7Timer := false }) :=
      h.modify id fun _ hrested => hrested
    exact (htear.safeSendJson id _).closeChannel

theorem Still.finishHttpFlow (h : Still s s') (id : OpenId) : Still s (s'.finishHttpFlow id) := by
  rw [NodeChannel.finishHttpFlow]
  split_ifs
  · exact h
  · have htear : Still s (s'.modify id fun flow =>
        { flow with tearingDown := true, handshakeTimer := false, d7Timer := false }) :=
      h.modify id fun _ hrested => hrested
    exact (htear.safeSendJson id _).release.send id .idle

theorem Still.pumpLoop (h : Still s s') (id : OpenId) (readings : Readings) (k : ℕ)
    (pending : List Buffer) : Still s (pumpLoop id readings k pending s') := by
  induction pending generalizing s' k with
  | nil =>
    rw [NodeChannel.pumpLoop]
    have hdone : Still s (s'.modify id fun flow =>
        { flow with
          requestPumpWaiting := false, d7LastUpstreamQueued := readings.upstreamQueued 0
          d7LastUpstreamProgressAt := readings.now, d7Timer := true }) :=
      h.modify id fun _ hrested => hrested
    split_ifs
    · exact hdone.modify id fun flow hrested => Rested.mono hrested rfl rfl fun _ => by
        simp [Flow.passed]
    · exact hdone
  | cons bytes rest ih =>
    rw [NodeChannel.pumpLoop]
    have hwrite : Still s (s'.modify id fun flow =>
        { flow with
          pendingRequestBytes := rest
          pendingRequestBytesTotal := flow.pendingRequestBytesTotal - bytes.length }) :=
      h.modify id fun _ hrested => hrested
    split_ifs
    · exact h.modify id fun _ hrested => hrested
    · exact hwrite.abortFlow id _
    · exact ih hwrite (k + 1)

theorem Still.pump (h : Still s s') (id : OpenId) (readings : Readings) :
    Still s (s'.pump id readings) := by
  rw [NodeChannel.pump]
  split_ifs
  · exact h.modify id fun _ hrested => hrested
  · exact h.pumpLoop id readings 0 _

theorem Still.abortRequestQueue (h : Still s s') (id : OpenId) (readings : Readings) :
    Still s (s'.abortRequestQueue id readings) := by
  rw [NodeChannel.abortRequestQueue]
  split_ifs
  · exact h
  · have hwaiting : Still s (s'.modify id fun flow => { flow with requestPumpWaiting := true }) :=
      h.modify id fun _ hrested => hrested
    exact hwaiting.pump id readings

theorem sendBinaryChunks_of_destroyed (h : s.destroyed = true) (id : OpenId)
    (readings : Readings) (k : ℕ) (frames : List Buffer) :
    sendBinaryChunks id readings k frames s = s := by
  cases frames with
  | nil => rfl
  | cons frame rest => rw [sendBinaryChunks, if_pos h]

theorem Still.sendUpstreamBytes (h : Still s s') (id : OpenId) (bytes : Buffer)
    (readings : Readings) : Still s (s'.sendUpstreamBytes id bytes readings) := by
  rw [NodeChannel.sendUpstreamBytes]
  split_ifs
  · exact h
  · exact (h.modify id rested_destroy).abortFlow id _
  · rw [sendBinaryChunks_of_destroyed h.destroyed, if_pos h.destroyed]
    exact h

theorem Still.forwardBrowserBytes (h : Still s s') (id : OpenId) (bytes : Buffer)
    (readings : Readings) : Still s (s'.forwardBrowserBytes id bytes readings) := by
  rw [NodeChannel.forwardBrowserBytes]
  dsimp only
  have hqueue : Still s (s'.modify id fun flow =>
      { flow with pendingBrowserBytesTotal := flow.pendingBrowserBytesTotal + bytes.length }) :=
    h.modify id fun _ hrested => hrested
  split_ifs
  · exact h
  · exact hqueue.abortFlow id _
  · exact hqueue.modify id fun _ hrested => hrested
  · exact h.abortFlow id _
  · exact h.modify id fun _ hrested => hrested

theorem Still.complete (h : Still s s') (id : OpenId) (kind : Complete) :
    Still s (s'.complete id kind) := by
  rw [NodeChannel.complete]
  split_ifs
  · exact h
  · have hcompleted : Still s (s'.modify id fun flow => { flow with completed := true }) :=
      h.modify id fun _ hrested => hrested
    cases kind with
    | teardown =>
      have htimer : Still s ((s'.modify id fun flow => { flow with completed := true }).modify id
          fun flow => { flow with d7Timer := false }) :=
        hcompleted.modify id fun _ hrested => hrested
      exact (htimer.safeSendJson id _).release.send id .idle
    | abort requestId =>
      have hfree : Still s
          { s'.modify id fun flow => { flow with completed := true } with
            flow := none, state := .idle } :=
        ⟨hcompleted.destroyed, hcompleted.sent, hcompleted.count,
          fun _ hflow => by simp at hflow, fun _ => .inr rfl, hcompleted.rested⟩
      exact (hfree.send id _).send id .idle

theorem Still.completeWhenClosed (h : Still s s') (id : OpenId) (kind : Complete) :
    Still s (s'.completeWhenClosed id kind) := by
  rw [NodeChannel.completeWhenClosed]
  split_ifs
  · exact h.modify id fun flow hrested => rested_destroy flow hrested
  · exact h.complete id kind

theorem Still.teardownUpgraded (h : Still s s') (id : OpenId) :
    Still s (s'.teardownUpgraded id) := by
  rw [NodeChannel.teardownUpgraded]
  split_ifs
  · exact h
  · have htear : Still s (s'.modify id fun flow =>
        { flow with tearingDown := true, handshakeTimer := false }) :=
      h.modify id fun _ hrested => hrested
    exact htear.completeWhenClosed id .teardown

theorem Still.onUpstreamClose (h : Still s s') (id : OpenId) : Still s (s'.onUpstreamClose id) := by
  rw [NodeChannel.onUpstreamClose]
  split_ifs
  · exact h.teardownUpgraded id
  · exact h.abortFlow id _
  · exact h

theorem Still.onRequestBody (h : Still s s') (id : OpenId) (bytes : Buffer)
    (readings : Readings) : Still s (s'.onRequestBody id bytes readings) := by
  rw [NodeChannel.onRequestBody]
  dsimp only
  have htotal : Still s (s'.modify id fun flow =>
      { flow with pendingRequestBytesTotal := flow.pendingRequestBytesTotal + bytes.length }) :=
    h.modify id fun _ hrested => hrested
  split_ifs
  · exact h.forwardBrowserBytes id bytes readings
  · exact htotal.abortFlow id _
  · have hqueue : Still s ((s'.modify id fun flow =>
        { flow with
          pendingRequestBytesTotal := flow.pendingRequestBytesTotal + bytes.length }).modify id
          fun flow => { flow with pendingRequestBytes := flow.pendingRequestBytes ++ [bytes] }) :=
      htotal.modify id fun _ hrested => hrested
    exact hqueue.abortRequestQueue id readings

theorem Still.onRequestEnd (h : Still s s') (id : OpenId) (readings : Readings) :
    Still s (s'.onRequestEnd id readings) := by
  rw [NodeChannel.onRequestEnd]
  dsimp only
  have hended : Still s (s'.modify id fun flow => { flow with requestEnded := true }) := by
    refine h.modify id fun flow hrested => Rested.mono hrested rfl rfl fun hold => ?_
    simp only [Flow.passed, Bool.or_eq_true, decide_eq_true_eq] at hold ⊢
    exact hold.imp_right fun hold => ⟨hold.1, trivial⟩
  have htimer : Still s ((s'.modify id fun flow => { flow with requestEnded := true }).modify id
      fun flow => { flow with handshakeTimer := false }) :=
    hended.modify id fun _ hrested => hrested
  split_ifs
  · exact h
  · exact hended
  · have hpending : Still s (((s'.modify id fun flow =>
        { flow with requestEnded := true }).modify id
          fun flow => { flow with handshakeTimer := false }).modify id
            fun flow => { flow with requestEndPending := true }) :=
      htimer.modify id fun _ hrested => hrested
    exact hpending.abortRequestQueue id readings
  · exact htimer.modify id fun flow hrested => Rested.mono hrested rfl rfl fun _ => by
      simp [Flow.passed]

theorem Still.onUpgrade (h : Still s s') (id : OpenId) (status : ℕ) (head : Buffer)
    (readings : Readings) (hawaiting : (s'.flows id).upstream = .awaiting) :
    Still s (s'.onUpgrade id status head readings) := by
  have hnot : ¬ Rested (s'.flows id) := by
    simp [Rested, hawaiting]
  rw [NodeChannel.onUpgrade]
  split_ifs
  · exact h.modify_live hnot _
  · dsimp only
    have hfold : ∀ (pending : List Buffer) (s'' : NodeChannel), Still s s'' →
        Still s (pending.foldl
          (fun s bytes => s.forwardBrowserBytes id bytes readings) s'') := by
      intro pending
      induction pending with
      | nil => exact fun _ h => h
      | cons bytes rest ih => exact fun _ h => ih _ (h.forwardBrowserBytes id bytes readings)
    refine Still.modify (hfold _ _ ?_) id fun _ hrested => hrested
    exact ((h.modify_live hnot _).safeSendJson id _).sendUpstreamBytes id head readings

theorem Still.onRequestError (h : Still s s') (id : OpenId) : Still s (s'.onRequestError id) := by
  rw [NodeChannel.onRequestError]
  split_ifs
  · exact h
  · exact h.teardownUpgraded id
  · exact h.abortFlow id _

theorem Still.checkD7 (h : Still s s') (id : OpenId) (readings : Readings) :
    Still s (s'.checkD7 id readings) := by
  have hprogress (channelAt upstreamAt : ℤ) : Still s (s'.modify id fun flow =>
      { flow with
        d7LastChannelProgressAt := channelAt, d7LastUpstreamProgressAt := upstreamAt }) :=
    h.modify id fun _ hrested => hrested
  rw [NodeChannel.checkD7]
  generalize (if (s'.flows id).upgraded = true then readings.upstreamQueued 0
    else readings.upstreamQueued 0 + (s'.flows id).pendingRequestBytesTotal) = upstreamQueued
  dsimp only
  generalize (if readings.channelQueued 0 < (s'.flows id).d7LastChannelQueued then readings.now
    else (s'.flows id).d7LastChannelProgressAt) = channelAt
  generalize (if upstreamQueued < (s'.flows id).d7LastUpstreamQueued then readings.now
    else (s'.flows id).d7LastUpstreamProgressAt) = upstreamAt
  split_ifs
  · exact h
  · exact h.abortFlow id _
  · exact (hprogress channelAt upstreamAt).abortFlow id _
  · exact (hprogress channelAt upstreamAt).abortFlow id _
  · exact (hprogress channelAt upstreamAt).modify id fun _ hrested => hrested

theorem Still.onAbort (h : Still s s') (requestId : Option String) :
    Still s (s'.onAbort requestId) := by
  rw [NodeChannel.onAbort]
  split
  · exact h
  · rename_i id hflow
    dsimp only
    split_ifs
    · exact h
    · have htear : Still s (s'.modify id fun flow => { flow with tearingDown := true }) :=
        h.modify id fun _ hrested => hrested
      have hfree : Still s
          { s'.modify id fun flow => { flow with tearingDown := true } with
            bodyFlow := none, endFlow := none } :=
        ⟨htear.destroyed, htear.sent, htear.count, htear.flow, htear.idle, htear.rested⟩
      exact hfree.completeWhenClosed id _
    · have hfree : Still s { s' with bodyFlow := none } :=
        ⟨h.destroyed, h.sent, h.count, h.flow, h.idle, h.rested⟩
      exact hfree.closeChannel

theorem Still.onChannelSocketClose (h : Still s s') : Still s s'.onChannelSocketClose := by
  refine ⟨h.destroyed, h.sent, h.count, h.flow, h.idle, fun other hrested => ?_⟩
  have hrested' := h.rested other hrested
  simp only [NodeChannel.onChannelSocketClose]
  split_ifs
  · exact rested_destroy _ hrested'
  · exact hrested'

end NodeChannel

end DshOrbit.ReverseNode
