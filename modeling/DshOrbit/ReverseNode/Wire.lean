import DshOrbit.ReverseNode.Grammar

/-!
# The messages of a channel, over whole runs

What a step does to a channel whose socket is open: it goes on with the flow that is served,
sends the end of its response and frees the channel, or breaks it off and closes the channel.

## Main definitions

- `InOrder` — a step that ends the flow only after the request has come to its end
- `Wire` — what the protocol says of the messages for one `open`

## Main results

- `Inv.step` — what every step keeps
- `wire_run` — the messages of a run whose steps are all in order
-/

namespace DshOrbit.ReverseNode

open DshOrbit.Lib DshOrbit.ReverseWs

/-- A change of a flow that no rule looks at. -/
structure Tuned (flow flow' : Flow) : Prop where
  upstream : flow'.upstream = flow.upstream := by rfl
  upgraded : flow'.upgraded = flow.upgraded := by rfl
  tearingDown : flow'.tearingDown = flow.tearingDown := by rfl
  completed : flow'.completed = flow.completed := by rfl
  listeners : flow'.closeListeners = flow.closeListeners := by rfl
  rested : Rested flow → Rested flow' := by exact fun hrested => hrested

/-- What the rules look at. -/
def Flow.core (flow : Flow) : Upstream × Bool × Bool × Bool × List Complete × Bool × Bool :=
  (flow.upstream, flow.upgraded, flow.tearingDown, flow.completed, flow.closeListeners,
    flow.hubEnded, flow.passed)

theorem Tuned.of_core {flow flow' : Flow} (h : flow'.core = flow.core) : Tuned flow flow' := by
  simp only [Flow.core, Prod.mk.injEq] at h
  obtain ⟨hupstream, hupgraded, htear, hcompleted, hlisteners, hended, hpassed⟩ := h
  exact ⟨hupstream, hupgraded, htear, hcompleted, hlisteners, fun hrested =>
    hrested.mono hended hupstream hpassed.trans⟩

theorem Stage.word {flow : Flow} {word : Word} (h : Stage flow word) :
    word = .start ∨ word = .responded := by
  cases h with
  | awaiting => exact .inl rfl
  | responding => exact .inr rfl
  | upgraded => exact .inr rfl
  | closing => exact .inr rfl

theorem Stage.of_awaiting {flow : Flow} {word : Word} (h : Stage flow word)
    (hawaiting : flow.upstream = .awaiting) :
    word = .start ∧ flow.upgraded = false ∧ flow.tearingDown = false ∧
      flow.completed = false ∧ flow.closeListeners = [] := by
  cases h with
  | awaiting hu hg ht hc hl => exact ⟨rfl, hg, ht, hc, hl⟩
  | responding hu => simp [hawaiting] at hu
  | upgraded hu => simp [hawaiting] at hu
  | closing hu => simp [hawaiting] at hu

theorem Stage.of_sending {flow : Flow} {word : Word} (h : Stage flow word)
    (hupstream : flow.upstream = .responding ∨ flow.upstream = .upgraded) :
    word = .responded ∧ flow.tearingDown = false ∧ flow.completed = false ∧
      flow.closeListeners = [] := by
  cases h with
  | awaiting hu => simp [hu] at hupstream
  | responding hu hg ht hc hl => exact ⟨rfl, ht, hc, hl⟩
  | upgraded hu hg ht hc hl => exact ⟨rfl, ht, hc, hl⟩
  | closing hu => simp [hu] at hupstream

theorem Stage.of_upgraded {flow : Flow} {word : Word} (h : Stage flow word)
    (hupgraded : flow.upgraded = true) :
    word = .responded ∧ flow.completed = false ∧
      (flow.tearingDown = false ∧ flow.closeListeners = [] ∧
        (flow.upstream = .upgraded ∨ flow.upstream = .destroyed) ∨
      flow.tearingDown = true ∧ flow.closeListeners ≠ [] ∧ flow.upstream = .destroyed) := by
  cases h with
  | awaiting hu hg => simp [hupgraded] at hg
  | responding hu hg => simp [hupgraded] at hg
  | upgraded hu hg ht hc hl => exact ⟨rfl, hc, .inl ⟨ht, hl, hu⟩⟩
  | closing hu hg ht hc hl => exact ⟨rfl, hc, .inr ⟨ht, hl, hu⟩⟩

theorem Stage.upgraded_of_socket {flow : Flow} {word : Word} (h : Stage flow word)
    (hupstream : flow.upstream = .upgraded ∨ flow.upstream = .destroyed) :
    flow.upgraded = true := by
  cases h with
  | awaiting hu => simp [hu] at hupstream
  | responding hu => simp [hu] at hupstream
  | upgraded hu hg => exact hg
  | closing hu hg => exact hg

theorem Stage.of_tearingDown {flow : Flow} {word : Word} (h : Stage flow word)
    (htear : flow.tearingDown = true) : flow.upstream = .destroyed := by
  cases h with
  | awaiting hu hg ht => simp [htear] at ht
  | responding hu hg ht => simp [htear] at ht
  | upgraded hu hg ht => simp [htear] at ht
  | closing hu => exact hu

namespace NodeChannel

variable {Orderly : Prop} {s s' : NodeChannel} {id : OpenId}

/-! ### Changing a flow, sending a message -/

theorem sentFor_send (h : s.destroyed = false) (id other : OpenId) (message : NodeMessage) :
    (s.send id message).sentFor other =
      if other = id then s.sentFor id ++ [message] else s.sentFor other := by
  rw [send, if_neg (by simp [h]), sentFor, List.filter_append, List.map_append]
  by_cases hid : other = id
  · simp [hid, sentFor]
  · simp [hid, Ne.symm hid, sentFor]

theorem word_send (h : s.destroyed = false) (id other : OpenId) (message : NodeMessage) :
    (s.send id message).word other =
      if other = id then (s.word id).next message else s.word other := by
  rw [word, sentFor_send h]
  split_ifs
  · rw [List.foldl_append]
    rfl
  · rfl

theorem flows_modify (id other : OpenId) (f : Flow → Flow) :
    (s.modify id f).flows other = if other = id then f (s.flows id) else s.flows other := by
  by_cases hid : other = id
  · simp [modify, hid]
  · simp [modify, hid]

@[simp]
theorem flows_modify_self (id : OpenId) (f : Flow → Flow) :
    (s.modify id f).flows id = f (s.flows id) := by
  rw [flows_modify, if_pos rfl]

@[simp] theorem destroyed_send (id : OpenId) (message : NodeMessage) :
    (s.send id message).destroyed = s.destroyed := by
  rw [send]
  split_ifs <;> rfl

@[simp] theorem flow_send (id : OpenId) (message : NodeMessage) :
    (s.send id message).flow = s.flow := by
  rw [send]
  split_ifs <;> rfl

@[simp] theorem flows_send (id : OpenId) (message : NodeMessage) :
    (s.send id message).flows = s.flows := by
  rw [send]
  split_ifs <;> rfl

@[simp] theorem count_send (id : OpenId) (message : NodeMessage) :
    (s.send id message).count = s.count := by
  rw [send]
  split_ifs <;> rfl

@[simp] theorem pooled_send (id : OpenId) (message : NodeMessage) :
    (s.send id message).pooled = s.pooled := by
  rw [send]
  split_ifs <;> rfl

@[simp] theorem state_send (id : OpenId) (message : NodeMessage) :
    (s.send id message).state = s.state := by
  rw [send]
  split_ifs <;> rfl

@[simp] theorem flows_safeSendJson (id : OpenId) (message : NodeMessage) :
    (s.safeSendJson id message).flows = s.flows := by
  rw [safeSendJson]
  split_ifs
  · exact flows_send id message
  · rfl

theorem safeSendJson_current (h : s.flow = some id) (message : NodeMessage) :
    s.safeSendJson id message = s.send id message := by
  rw [safeSendJson, if_pos h]

theorem Base.modify (h : Base Orderly s) (id : OpenId) {f : Flow → Flow}
    (hf : s.word id = .done → Rested (s.flows id) → Rested (f (s.flows id))) :
    Base Orderly (s.modify id f) := by
  refine ⟨h.pooled, h.word, h.fresh, h.counted, h.idle, ?_⟩
  intro horderly other hdone
  rw [flows_modify]
  split_ifs with hid
  · subst hid
    exact hf hdone (h.rested horderly other hdone)
  · exact h.rested horderly other hdone

theorem Base.send (h : Base Orderly s) (hlive : s.destroyed = false) (hid : id < s.count)
    (message : NodeMessage) {word : Word} (hnext : (s.word id).next message = word)
    (hbad : word ≠ .bad) (hdone : word = .done → Orderly → Rested (s.flows id)) :
    Base Orderly (s.send id message) := by
  subst hnext
  refine ⟨?_, ?_, ?_, ?_, ?_, ?_⟩
  · simpa using h.pooled
  · intro other
    rw [word_send hlive]
    split_ifs
    · exact hbad
    · exact h.word other
  · intro other hother
    rw [count_send] at hother
    rw [sentFor_send hlive, if_neg (hid.trans_le hother).ne']
    exact h.fresh other hother
  · simpa using h.counted
  · simpa using h.idle
  · intro horderly other hword
    rw [word_send hlive] at hword
    rw [flows_send]
    split_ifs at hword with hother
    · subst hother
      exact hdone hword horderly
    · exact h.rested horderly other hword

theorem Inv.tune (h : Inv Orderly s) (id : OpenId) {f : Flow → Flow}
    (hf : Tuned (s.flows id) (f (s.flows id))) : Inv Orderly (s.modify id f) := by
  refine ⟨h.toBase.modify id fun _ => hf.rested, h.aborted, ?_, ?_⟩
  · intro hlive other hother
    rw [flows_modify]
    split_ifs with hid
    · have hover := h.others hlive id (hid ▸ hother)
      exact hover.congr hf.upstream hf.tearingDown hf.completed hf.listeners
    · exact h.others hlive other hother
  · intro hlive other hother
    rw [flows_modify]
    split_ifs with hid
    · have hstage := h.stage hlive id (hid ▸ hother)
      rw [hid]
      exact hstage.congr hf.upstream hf.upgraded hf.tearingDown hf.completed hf.listeners
    · exact h.stage hlive other hother

/-- A flow that the channel does not serve may change as long as it stays over. -/
theorem Inv.modify_over (h : Inv Orderly s) (id : OpenId) {f : Flow → Flow}
    (hnot : s.flow ≠ some id) (hf : Over (s.flows id) → Over (f (s.flows id)))
    (hrested : Rested (s.flows id) → Rested (f (s.flows id))) :
    Inv Orderly (s.modify id f) := by
  refine ⟨h.toBase.modify id fun _ => hrested, h.aborted, ?_, ?_⟩
  · intro hlive other hother
    rw [flows_modify]
    split_ifs
    · exact hf (h.others hlive id hnot)
    · exact h.others hlive other hother
  · intro hlive other hother
    have hid : other ≠ id := by
      rintro rfl
      exact hnot hother
    rw [flows_modify, if_neg hid]
    exact h.stage hlive other hother

/-- A flow that may still send is the one that the channel serves. -/
theorem Inv.current (h : Inv Orderly s) (hlive : s.destroyed = false)
    (hopen : (s.flows id).tearingDown = false ∨ (s.flows id).upstream = .awaiting ∨
      (s.flows id).upstream = .responding ∨ (s.flows id).upstream = .upgraded) :
    s.flow = some id := by
  by_contra hnot
  have hover := h.others hlive id hnot
  have hupstream := hover.upstream
  rcases hopen with hopen | hopen | hopen | hopen
  · simp [hover.tearingDown] at hopen
  · simp [hopen] at hupstream
  · simp [hopen] at hupstream
  · simp [hopen] at hupstream

/-! ### Breaking a flow off -/

/-- Closing the channel, whatever flow it serves. -/
theorem still_closeChannel (hpooled : s.pooled = false → s.destroyed = true) :
    Still s s.closeChannel := by
  rw [NodeChannel.closeChannel]
  split_ifs with hnot
  · exact .refl (hpooled (by simpa using hnot))
  · have hclosed : Still s
        { s with
          pooled := false, flow := none, bodyFlow := none, endFlow := none, destroyed := true } :=
      ⟨rfl, rfl, rfl, fun _ hflow => by simp at hflow, fun _ => .inr rfl, fun _ hrested => hrested⟩
    cases s.flow with
    | none => exact hclosed
    | some id => exact hclosed.modify id rested_destroy

theorem Base.closeChannel (h : Base Orderly s) : Inv Orderly s.closeChannel :=
  h.still (still_closeChannel h.pooled)

/-- The abort of the flow that is served is its last message. -/
theorem Base.abortFlow (h : Base Orderly s) (hlive : s.destroyed = false)
    (hflow : s.flow = some id) (hopen : (s.flows id).tearingDown = false)
    (hword : s.word id = .start ∨ s.word id = .responded) (code : String) :
    Inv Orderly (s.abortFlow id code) ∧ (s.abortFlow id code).destroyed = true := by
  have hnext (requestId : String) : (s.word id).next (.abort requestId code) = .aborted := by
    rcases hword with hword | hword
    · rw [hword]
      rfl
    · rw [hword]
      rfl
  rw [NodeChannel.abortFlow]
  simp only [hopen, Bool.false_eq_true, if_false]
  rw [safeSendJson_current (by exact hflow)]
  have htorn : Base Orderly (s.modify id fun flow =>
      { flow with tearingDown := true, handshakeTimer := false, d7Timer := false }) :=
    h.modify id fun _ hrested => hrested
  have hsent := htorn.send hlive (h.counted id hflow) _ (hnext (s.flows id).opened) (by decide)
    (fun hdone => by cases hdone)
  exact ⟨hsent.closeChannel, (still_closeChannel hsent.pooled).destroyed⟩

/-- An abort on account of an event that changes the flow. -/
theorem Inv.modify_abortFlow (h : Inv Orderly s) (hlive : s.destroyed = false)
    (hopen : (s.flows id).tearingDown = false) (code : String) {f : Flow → Flow}
    (hf : (f (s.flows id)).tearingDown = false) :
    Inv Orderly ((s.modify id f).abortFlow id code) ∧
      ((s.modify id f).abortFlow id code).destroyed = true := by
  have hflow := h.current hlive (.inl hopen)
  have hword := (h.stage hlive id hflow).word
  have hbase : Base Orderly (s.modify id f) := by
    refine h.toBase.modify id fun hdone => ?_
    rcases hword with hword | hword
    · simp [hword] at hdone
    · simp [hword] at hdone
  refine hbase.abortFlow hlive hflow ?_ hword code
  rw [flows_modify_self]
  exact hf

theorem Inv.abortFlow (h : Inv Orderly s) (id : OpenId) (code : String) :
    Inv Orderly (s.abortFlow id code) := by
  cases hlive : s.destroyed with
  | true => exact h.still ((Still.refl hlive).abortFlow id code)
  | false =>
    cases hopen : (s.flows id).tearingDown with
    | true =>
      rw [NodeChannel.abortFlow]
      simpa only [hopen, if_true] using h
    | false =>
      have hflow := h.current hlive (.inl hopen)
      exact (h.toBase.abortFlow hlive hflow hopen (h.stage hlive id hflow).word code).1

/-! ### Requests -/

theorem Inv.pumpLoop (h : Inv Orderly s) (id : OpenId) (readings : Readings) (k : ℕ)
    (pending : List Buffer) : Inv Orderly (pumpLoop id readings k pending s) := by
  induction pending generalizing s k with
  | nil =>
    rw [NodeChannel.pumpLoop]
    have hdone := h.tune id (f := fun flow =>
      { flow with
        requestPumpWaiting := false, d7LastUpstreamQueued := readings.upstreamQueued 0
        d7LastUpstreamProgressAt := readings.now, d7Timer := true }) (.of_core rfl)
    split_ifs
    · refine hdone.tune id ⟨rfl, rfl, rfl, rfl, rfl, fun hrested => ?_⟩
      refine Rested.mono hrested rfl rfl fun _ => ?_
      simp [Flow.passed]
    · exact hdone
  | cons bytes rest ih =>
    rw [NodeChannel.pumpLoop]
    have hwrite := h.tune id (f := fun flow =>
      { flow with
        pendingRequestBytes := rest
        pendingRequestBytesTotal := flow.pendingRequestBytesTotal - bytes.length }) (.of_core rfl)
    split_ifs
    · exact h.tune id (.of_core rfl)
    · exact hwrite.abortFlow id _
    · exact ih hwrite (k + 1)

theorem Inv.pump (h : Inv Orderly s) (id : OpenId) (readings : Readings) :
    Inv Orderly (s.pump id readings) := by
  rw [NodeChannel.pump]
  split_ifs
  · exact h.tune id (.of_core rfl)
  · exact h.pumpLoop id readings 0 _

theorem Inv.abortRequestQueue (h : Inv Orderly s) (id : OpenId) (readings : Readings) :
    Inv Orderly (s.abortRequestQueue id readings) := by
  rw [NodeChannel.abortRequestQueue]
  split_ifs
  · exact h
  · refine Inv.pump (h.tune id ?_) id readings
    exact .of_core rfl

theorem Inv.forwardBrowserBytes (h : Inv Orderly s) (id : OpenId) (bytes : Buffer)
    (readings : Readings) : Inv Orderly (s.forwardBrowserBytes id bytes readings) := by
  rw [NodeChannel.forwardBrowserBytes]
  dsimp only
  have hqueue := h.tune id (f := fun flow =>
    { flow with pendingBrowserBytesTotal := flow.pendingBrowserBytesTotal + bytes.length }) (.of_core rfl)
  split_ifs
  · exact h
  · exact hqueue.abortFlow id _
  · exact hqueue.tune id (.of_core rfl)
  · exact h.abortFlow id _
  · exact h.tune id (.of_core rfl)

theorem Inv.onRequestBody (h : Inv Orderly s) (id : OpenId) (bytes : Buffer)
    (readings : Readings) : Inv Orderly (s.onRequestBody id bytes readings) := by
  rw [NodeChannel.onRequestBody]
  dsimp only
  have htotal := h.tune id (f := fun flow =>
    { flow with pendingRequestBytesTotal := flow.pendingRequestBytesTotal + bytes.length }) (.of_core rfl)
  split_ifs
  · exact h.forwardBrowserBytes id bytes readings
  · exact htotal.abortFlow id _
  · refine Inv.abortRequestQueue (htotal.tune id ?_) id readings
    exact .of_core rfl

theorem Inv.onRequestEnd (h : Inv Orderly s) (id : OpenId) (readings : Readings) :
    Inv Orderly (s.onRequestEnd id readings) := by
  rw [NodeChannel.onRequestEnd]
  dsimp only
  have hended : Inv Orderly (s.modify id fun flow => { flow with requestEnded := true }) := by
    refine h.tune id ⟨rfl, rfl, rfl, rfl, rfl, fun hrested => ?_⟩
    refine Rested.mono hrested rfl rfl fun hold => ?_
    simp only [Flow.passed, Bool.or_eq_true, decide_eq_true_eq] at hold ⊢
    exact hold.imp_right fun hold => ⟨hold.1, trivial⟩
  split_ifs
  · exact h
  · exact hended
  · refine Inv.abortRequestQueue (Inv.tune (Inv.tune hended id ?_) id ?_) id readings
    · exact .of_core rfl
    · exact .of_core rfl
  · refine Inv.tune (Inv.tune hended id ?_) id ⟨rfl, rfl, rfl, rfl, rfl, fun hrested => ?_⟩
    · exact .of_core rfl
    · exact Rested.mono hrested rfl rfl fun _ => by simp [Flow.passed]

/-! ### The flow that is served -/

/-- The channel serves a flow; nothing is said of that flow. -/
structure Held (Orderly : Prop) (s : NodeChannel) (id : OpenId) : Prop extends Base Orderly s where
  live : s.destroyed = false
  flow : s.flow = some id
  others : ∀ other, other ≠ id → Over (s.flows other)
  unbroken : ∀ other, other ≠ id → s.word other ≠ .aborted

theorem Inv.held (h : Inv Orderly s) (hlive : s.destroyed = false) (hflow : s.flow = some id) :
    Held Orderly s id := by
  refine ⟨h.toBase, hlive, hflow, ?_, ?_⟩
  · intro other hother
    refine h.others hlive other fun hflow' => hother ?_
    rw [hflow] at hflow'
    exact (Option.some.inj hflow').symm
  · intro other _ haborted
    have hdead := h.aborted other haborted
    simp [hlive] at hdead

theorem Held.modify (h : Held Orderly s id) (hword : s.word id ≠ .done) (f : Flow → Flow) :
    Held Orderly (s.modify id f) id := by
  refine ⟨h.toBase.modify id fun hdone => absurd hdone hword, h.live, h.flow, ?_, h.unbroken⟩
  intro other hother
  rw [flows_modify, if_neg hother]
  exact h.others other hother

theorem Held.inv (h : Held Orderly s id) (hstage : Stage (s.flows id) (s.word id)) :
    Inv Orderly s := by
  refine ⟨h.toBase, ?_, ?_, ?_⟩
  · intro other haborted
    by_cases hother : other = id
    · subst hother
      rcases hstage.word with hword | hword
      · simp [hword] at haborted
      · simp [hword] at haborted
    · exact absurd haborted (h.unbroken other hother)
  · intro _ other hother
    refine h.others other fun hid => hother ?_
    rw [hid]
    exact h.flow
  · intro _ other hflow
    obtain rfl : id = other := Option.some.inj (h.flow.symm.trans hflow)
    exact hstage

/-- The flow goes on with one more message. -/
theorem Held.send (h : Held Orderly s id) {message : NodeMessage} {word : Word}
    (hnext : (s.word id).next message = word) (hstage : Stage (s.flows id) word) :
    Inv Orderly (s.send id message) := by
  have hword := word_send h.live id id message
  rw [if_pos rfl, hnext] at hword
  have hbase : Base Orderly (s.send id message) := by
    refine h.toBase.send h.live (h.counted id h.flow) message hnext ?_ ?_
    · rcases hstage.word with hstage | hstage <;> simp [hstage]
    · rcases hstage.word with hstage | hstage <;> simp [hstage]
  have hheld : Held Orderly (s.send id message) id := by
    refine ⟨hbase, by simpa using h.live, by simpa using h.flow, ?_, ?_⟩
    · intro other hother
      rw [flows_send]
      exact h.others other hother
    · intro other hother
      rw [word_send h.live, if_neg hother]
      exact h.unbroken other hother
  refine hheld.inv ?_
  rw [flows_send, hword]
  exact hstage

/-- The end of the response, and the channel is free. -/
theorem Held.free (h : Held Orderly s id) (hword : s.word id = .responded)
    (hover : Over (s.flows id)) (hrested : Orderly → Rested (s.flows id)) (ended : Option String)
    (hsent : s'.sent = s.sent ++ [(id, .responseEnd ended), (id, .idle)]) (hflow : s'.flow = none)
    (hpooled : s'.pooled = s.pooled) (hcount : s'.count = s.count) (hflows :
      s'.flows = s.flows) : Inv Orderly s' := by
  have hid := h.counted id h.flow
  have hnext : (s.word id).next (.responseEnd ended) = .ended := by
    rw [hword]
    rfl
  have hended := h.toBase.send h.live hid (.responseEnd ended) hnext (by decide)
    (fun hdone => by cases hdone)
  have hlive' : (s.send id (.responseEnd ended)).destroyed = false := by simpa using h.live
  have hword' : (s.send id (.responseEnd ended)).word id = .ended := by
    rw [word_send h.live, if_pos rfl, hword]
    rfl
  have hidle := hended.send hlive' (by simpa using hid) .idle (congrArg (·.next .idle) hword')
    (by decide) (fun _ => by simpa using hrested)
  have hboth : s'.sent = ((s.send id (.responseEnd ended)).send id .idle).sent := by
    simp [NodeChannel.send, h.live, hsent]
  have hsame := word_of_sent hboth
  have hothers (other : OpenId) : Over (s.flows other) := by
    by_cases hother : other = id
    · subst hother
      exact hover
    · exact h.others other hother
  refine ⟨⟨?_, ?_, ?_, ?_, fun _ => hflow, ?_⟩, ?_, ?_, ?_⟩
  · intro hnot
    have hdead := h.pooled (hpooled ▸ hnot)
    simp [h.live] at hdead
  · intro other
    rw [hsame]
    exact hidle.word other
  · intro other hother
    rw [sentFor_of_sent hboth]
    refine hidle.fresh other ?_
    simpa [hcount] using hother
  · simp [hflow]
  · intro horderly other hdone
    rw [hsame] at hdone
    simpa [hflows] using hidle.rested horderly other hdone
  · intro other haborted
    rw [hsame] at haborted
    by_cases hother : other = id
    · rw [word_send hlive', if_pos hother, hword'] at haborted
      cases haborted
    · rw [word_send hlive', if_neg hother, word_send h.live, if_neg hother] at haborted
      exact absurd haborted (h.unbroken other hother)
  · intro _ other _
    rw [hflows]
    exact hothers other
  · simp [hflow]

theorem Held.finish (h : Held Orderly s id) (hword : s.word id = .responded)
    (hover : Over (s.flows id)) (hrested : Orderly → Rested (s.flows id))
    (ended : Option String) :
    Inv Orderly ((s.safeSendJson id (.responseEnd ended)).release.send id .idle) := by
  rw [safeSendJson_current h.flow]
  refine h.free hword hover hrested ended ?_ ?_ ?_ ?_ ?_
  · simp [NodeChannel.send, release, h.live]
  · rw [flow_send]
    rfl
  · rw [pooled_send]
    exact pooled_send _ _
  · rw [count_send]
    exact count_send _ _
  · rw [flows_send]
    exact flows_send _ _

/-! ### Responses -/

theorem Inv.response (h : Inv Orderly s) (hlive : s.destroyed = false)
    (hawaiting : (s.flows id).upstream = .awaiting) (requestId : String) (status : ℕ)
    {f : Flow → Flow} (hstage : Stage (f (s.flows id)) .responded) :
    Inv Orderly ((s.modify id f).safeSendJson id (.response requestId status)) := by
  have hflow := h.current hlive (.inr (.inl hawaiting))
  have hword := ((h.stage hlive id hflow).of_awaiting hawaiting).1
  rw [safeSendJson_current (by exact hflow)]
  have hheld := (h.held hlive hflow).modify (by rw [hword]; decide) f
  have hnext : ((s.modify id f).word id).next (.response requestId status) = .responded := by
    rw [show (s.modify id f).word id = .start from hword]
    rfl
  refine hheld.send hnext ?_
  rw [flows_modify_self]
  exact hstage

/-- The channel carries the bytes of the flow that it serves. -/
theorem Inv.sendBinaryChunks (h : Inv Orderly s) (readings : Readings) (k : ℕ)
    (frames : List Buffer)
    (hopen : s.destroyed = false →
      s.flow = some id ∧ (s.flows id).tearingDown = false ∧ s.word id = .responded) :
    Inv Orderly (sendBinaryChunks id readings k frames s) := by
  induction frames generalizing s k with
  | nil => exact h
  | cons frame rest ih =>
    rw [NodeChannel.sendBinaryChunks]
    split_ifs with hdead hcap
    · exact h
    all_goals
      have hlive : s.destroyed = false := by simpa using hdead
      obtain ⟨hflow, htear, hword⟩ := hopen hlive
      have hstage := h.stage hlive id hflow
      have hnext : (s.word id).next (.binary frame) = s.word id := by
        rw [hword]
        rfl
      have hsent := (h.held hlive hflow).send hnext hstage
    · have htear' : ((s.send id (.binary frame)).flows id).tearingDown = false := by
        rw [flows_send]
        exact htear
      have hbroken := hsent.modify_abortFlow (by simpa using hlive) htear' "flow-overrun"
        (f := fun flow => { flow with upstream := flow.upstream.destroy }) htear'
      refine ih hbroken.1 (k + 1) ?_
      intro halive
      rw [hbroken.2] at halive
      cases halive
    · refine ih hsent (k + 1) fun _ => ⟨by simpa using hflow, by simpa using htear, ?_⟩
      rw [word_send hlive, if_pos rfl, hnext, hword]

theorem Inv.sendUpstreamBytes (h : Inv Orderly s) (bytes : Buffer) (readings : Readings)
    (hopen : s.destroyed = false →
      s.flow = some id ∧ (s.flows id).tearingDown = false ∧ s.word id = .responded) :
    Inv Orderly (s.sendUpstreamBytes id bytes readings) := by
  cases hlive : s.destroyed with
  | true => exact h.still ((Still.refl hlive).sendUpstreamBytes id bytes readings)
  | false =>
    obtain ⟨-, htear, -⟩ := hopen hlive
    have hchunks := h.sendBinaryChunks readings 0 (bytes.toChunks channelFrameMaxBytes) hopen
    rw [NodeChannel.sendUpstreamBytes]
    dsimp only
    split_ifs
    · exact h
    · exact (h.modify_abortFlow hlive htear _ (by exact htear)).1
    · exact hchunks
    · exact hchunks.tune id (.of_core rfl)

/-- What a flow is that gets bytes from the local side. -/
theorem Inv.sending (h : Inv Orderly s)
    (hupstream : (s.flows id).upstream = .responding ∨ (s.flows id).upstream = .upgraded)
    (hlive : s.destroyed = false) :
    s.flow = some id ∧ (s.flows id).tearingDown = false ∧ s.word id = .responded := by
  have hflow := h.current hlive (.inr (.inr hupstream))
  obtain ⟨hword, htear, -⟩ := (h.stage hlive id hflow).of_sending hupstream
  exact ⟨hflow, htear, hword⟩

theorem Inv.onUpgrade (h : Inv Orderly s) (hawaiting : (s.flows id).upstream = .awaiting)
    (status : ℕ) (head : Buffer) (readings : Readings) :
    Inv Orderly (s.onUpgrade id status head readings) := by
  cases hlive : s.destroyed with
  | true => exact h.still ((Still.refl hlive).onUpgrade id status head readings hawaiting)
  | false =>
    have hflow := h.current hlive (.inr (.inl hawaiting))
    obtain ⟨-, -, htear, hcompleted, hlisteners⟩ := (h.stage hlive id hflow).of_awaiting hawaiting
    have hfold : ∀ (pending : List Buffer) (s' : NodeChannel), Inv Orderly s' →
        Inv Orderly (pending.foldl
          (fun s bytes => s.forwardBrowserBytes id bytes readings) s') := by
      intro pending
      induction pending with
      | nil => exact fun _ h => h
      | cons bytes rest ih => exact fun _ h => ih _ (h.forwardBrowserBytes id bytes readings)
    rw [NodeChannel.onUpgrade, if_neg (by simp [htear])]
    dsimp only
    refine Inv.tune (hfold _ _ ?_) id (.of_core rfl)
    refine Inv.sendUpstreamBytes (h.response hlive hawaiting _ status ?_) head readings ?_
    · exact .upgraded (.inl rfl) rfl htear hcompleted hlisteners
    · intro hopen
      refine (h.response hlive hawaiting _ status ?_).sending (.inr ?_) hopen
      · exact .upgraded (.inl rfl) rfl htear hcompleted hlisteners
      · rw [safeSendJson_current (by exact hflow), flows_send, flows_modify_self]

theorem Inv.respond (h : Inv Orderly s) (hawaiting : (s.flows id).upstream = .awaiting)
    (status : ℕ) :
    Inv Orderly ((s.modify id fun flow => { flow with upstream := .responding }).safeSendJson id
      (.response (s.flows id).opened status)) := by
  cases hlive : s.destroyed with
  | true =>
    have hnot : ¬ Rested (s.flows id) := by
      simp [Rested, hawaiting]
    exact h.still (((Still.refl hlive).modify_live hnot _).safeSendJson id _)
  | false =>
    have hflow := h.current hlive (.inr (.inl hawaiting))
    obtain ⟨-, hupgraded, htear, hcompleted, hlisteners⟩ :=
      (h.stage hlive id hflow).of_awaiting hawaiting
    exact h.response hlive hawaiting _ status (.responding rfl hupgraded htear hcompleted hlisteners)

theorem Inv.finishHttpFlow (h : Inv Orderly s) (hlive : s.destroyed = false)
    (hresponding : (s.flows id).upstream = .responding)
    (hrested : Orderly → (s.flows id).hubEnded = true ∧ (s.flows id).passed = true) :
    Inv Orderly ((s.modify id fun flow => { flow with upstream := .ended }).finishHttpFlow id) := by
  have hflow := h.current hlive (.inr (.inr (.inl hresponding)))
  obtain ⟨hword, htear, -, hlisteners⟩ := (h.stage hlive id hflow).of_sending (.inl hresponding)
  rw [NodeChannel.finishHttpFlow, flows_modify_self, if_neg (by simp [htear])]
  have hheld := ((h.held hlive hflow).modify (by rw [hword]; decide)
    fun flow => { flow with upstream := .ended }).modify (by exact hword ▸ by decide)
    fun flow => { flow with tearingDown := true, handshakeTimer := false, d7Timer := false }
  refine hheld.finish hword ?_ ?_ _
  · rw [flows_modify_self, flows_modify_self]
    exact ⟨rfl, .inl rfl, .inl hlisteners⟩
  · intro horderly
    rw [flows_modify_self, flows_modify_self]
    exact ⟨(hrested horderly).1, .inr (.inr ⟨rfl, (hrested horderly).2⟩)⟩

/-! ### The upgraded socket -/

theorem complete_of_completed (h : (s.flows id).completed = true) (kind : Complete) :
    s.complete id kind = s := by
  rw [complete, if_pos h]

theorem foldl_complete_of_completed (h : (s.flows id).completed = true) (kinds : List Complete) :
    kinds.foldl (fun s kind => s.complete id kind) s = s := by
  induction kinds with
  | nil => rfl
  | cons kind rest ih => rwa [List.foldl_cons, complete_of_completed h]

theorem completed_complete (s : NodeChannel) (id : OpenId) (kind : Complete) :
    ((s.complete id kind).flows id).completed = true := by
  by_cases hcompleted : (s.flows id).completed = true
  · rwa [complete_of_completed hcompleted]
  · rw [complete, if_neg hcompleted]
    cases kind with
    | teardown => simp [release, flows_safeSendJson]
    | abort requestId => simp [modify]

/-- The upgraded socket is gone, and the flow is completed. -/
theorem Held.complete (h : Held Orderly s id) (hword : s.word id = .responded)
    (htear : (s.flows id).tearingDown = true) (hcompleted : (s.flows id).completed = false)
    (hupstream : (s.flows id).upstream = .destroyed ∨ (s.flows id).upstream = .closed)
    (hended : Orderly → (s.flows id).hubEnded = true) (kind : Complete) :
    Inv Orderly (s.complete id kind) := by
  have hgone : (s.flows id).upstream = .ended ∨ (s.flows id).upstream = .destroyed ∨
      (s.flows id).upstream = .closed := .inr hupstream
  have hrested : (s.flows id).upstream = .destroyed ∨ (s.flows id).upstream = .closed ∨
      (s.flows id).upstream = .ended ∧ (s.flows id).passed = true := by
    rcases hupstream with hupstream | hupstream
    · exact .inl hupstream
    · exact .inr (.inl hupstream)
  have hnotdone : s.word id ≠ .done := by
    rw [hword]
    decide
  have hheld := h.modify hnotdone fun flow => { flow with completed := true }
  rw [NodeChannel.complete, if_neg (by simp [hcompleted])]
  cases kind with
  | teardown =>
    have hheld' := hheld.modify hnotdone fun flow => { flow with d7Timer := false }
    refine hheld'.finish hword ?_ ?_ _
    · rw [flows_modify_self, flows_modify_self]
      exact ⟨htear, hgone, .inr rfl⟩
    · intro horderly
      rw [flows_modify_self, flows_modify_self]
      exact ⟨hended horderly, hrested⟩
  | abort requestId =>
    refine hheld.free hword ?_ ?_ requestId ?_ ?_ ?_ ?_ ?_
    · rw [flows_modify_self]
      exact ⟨htear, hgone, .inr rfl⟩
    · intro horderly
      rw [flows_modify_self]
      exact ⟨hended horderly, hrested⟩
    · simp [NodeChannel.send, NodeChannel.modify, h.live]
    · rw [flow_send, flow_send]
    · rw [pooled_send, pooled_send]
    · rw [count_send, count_send]
    · rw [flows_send, flows_send]

/-- The upgraded socket is destroyed, or it is gone already and the flow is completed. -/
theorem Held.completeWhenClosed (h : Held Orderly s id) (hword : s.word id = .responded)
    (htear : (s.flows id).tearingDown = true) (hcompleted : (s.flows id).completed = false)
    (hupgraded : (s.flows id).upgraded = true)
    (hupstream : (s.flows id).upstream = .upgraded ∨ (s.flows id).upstream = .destroyed ∨
      (s.flows id).upstream = .closed)
    (hended : Orderly → (s.flows id).upstream ≠ .upgraded → (s.flows id).hubEnded = true)
    (kind : Complete) : Inv Orderly (s.completeWhenClosed id kind) := by
  rw [NodeChannel.completeWhenClosed]
  split_ifs with hlive
  · refine (h.modify (by rw [hword]; decide) _).inv ?_
    rw [flows_modify_self, show (s.modify id _).word id = .responded from hword]
    exact .closing (by simp [hlive, Upstream.destroy]) hupgraded htear hcompleted (by simp)
  · have hgone := hupstream.resolve_left hlive
    exact h.complete hword htear hcompleted hgone (fun horderly => hended horderly hlive) kind

theorem Held.teardownUpgraded (h : Held Orderly s id) (hword : s.word id = .responded)
    (htear : (s.flows id).tearingDown = false) (hcompleted : (s.flows id).completed = false)
    (hupgraded : (s.flows id).upgraded = true)
    (hupstream : (s.flows id).upstream = .upgraded ∨ (s.flows id).upstream = .destroyed ∨
      (s.flows id).upstream = .closed)
    (hended : Orderly → (s.flows id).upstream ≠ .upgraded → (s.flows id).hubEnded = true) :
    Inv Orderly (s.teardownUpgraded id) := by
  rw [NodeChannel.teardownUpgraded, if_neg (by simp [htear])]
  refine (h.modify (by rw [hword]; decide) _).completeWhenClosed hword ?_ ?_ ?_ ?_ ?_ .teardown
  · rw [flows_modify_self]
  · rwa [flows_modify_self]
  · rwa [flows_modify_self]
  · rwa [flows_modify_self]
  · rwa [flows_modify_self]

/-- The upgraded socket has gone by itself. -/
theorem teardownUpgraded_gone (htear : (s.flows id).tearingDown = false)
    (hgone : (s.flows id).upstream ≠ .upgraded) :
    s.teardownUpgraded id = (s.modify id fun flow =>
      { flow with tearingDown := true, handshakeTimer := false }).complete id .teardown := by
  rw [teardownUpgraded, if_neg (by simp [htear]), completeWhenClosed, flows_modify_self,
    if_neg hgone]

/-! ### Events -/

/-- The request id that the abort handler compares is never there, so only an abort that
names no request is taken. -/
theorem Inv.onAbort (h : Inv Orderly s) (requestId : Option String)
    (hended : Orderly → ∀ id, s.flow = some id → requestId = none →
      (s.flows id).upgraded = true → (s.flows id).upstream ≠ .upgraded →
      (s.flows id).hubEnded = true) : Inv Orderly (s.onAbort requestId) := by
  cases hlive : s.destroyed with
  | true => exact h.still ((Still.refl hlive).onAbort requestId)
  | false =>
    rw [NodeChannel.onAbort]
    split
    · exact h
    · rename_i id hflow
      dsimp only
      split_ifs with hother hupgraded
      · exact h
      · obtain ⟨hword, hcompleted, hcases⟩ := (h.stage hlive id hflow).of_upgraded hupgraded.2
        have hupstream : (s.flows id).upstream = .upgraded ∨ (s.flows id).upstream = .destroyed ∨
            (s.flows id).upstream = .closed := by
          rcases hcases with ⟨-, -, hu | hu⟩ | ⟨-, -, hu⟩
          · exact .inl hu
          · exact .inr (.inl hu)
          · exact .inr (.inl hu)
        have hheld := (h.held hlive hflow).modify (by rw [hword]; decide)
          fun flow => { flow with tearingDown := true }
        have hfreed : Held Orderly
            { s.modify id fun flow => { flow with tearingDown := true } with
              bodyFlow := none, endFlow := none } id :=
          ⟨⟨hheld.pooled, hheld.word, hheld.fresh, hheld.counted, hheld.idle, hheld.rested⟩,
            hheld.live, hheld.flow, hheld.others, hheld.unbroken⟩
        have hnone : requestId = none := by simpa [Flow.requestId] using hother
        refine hfreed.completeWhenClosed hword ?_ ?_ ?_ ?_ ?_ (.abort requestId)
        · simp [NodeChannel.modify]
        · simpa [NodeChannel.modify] using hcompleted
        · simpa [NodeChannel.modify] using hupgraded.2
        · simpa [NodeChannel.modify] using hupstream
        · simpa [NodeChannel.modify] using
            fun horderly => hended horderly id hflow hnone hupgraded.2
      · have hbody : Base Orderly { s with bodyFlow := none } :=
          ⟨h.pooled, h.word, h.fresh, h.counted, h.idle, h.rested⟩
        exact hbody.closeChannel

theorem Inv.upgradedEnd (h : Inv Orderly s) (hupstream : (s.flows id).upstream = .upgraded) :
    Inv Orderly (s.modify id fun flow => { flow with upstream := .destroyed }) := by
  cases hlive : s.destroyed with
  | true => exact h.still ((Still.refl hlive).modify id fun _ hrested => ⟨hrested.1, .inl rfl⟩)
  | false =>
    have hflow := h.current hlive (.inr (.inr (.inr hupstream)))
    have hstage := h.stage hlive id hflow
    have hupgraded := hstage.upgraded_of_socket (.inl hupstream)
    obtain ⟨hword, htear, hcompleted, hlisteners⟩ := hstage.of_sending (.inr hupstream)
    refine ((h.held hlive hflow).modify (by rw [hword]; decide) _).inv ?_
    rw [flows_modify_self, show (s.modify id _).word id = .responded from hword]
    exact .upgraded (.inr rfl) hupgraded htear hcompleted hlisteners

theorem Inv.upgradedError (h : Inv Orderly s) (hupstream : (s.flows id).upstream = .upgraded)
    (hended : Orderly → s.flow = some id → (s.flows id).hubEnded = true) :
    Inv Orderly
      ((s.modify id fun flow => { flow with upstream := .destroyed }).onUpstreamClose id) := by
  cases hlive : s.destroyed with
  | true =>
    have hgone := (Still.refl hlive).modify id (f := fun flow => { flow with upstream := .destroyed })
      fun _ hrested => ⟨hrested.1, .inl rfl⟩
    exact h.still (hgone.onUpstreamClose id)
  | false =>
    have hflow := h.current hlive (.inr (.inr (.inr hupstream)))
    have hstage := h.stage hlive id hflow
    have hupgraded := hstage.upgraded_of_socket (.inl hupstream)
    obtain ⟨hword, htear, hcompleted, -⟩ := hstage.of_sending (.inr hupstream)
    rw [NodeChannel.onUpstreamClose, flows_modify_self, if_pos hupgraded]
    refine ((h.held hlive hflow).modify (by rw [hword]; decide) _).teardownUpgraded hword
      ?_ ?_ ?_ ?_ ?_
    · rwa [flows_modify_self]
    · rwa [flows_modify_self]
    · rwa [flows_modify_self]
    · rw [flows_modify_self]
      exact .inr (.inl rfl)
    · rw [flows_modify_self]
      exact fun horderly _ => hended horderly hflow

theorem Still.foldl_complete (h : Still s s') (id : OpenId) (kinds : List Complete) :
    Still s (kinds.foldl (fun s kind => s.complete id kind) s') := by
  induction kinds generalizing s' with
  | nil => exact h
  | cons kind rest ih => exact ih (h.complete id kind)

theorem onUpstreamClose_of_tearingDown (h : (s.flows id).tearingDown = true) :
    s.onUpstreamClose id = s := by
  rw [onUpstreamClose, teardownUpgraded]
  simp [h]

/-- What the channel does when the socket of a flow has closed. -/
def closed (s : NodeChannel) (id : OpenId) : NodeChannel :=
  let s := (s.modify id fun flow => { flow with upstream := .closed }).onUpstreamClose id
  (s.flows id).closeListeners.foldl (fun s kind => s.complete id kind) s

/-- The close event completes the flow that is served, whoever waits for it. -/
theorem Inv.closed_current (h : Inv Orderly s) (hlive : s.destroyed = false)
    (hflow : s.flow = some id)
    (hupstream : (s.flows id).upstream = .upgraded ∨ (s.flows id).upstream = .destroyed) :
    ∃ s' : NodeChannel, ∃ kind, s.closed id = s'.complete id kind ∧ Held Orderly s' id ∧
      s'.sent = s.sent ∧ (s'.flows id).tearingDown = true ∧ (s'.flows id).completed = false ∧
      (s'.flows id).upstream = .closed ∧ (s'.flows id).hubEnded = (s.flows id).hubEnded := by
  have hstage := h.stage hlive id hflow
  have hupgraded := hstage.upgraded_of_socket hupstream
  obtain ⟨hword, hcompleted, hcases⟩ := hstage.of_upgraded hupgraded
  have hheld := (h.held hlive hflow).modify (by rw [hword]; decide)
    fun flow => { flow with upstream := .closed }
  rcases hcases with ⟨htear, -, -⟩ | ⟨htear, hlisteners, -⟩
  · -- nobody waits, and the event tears the flow down itself
    refine ⟨_, .teardown, ?_, hheld.modify (by exact hword ▸ by decide)
      fun flow => { flow with tearingDown := true, handshakeTimer := false }, rfl, ?_⟩
    · rw [NodeChannel.closed, NodeChannel.onUpstreamClose, flows_modify_self, if_pos hupgraded,
        teardownUpgraded_gone (by rwa [flows_modify_self]) (by simp),
        foldl_complete_of_completed (completed_complete _ id .teardown)]
    · rw [flows_modify_self, flows_modify_self]
      exact ⟨rfl, hcompleted, rfl, rfl⟩
  · -- the first of the listeners completes it
    obtain ⟨kind, rest, hkinds⟩ := List.exists_cons_of_ne_nil hlisteners
    refine ⟨_, kind, ?_, hheld, rfl, ?_⟩
    · rw [NodeChannel.closed, onUpstreamClose_of_tearingDown (by rwa [flows_modify_self]),
        flows_modify_self]
      show (s.flows id).closeListeners.foldl _ _ = _
      rw [hkinds, List.foldl_cons, foldl_complete_of_completed (completed_complete _ id kind)]
    · rw [flows_modify_self]
      exact ⟨htear, hcompleted, rfl, rfl⟩

theorem Still.closed (h : Still s s') (id : OpenId) : Still s (s'.closed id) := by
  have hgone := h.modify id (f := fun flow => { flow with upstream := .closed })
    fun _ hrested => ⟨hrested.1, .inr (.inl rfl)⟩
  exact (hgone.onUpstreamClose id).foldl_complete id _

theorem Inv.upgradedClose (h : Inv Orderly s)
    (hupstream : (s.flows id).upstream = .upgraded ∨ (s.flows id).upstream = .destroyed)
    (hended : Orderly → s.flow = some id → (s.flows id).hubEnded = true) :
    Inv Orderly (s.closed id) := by
  cases hlive : s.destroyed with
  | true => exact h.still ((Still.refl hlive).closed id)
  | false =>
    by_cases hflow : s.flow = some id
    · have hstage := h.stage hlive id hflow
      have hword := (hstage.of_upgraded (hstage.upgraded_of_socket hupstream)).1
      obtain ⟨s', kind, hclosed, hheld, hsent, htear, hcompleted, hgone, hhub⟩ :=
        h.closed_current hlive hflow hupstream
      rw [hclosed]
      refine hheld.complete ?_ htear hcompleted (.inr hgone) ?_ kind
      · rw [word_of_sent hsent]
        exact hword
      · rw [hhub]
        exact fun horderly => hended horderly hflow
    · have hover := h.others hlive id hflow
      have hinv := h.modify_over id (f := fun flow => { flow with upstream := .closed }) hflow
        (fun hover => ⟨hover.tearingDown, .inr (.inr rfl), hover.listeners⟩)
        (fun hrested => ⟨hrested.1, .inr (.inl rfl)⟩)
      rw [NodeChannel.closed]
      rw [onUpstreamClose_of_tearingDown (by rw [flows_modify_self]; exact hover.tearingDown)]
      rcases hover.listeners with hnone | hdone
      · rw [flows_modify_self]
        show Inv Orderly ((s.flows id).closeListeners.foldl _ _)
        rw [hnone]
        exact hinv
      · rw [foldl_complete_of_completed (by rw [flows_modify_self]; exact hdone)]
        exact hinv

/-- A flow that is torn down has no handle that an error would destroy. -/
theorem Inv.destroy_of_tearingDown (h : Inv Orderly s) (hlive : s.destroyed = false)
    (htear : (s.flows id).tearingDown = true) :
    (s.flows id).upstream.destroy = (s.flows id).upstream := by
  by_cases hflow : s.flow = some id
  · have hupstream := (h.stage hlive id hflow).of_tearingDown htear
    rw [hupstream]
    rfl
  · rcases (h.others hlive id hflow).upstream with hu | hu | hu
    · simp [hu, Upstream.destroy]
    · simp [hu, Upstream.destroy]
    · simp [hu, Upstream.destroy]

theorem Inv.requestError (h : Inv Orderly s)
    (hended : Orderly → s.flow = some id → (s.flows id).tearingDown = false →
      (s.flows id).upgraded = true → (s.flows id).upstream ≠ .upgraded →
      (s.flows id).hubEnded = true) :
    Inv Orderly ((s.modify id fun flow =>
      { flow with
        upstream := if flow.upgraded then flow.upstream else flow.upstream.destroy }).onRequestError
          id) := by
  cases hlive : s.destroyed with
  | true =>
    have hgone := (Still.refl hlive).modify id (f := fun flow =>
      { flow with
        upstream := if flow.upgraded then flow.upstream else flow.upstream.destroy })
      fun flow hrested => by
        by_cases hupgraded : flow.upgraded = true
        · exact hrested.mono rfl (if_pos hupgraded) fun hpassed => hpassed
        · exact (rested_destroy flow hrested).mono rfl (if_neg hupgraded) fun hpassed => hpassed
    exact h.still (hgone.onRequestError id)
  | false =>
    rw [NodeChannel.onRequestError, flows_modify_self]
    dsimp only
    split_ifs with htear hupgraded
    · have hsame : (if (s.flows id).upgraded then (s.flows id).upstream
          else (s.flows id).upstream.destroy) = (s.flows id).upstream := by
        rw [h.destroy_of_tearingDown hlive htear, ite_self]
      refine h.tune id { upstream := hsame, rested := fun hrested => ?_ }
      exact hrested.mono rfl hsame fun hpassed => hpassed
    · have htear' : (s.flows id).tearingDown = false := by simpa using htear
      have hflow := h.current hlive (.inl htear')
      obtain ⟨hword, hcompleted, hcases⟩ := (h.stage hlive id hflow).of_upgraded hupgraded
      have hupstream : (s.flows id).upstream = .upgraded ∨ (s.flows id).upstream = .destroyed ∨
          (s.flows id).upstream = .closed := by
        rcases hcases with ⟨-, -, hu | hu⟩ | ⟨-, -, hu⟩
        · exact .inl hu
        · exact .inr (.inl hu)
        · exact .inr (.inl hu)
      refine ((h.held hlive hflow).modify (by rw [hword]; decide) _).teardownUpgraded hword
        ?_ ?_ ?_ ?_ ?_
      · rwa [flows_modify_self]
      · rwa [flows_modify_self]
      · rwa [flows_modify_self]
      · simpa [hupgraded] using hupstream
      · simpa [hupgraded] using fun horderly => hended horderly hflow htear' hupgraded
    · have htear' : (s.flows id).tearingDown = false := by simpa using htear
      exact (h.modify_abortFlow hlive htear' "dsh-unreachable" (by exact htear')).1

theorem Inv.handshakeTimeout (h : Inv Orderly s) (id : OpenId) :
    Inv Orderly ((s.modify id fun flow =>
      { flow with
        handshakeTimer := false, upstream := flow.upstream.destroy }).abortFlow id
          "dsh-timeout") := by
  cases hlive : s.destroyed with
  | true =>
    have hgone := (Still.refl hlive).modify id
      (f := fun flow => { flow with handshakeTimer := false, upstream := flow.upstream.destroy })
      fun flow hrested => rested_destroy flow hrested
    exact h.still (hgone.abortFlow id _)
  | false =>
    cases htear : (s.flows id).tearingDown with
    | true =>
      have hsame := h.destroy_of_tearingDown hlive htear
      refine Inv.abortFlow (h.tune id { upstream := hsame, rested := fun hrested => ?_ }) id _
      exact hrested.mono rfl hsame fun hpassed => hpassed
    | false => exact (h.modify_abortFlow hlive htear "dsh-timeout" (by exact htear)).1

theorem Inv.responseError (h : Inv Orderly s) (hresponding : (s.flows id).upstream = .responding) :
    Inv Orderly ((s.modify id fun flow => { flow with upstream := .closed }).abortFlow id
      "dsh-response-error") := by
  cases hlive : s.destroyed with
  | true =>
    have hgone := (Still.refl hlive).modify id (f := fun flow => { flow with upstream := .closed })
      fun _ hrested => ⟨hrested.1, .inr (.inl rfl)⟩
    exact h.still (hgone.abortFlow id _)
  | false =>
    obtain ⟨-, htear, -⟩ := h.sending (.inl hresponding) hlive
    exact (h.modify_abortFlow hlive htear "dsh-response-error" (by exact htear)).1

theorem Inv.checkD7 (h : Inv Orderly s) (id : OpenId) (readings : Readings) :
    Inv Orderly (s.checkD7 id readings) := by
  have hprogress (channelAt upstreamAt : ℤ) : Inv Orderly (s.modify id fun flow =>
      { flow with
        d7LastChannelProgressAt := channelAt, d7LastUpstreamProgressAt := upstreamAt }) :=
    h.tune id (.of_core rfl)
  rw [NodeChannel.checkD7]
  generalize (if (s.flows id).upgraded = true then readings.upstreamQueued 0
    else readings.upstreamQueued 0 + (s.flows id).pendingRequestBytesTotal) = upstreamQueued
  dsimp only
  generalize (if readings.channelQueued 0 < (s.flows id).d7LastChannelQueued then readings.now
    else (s.flows id).d7LastChannelProgressAt) = channelAt
  generalize (if upstreamQueued < (s.flows id).d7LastUpstreamQueued then readings.now
    else (s.flows id).d7LastUpstreamProgressAt) = upstreamAt
  split_ifs
  · exact h
  · exact h.abortFlow id _
  · exact (hprogress channelAt upstreamAt).abortFlow id _
  · exact (hprogress channelAt upstreamAt).abortFlow id _
  · exact (hprogress channelAt upstreamAt).tune id (.of_core rfl)

/-! ### Opening a flow -/

/-- The next `open` has come, and nothing is sent for it yet. -/
theorem Inv.count_succ (h : Inv Orderly s) : Inv Orderly { s with count := s.count + 1 } := by
  refine ⟨⟨h.pooled, h.word, ?_, ?_, h.idle, h.rested⟩, h.aborted, h.others, h.stage⟩
  · exact fun other hother => h.fresh other (Nat.le_of_succ_le hother)
  · exact fun other hother => (h.counted other hother).trans (Nat.lt_succ_self _)

/-- An `open` that is denied. -/
theorem Base.deny (h : Base Orderly s) (hid : id < s.count) (hfresh : s.sentFor id = [])
    (requestId code : String) :
    Inv Orderly ((s.send id (.abort requestId code)).closeChannel) := by
  cases hlive : s.destroyed with
  | true => exact h.still ((Still.refl hlive).send id _).closeChannel
  | false =>
    have hnext : (s.word id).next (.abort requestId code) = .aborted := by
      rw [NodeChannel.word, hfresh]
      rfl
    exact (h.send hlive hid _ hnext (by decide) fun hdone => by cases hdone).closeChannel

theorem Inv.executeFlow (h : Inv Orderly s) (hid : id < s.count) (hfresh : s.sentFor id = [])
    (hfree : s.flow = none) (hbusy : s.state = .busy) (message : Open) (mode : Mode)
    (readings : Readings) : Inv Orderly (s.executeFlow id message mode readings) := by
  have hword : s.word id = .start := by
    rw [NodeChannel.word, hfresh]
    rfl
  rw [NodeChannel.executeFlow]
  cases message.targetError with
  | some code => exact h.toBase.deny hid hfresh message.requestId code
  | none =>
    dsimp only
    have hopened : Inv Orderly
        { s with
          flow := some id, bodyFlow := some id, endFlow := some id
          flows := Function.update s.flows id
            { opened := message.requestId, mode, d7LastChannelProgressAt := readings.now
              d7LastUpstreamProgressAt := readings.now } } := by
      refine ⟨⟨h.pooled, h.word, h.fresh, ?_, ?_, ?_⟩, h.aborted, ?_, ?_⟩
      · rintro other ⟨⟩
        exact hid
      · intro hidle
        rw [hbusy] at hidle
        cases hidle
      · intro horderly other hdone
        have hother : other ≠ id := by
          rintro rfl
          rw [show s.word other = .done from hdone] at hword
          cases hword
        simpa [hother] using h.rested horderly other hdone
      · intro hlive other hother
        have hne : other ≠ id := fun hsame => hother (congrArg some hsame.symm)
        simpa [hne] using h.others hlive other (by simp [hfree])
      · rintro hlive other ⟨⟩
        show Stage (Function.update s.flows id _ id) (s.word id)
        rw [hword, Function.update_self]
        exact .awaiting rfl rfl rfl rfl rfl
    split_ifs
    · exact hopened.onRequestEnd id readings
    · exact hopened

theorem Inv.onChannelOpen (h : Inv Orderly s) (message : Open) (readings : Readings) :
    Inv Orderly (s.onChannelOpen message readings) := by
  have hcount := h.count_succ
  have hfresh := h.fresh s.count (le_refl _)
  have hdeny (code : String) := hcount.toBase.deny (Nat.lt_succ_self s.count) hfresh
    message.requestId code
  rw [NodeChannel.onChannelOpen]
  dsimp only
  by_cases hform : (!message.wellFormed) = true
  · rw [if_pos hform]
    exact hdeny _
  rw [if_neg hform]
  cases message.mode with
  | none => exact hdeny _
  | some mode =>
    dsimp only
    by_cases hbusy : s.state ≠ .idle
    · rw [if_pos hbusy]
      exact hcount.toBase.closeChannel
    have hfree : s.flow = none := h.idle (not_not.mp hbusy)
    rw [if_neg hbusy]
    by_cases hcredentials : (!message.credentials) = true
    · rw [if_pos hcredentials]
      exact hcount.toBase.closeChannel
    rw [if_neg hcredentials]
    by_cases hauthority : (!message.authorityMatches) = true
    · rw [if_pos hauthority]
      exact hdeny _
    rw [if_neg hauthority]
    cases message.proofError with
    | some code => exact hdeny _
    | none =>
      have hbegun : Inv Orderly
          { s with count := s.count + 1, state := .busy, flow := none } := by
        refine ⟨⟨h.pooled, h.word, hcount.fresh, ?_, ?_, h.rested⟩, h.aborted, ?_, ?_⟩
        · rintro other ⟨⟩
        · exact fun _ => rfl
        · exact fun hlive other _ => h.others hlive other (by simp [hfree])
        · rintro hlive other ⟨⟩
      exact hbegun.executeFlow (Nat.lt_succ_self s.count) hfresh rfl rfl message mode readings

theorem Inv.onChannelSocketClose (h : Inv Orderly s) :
    Inv Orderly { s with destroyed := true }.closeChannel.onChannelSocketClose := by
  have hdead : Still s { s with destroyed := true } :=
    ⟨rfl, rfl, rfl, fun _ hflow => hflow, .inl, fun _ hrested => hrested⟩
  exact h.still hdead.closeChannel.onChannelSocketClose

/-! ### Whole runs -/

/-- The step does not end the flow that is served before the Hub has ended the request, and
before the request has been handed on. -/
def InOrder (s : NodeChannel) : ChannelEvent → Prop
  | .responseEnd id =>
    s.flow = some id → (s.flows id).upstream = .responding →
      (s.flows id).hubEnded = true ∧ (s.flows id).passed = true
  | .upgradedError id =>
    s.flow = some id → (s.flows id).upstream = .upgraded → (s.flows id).hubEnded = true
  | .upgradedClose id =>
    s.flow = some id → (s.flows id).upstream = .upgraded ∨ (s.flows id).upstream = .destroyed →
      (s.flows id).hubEnded = true
  | .requestError id =>
    s.flow = some id → (s.flows id).tearingDown = false → (s.flows id).upgraded = true →
      (s.flows id).upstream ≠ .upgraded → (s.flows id).hubEnded = true
  | .abort none =>
    ∀ id, s.flow = some id → (s.flows id).upgraded = true → (s.flows id).upstream ≠ .upgraded →
      (s.flows id).hubEnded = true
  | _ => True

theorem Inv.step (h : Inv Orderly s) (event : ChannelEvent) (horderly : Orderly → s.InOrder event) :
    Inv Orderly (s.step event) := by
  cases event with
  | «open» message readings => exact h.onChannelOpen message readings
  | requestEnd readings =>
    rw [NodeChannel.step]
    split
    · exact h
    · refine Inv.onRequestEnd (h.tune _ ⟨rfl, rfl, rfl, rfl, rfl, fun hrested => ?_⟩) _ readings
      exact ⟨rfl, hrested.2⟩
  | abort requestId =>
    refine h.onAbort requestId fun hin id hflow hnone hupgraded hgone => ?_
    subst hnone
    exact horderly hin id hflow hupgraded hgone
  | binary bytes readings =>
    rw [NodeChannel.step]
    split
    · exact h.toBase.closeChannel
    · exact h.onRequestBody _ bytes readings
  | violation => exact h.toBase.closeChannel
  | socketError => exact h.toBase.closeChannel
  | socketClose => exact h.onChannelSocketClose
  | upgrade id status head readings =>
    rw [NodeChannel.step]
    split_ifs with hawaiting
    · exact h.onUpgrade hawaiting status head readings
    · exact h
  | upgradedData id bytes readings =>
    rw [NodeChannel.step]
    split_ifs with hupgraded
    · exact h.sendUpstreamBytes bytes readings fun hlive => h.sending (.inr hupgraded) hlive
    · exact h
  | upgradedEnd id =>
    rw [NodeChannel.step]
    split_ifs with hupgraded
    · exact h.upgradedEnd hupgraded
    · exact h
  | upgradedError id =>
    rw [NodeChannel.step]
    split_ifs with hupgraded
    · exact h.upgradedError hupgraded fun hin hflow => horderly hin hflow hupgraded
    · exact h
  | upgradedClose id =>
    rw [NodeChannel.step]
    split_ifs with hupstream
    · exact h.upgradedClose hupstream fun hin hflow => horderly hin hflow hupstream
    · exact h
  | response id status =>
    rw [NodeChannel.step]
    split_ifs with hawaiting
    · exact h.respond hawaiting status
    · exact h
  | responseData id bytes readings =>
    rw [NodeChannel.step]
    split_ifs with hresponding
    · exact h.sendUpstreamBytes bytes readings fun hlive => h.sending (.inl hresponding) hlive
    · exact h
  | responseEnd id =>
    rw [NodeChannel.step]
    split_ifs with hresponding
    · cases hlive : s.destroyed with
      | true =>
        have hnot : ¬ Rested (s.flows id) := by
          simp [Rested, hresponding]
        exact h.still (((Still.refl hlive).modify_live hnot _).finishHttpFlow id)
      | false =>
        have hflow := h.current hlive (.inr (.inr (.inl hresponding)))
        exact h.finishHttpFlow hlive hresponding fun hin => horderly hin hflow hresponding
    · exact h
  | responseError id =>
    rw [NodeChannel.step]
    split_ifs with hresponding
    · exact h.responseError hresponding
    · exact h
  | requestError id =>
    rw [NodeChannel.step]
    split_ifs
    · exact h.requestError horderly
    · exact h
  | requestDrain id readings =>
    rw [NodeChannel.step]
    split_ifs
    · exact h.pump id readings
    · exact h
  | handshakeTimeout id =>
    rw [NodeChannel.step]
    split_ifs
    · exact h.handshakeTimeout id
    · exact h
  | d7Tick id readings =>
    rw [NodeChannel.step]
    split_ifs
    · exact h.checkD7 id readings
    · exact h

end NodeChannel

/-- What the protocol says of the messages for one `open`. -/
structure Wire (s : NodeChannel) (id : OpenId) : Prop where
  grammar : Grammatical (s.sentFor id) ∨ (BrokenOff (s.sentFor id) ∧ s.destroyed = true)
  once : (s.sentFor id).count .idle ≤ 1
  rested : .idle ∈ s.sentFor id → Rested (s.flows id)

/-- The grammar holds of every run, in order or not. -/
theorem wire_grammar (events : List ChannelEvent) (id : OpenId) :
    let s := NodeChannel.run events
    Grammatical (s.sentFor id) ∨ (BrokenOff (s.sentFor id) ∧ s.destroyed = true) := by
  intro s
  have hinv : NodeChannel.Inv False s :=
    runFrom_invariant (P := fun _ _ => True) (fun s event hs _ => hs.step event False.elim)
      NodeChannel.inv_initial (eachStep_true events)
  have hstart : Word.start.Says [] := rfl
  have hsays : (s.word id).Says (s.sentFor id) := Word.says_foldl hstart (s.sentFor id)
  rcases Word.grammatical hsays (hinv.word id) with hgrammar | ⟨haborted, hbroken⟩
  · exact .inl hgrammar
  · exact .inr ⟨hbroken, hinv.aborted id haborted⟩

theorem wire_run (events : List ChannelEvent)
    (h : EachStep NodeChannel.step NodeChannel.InOrder {} events) (id : OpenId) :
    Wire (NodeChannel.run events) id := by
  have hgrammar := wire_grammar events id
  have hinv : NodeChannel.Inv True (NodeChannel.run events) :=
    runFrom_invariant (fun s event hs horderly => hs.step event fun _ => horderly)
      NodeChannel.inv_initial h
  refine ⟨hgrammar, ?_, ?_⟩
  · rcases hgrammar with hserved | ⟨hbroken, -⟩
    · exact hserved.count_idle
    · exact hbroken.count_idle
  · intro hidle
    refine hinv.rested trivial id ?_
    exact (Word.foldl_of_idle .start hidle).resolve_right (hinv.word id)

/-- An `open` for a request to the local DSH that nothing speaks against. -/
def requestOf (requestId : String) (mode : Mode) : Open := { requestId, mode := some mode }

/-- The request has ended before the response does. -/
theorem wire_run_served :
    let events := [ChannelEvent.open (requestOf "r" .http) {}, .requestEnd {}, .response 0 200,
      .responseEnd 0]
    Wire (NodeChannel.run events) 0 ∧ .idle ∈ (NodeChannel.run events).sentFor 0 := by
  intro events
  refine ⟨wire_run events ?_ 0, by decide⟩
  exact ⟨trivial, trivial, trivial, fun _ _ => ⟨rfl, rfl⟩, trivial⟩

/-- DSH answers in full before the request has ended, and the node frees the channel. -/
theorem not_wire_early :
    ¬ Wire (NodeChannel.run [.open (requestOf "r" .http) {}, .response 0 200, .responseEnd 0]) 0 := by
  intro h
  have hended := (h.rested (by decide)).1
  revert hended
  decide

end DshOrbit.ReverseNode
