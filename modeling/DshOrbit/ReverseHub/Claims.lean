import DshOrbit.ReverseHub.Pool

/-!
# Claims, events, and the closing of many channels

A request claims an idle channel or queues a waiter, and goes on when its waiter is
settled. Whatever it finds, the rules of the pool are kept; and when the channels of a
session are closed, no channel and no waiter of it is left.

## Main results

- `Disciplined.acquireChannel`, `Disciplined.resume`, `Disciplined.step`
- `Disciplined.closeChannelsForSession`, `Disciplined.none_of_closeChannelsForNode`
- `settles_step` — a settled waiter stays as it is
-/

namespace DshOrbit.ReverseHub

open DshOrbit.Lib

namespace ReverseChannelManager

variable {Flows : Type*} {closeFlow : Flows → RequestId → String → Flows}
  {m : ReverseChannelManager Flows}

/-! ### Claims -/

/-- What a successful claim does. -/
theorem claimIdleChannel_some {nodeId : String} {sessionId : Option SessionId} {c : ChannelId}
    {m' : ReverseChannelManager Flows}
    (h : m.claimIdleChannel nodeId sessionId = some (c, m')) :
    c ∈ m.channels nodeId ∧ (m.channel c).available sessionId = true ∧
      m' = m.modifyChannel c fun channel => { channel with state := .busy } := by
  rw [claimIdleChannel] at h
  split at h
  · cases h
  · rename_i other hfind
    have havailable : (m.channel other).available sessionId = true :=
      List.find?_some (p := fun c => (m.channel c).available sessionId) hfind
    obtain ⟨rfl, rfl⟩ := Prod.mk.inj (Option.some.inj h)
    exact ⟨List.mem_of_find?_eq_some hfind, havailable, rfl⟩

theorem claimIdleChannel_none {nodeId : String} {sessionId : Option SessionId}
    (h : m.claimIdleChannel nodeId sessionId = none) {c : ChannelId}
    (hc : c ∈ m.channels nodeId) : (m.channel c).available sessionId = false := by
  rw [claimIdleChannel] at h
  split at h
  · rename_i hfind
    simpa using List.find?_eq_none.mp hfind c hc
  · cases h

/-- A request that carries the current session takes any idle channel of its node. -/
theorem idleSet_of_claim_none {current : String → Option SessionId} (hpool : PoolRules m)
    (hbound : Bound current m) {nodeId : String} {sessionId : Option SessionId}
    (hsession : ∀ id, sessionId = some id → current nodeId = some id)
    (h : m.claimIdleChannel nodeId sessionId = none) : m.idleSet nodeId = ∅ := by
  apply Finset.eq_empty_of_forall_notMem
  intro c hc
  obtain ⟨hopen, hidle, hnode⟩ := (mem_idleSet hpool).mp hc
  have hnot := claimIdleChannel_none h ((hpool.pooled nodeId c).mpr ⟨hopen, hnode⟩)
  have hcurrent := hbound.channel c hopen
  rw [hnode] at hcurrent
  cases hid : sessionId with
  | none => simp [ReverseChannel.available, hopen, hidle, hid] at hnot
  | some id =>
    have := (hsession id hid).symm.trans hcurrent
    simp [ReverseChannel.available, hopen, hidle, hid, Option.some.inj this] at hnot

/-- A request whose promise is not pending. -/
def Free (m : ReverseChannelManager Flows) (r : RequestId) : Prop :=
  ∀ w, (m.request r).phase = .waiting w → (m.waiter w).settled ≠ none

theorem request_setPhase (r other : RequestId) (phase : AcquirePhase) :
    (m.setPhase r phase).request other =
      if other = r then { m.request r with phase } else m.request other := by
  by_cases hr : other = r
  · simp [setPhase, hr]
  · simp [setPhase, hr]

/-- The rules once a request has ended its wait. -/
theorem QueueRules.setPhase (h : QueueRules m) {r : RequestId} (hfree : m.Free r)
    {phase : AcquirePhase} (hphase : ∀ w, phase ≠ .waiting w) :
    QueueRules (m.setPhase r phase) := by
  refine ⟨h.nodup, h.queued, h.absent, fun w hw => ?_, fun other w hother => ?_⟩
  · obtain ⟨other, hother⟩ := h.owner w hw
    refine ⟨other, ?_⟩
    rw [request_setPhase, if_neg]
    · exact hother
    · rintro rfl
      exact hfree w hother hw
  · rw [request_setPhase] at hother ⊢
    split_ifs at hother ⊢ with hr
    · exact absurd hother (hphase w)
    · exact h.waiting other w hother

theorem wokenSet_setPhase (h : QueueRules m) {r : RequestId} (hfree : m.Free r)
    {phase : AcquirePhase} (hphase : ∀ w, phase ≠ .waiting w) (nodeId : String) :
    (m.setPhase r phase).wokenSet nodeId = (m.wokenSet nodeId).erase r := by
  ext other
  rw [mem_wokenSet (h.setPhase hfree hphase), Finset.mem_erase, mem_wokenSet h, woken_iff,
    woken_iff, request_setPhase]
  by_cases hr : other = r
  · simp [hr, hphase]
  · simp [hr, setPhase]

theorem Bound.setPhase {current : String → Option SessionId} (h : Bound current m) (r : RequestId)
    {phase : AcquirePhase} (hphase : ∀ w, phase ≠ .waiting w) : Bound current (m.setPhase r phase) := by
  refine ⟨h.channel, fun other w id hother => ?_⟩
  rw [request_setPhase] at hother ⊢
  split_ifs at hother ⊢ with hr
  · exact absurd hother (hphase w)
  · exact h.request other w id hother

/-- The manager once a request has queued a new waiter. -/
def enqueue (m : ReverseChannelManager Flows) (r : RequestId) : ReverseChannelManager Flows :=
  { m.setPhase r (.waiting m.waiterCount) with
    waiter := Function.update m.waiter m.waiterCount
      ⟨(m.request r).nodeId, (m.request r).sessionId, none⟩
    waiterCount := m.waiterCount + 1
    idleWaiters := Function.update m.idleWaiters (m.request r).nodeId
      (m.idleWaiters (m.request r).nodeId ++ [m.waiterCount]) }

theorem wait_eq (r : RequestId) (now : ℤ) :
    m.wait r now = if now - (m.request r).startedAt < m.capacityWaitMs then m.enqueue r
      else m.setPhase r (.failed .capacity) := rfl

theorem request_enqueue (r other : RequestId) :
    (m.enqueue r).request other =
      if other = r then { m.request r with phase := .waiting m.waiterCount }
      else m.request other :=
  request_setPhase r other _

theorem waiter_enqueue (r : RequestId) (w : WaiterId) :
    (m.enqueue r).waiter w =
      if w = m.waiterCount then ⟨(m.request r).nodeId, (m.request r).sessionId, none⟩
      else m.waiter w := by
  by_cases hw : w = m.waiterCount
  · simp [enqueue, hw]
  · simp [enqueue, hw]

theorem idleWaiters_enqueue (r : RequestId) (nodeId : String) :
    (m.enqueue r).idleWaiters nodeId =
      if nodeId = (m.request r).nodeId then m.idleWaiters nodeId ++ [m.waiterCount]
      else m.idleWaiters nodeId := by
  by_cases hnode : nodeId = (m.request r).nodeId
  · simp [enqueue, hnode]
  · simp [enqueue, hnode]

theorem QueueRules.enqueue (h : QueueRules m) {r : RequestId} (hr : r < m.requestCount)
    (hfree : m.Free r) : QueueRules (m.enqueue r) := by
  have hnew (nodeId : String) : m.waiterCount ∉ m.idleWaiters nodeId := fun hmem =>
    h.absent _ le_rfl ((h.queued nodeId _).mp hmem).1
  constructor
  · intro nodeId
    rw [idleWaiters_enqueue]
    split_ifs
    · refine List.nodup_append.mpr ⟨h.nodup nodeId, List.nodup_singleton _, ?_⟩
      rintro w hw other hother rfl
      rw [List.mem_singleton] at hother
      exact hnew nodeId (hother ▸ hw)
    · exact h.nodup nodeId
  · intro nodeId w
    rw [idleWaiters_enqueue, waiter_enqueue]
    by_cases hw : w = m.waiterCount
    · by_cases hnode : nodeId = (m.request r).nodeId
      · simp [hw, hnode]
      · simp [hw, hnode, hnew nodeId, Ne.symm hnode]
    · by_cases hnode : nodeId = (m.request r).nodeId
      · simpa [hw, hnode] using h.queued _ w
      · simpa [hw, hnode] using h.queued nodeId w
  · intro w hw
    have hw : m.waiterCount < w := hw
    rw [waiter_enqueue, if_neg hw.ne']
    exact h.absent w hw.le
  · intro w hw
    rw [waiter_enqueue] at hw
    by_cases hnew : w = m.waiterCount
    · refine ⟨r, ?_⟩
      rw [request_enqueue, if_pos rfl, hnew]
    · rw [if_neg hnew] at hw
      obtain ⟨other, hother⟩ := h.owner w hw
      refine ⟨other, ?_⟩
      rw [request_enqueue, if_neg]
      · exact hother
      · rintro rfl
        exact hfree w hother hw
  · intro other w hother
    rw [request_enqueue] at hother ⊢
    rw [waiter_enqueue]
    by_cases hself : other = r
    · rw [if_pos hself] at hother ⊢
      obtain rfl : m.waiterCount = w := AcquirePhase.waiting.inj hother
      rw [if_pos rfl]
      exact ⟨hself ▸ hr, Nat.lt_succ_self _, rfl, rfl⟩
    · rw [if_neg hself] at hother ⊢
      obtain ⟨hlt, hlt', hrest⟩ := h.waiting other w hother
      rw [if_neg hlt'.ne]
      exact ⟨hlt, Nat.lt_succ_of_lt hlt', hrest⟩

theorem Bound.enqueue {current : String → Option SessionId} (h : Bound current m)
    (hqueue : QueueRules m) {r : RequestId}
    (hsession : ∀ id, (m.request r).sessionId = some id →
      current (m.request r).nodeId = some id) : Bound current (m.enqueue r) := by
  refine ⟨h.channel, fun other w id hother hsettled => ?_⟩
  rw [request_enqueue] at hother ⊢
  rw [waiter_enqueue] at hsettled
  split_ifs at hother ⊢ with hself
  · exact hsession id
  · obtain ⟨-, hlt, -⟩ := hqueue.waiting other w hother
    rw [if_neg hlt.ne] at hsettled
    exact h.request other w id hother hsettled

theorem wokenSet_enqueue (h : QueueRules m) {r : RequestId} (hr : r < m.requestCount)
    (hfree : m.Free r) (nodeId : String) :
    (m.enqueue r).wokenSet nodeId = (m.wokenSet nodeId).erase r := by
  ext other
  rw [mem_wokenSet (h.enqueue hr hfree), Finset.mem_erase, mem_wokenSet h, woken_iff, woken_iff,
    request_enqueue]
  by_cases hself : other = r
  · simp [hself, waiter_enqueue]
  · have hwaiter : ∀ w, (m.request other).phase = .waiting w →
        (m.enqueue r).waiter w = m.waiter w := by
      intro w hw
      obtain ⟨-, hlt, -⟩ := h.waiting other w hw
      rw [waiter_enqueue, if_neg hlt.ne]
    rw [if_neg hself]
    constructor
    · rintro ⟨hnode, w, hw, hsettled⟩
      exact ⟨hself, hnode, w, hw, hwaiter w hw ▸ hsettled⟩
    · rintro ⟨-, hnode, w, hw, hsettled⟩
      exact ⟨hnode, w, hw, (hwaiter w hw).symm ▸ hsettled⟩

/-- A request that claims a channel, waits for one or gives up keeps the rules: where
it was woken, the wake-up is used only once no channel is idle or it has taken one. -/
theorem disciplined_claimOrWait {current : String → Option SessionId} {r : RequestId}
    (hpool : PoolRules m) (hqueue : QueueRules m) (hbound : Bound current m)
    (hr : r < m.requestCount) (hfree : m.Free r)
    (hsession : ∀ id, (m.request r).sessionId = some id →
      current (m.request r).nodeId = some id)
    (howed : ∀ nodeId, m.idleWaiters nodeId ≠ [] → (m.idleSet nodeId).card ≤
      ((m.wokenSet nodeId).erase r).card + if nodeId = (m.request r).nodeId then 1 else 0)
    (now : ℤ) : Disciplined current (m.claimOrWait r now) := by
  have hends {phase : AcquirePhase} (hphase : ∀ w, phase ≠ .waiting w)
      (hserved : Served (m.setPhase r phase)) : Disciplined current (m.setPhase r phase) :=
    ⟨⟨hpool.bounded, hpool.nodup, hpool.pooled, hpool.absent⟩, hqueue.setPhase hfree hphase,
      hbound.setPhase r hphase, hserved⟩
  rw [claimOrWait]
  split
  · rename_i c m' hclaim
    obtain ⟨hc, havailable, rfl⟩ := claimIdleChannel_some hclaim
    obtain ⟨hopen, hnode⟩ := (hpool.pooled _ c).mp hc
    have hidle : (m.channel c).state = .idle := by
      simp only [ReverseChannel.available, Bool.decide_and, Bool.and_eq_true, decide_eq_true_eq]
        at havailable
      exact havailable.2.1
    have hstays : Stays fun channel => { channel with state := .busy } :=
      fun _ => ⟨rfl, rfl, rfl⟩
    have hphase : ∀ w, AcquirePhase.claimed c ≠ .waiting w := by simp
    have hpool' := hpool.modifyChannel c hstays
    have hqueue' := hqueue.modifyChannel c fun channel => { channel with state := .busy }
    refine ⟨⟨hpool'.bounded, hpool'.nodup, hpool'.pooled, hpool'.absent⟩,
      hqueue'.setPhase hfree hphase, (hbound.modifyChannel c hstays).setPhase r hphase,
      fun nodeId hne => ?_⟩
    rw [wokenSet_setPhase hqueue' hfree hphase]
    have hsub := Finset.card_le_card (idleSet_taken hpool c hstays (fun _ => by simp) nodeId)
    have hle := howed nodeId hne
    by_cases hother : nodeId = (m.request r).nodeId
    · have hmem := (mem_idleSet hpool).mpr ⟨hopen, hidle, hnode.trans hother.symm⟩
      rw [Finset.card_erase_of_mem hmem] at hsub
      rw [if_pos hother] at hle
      exact hsub.trans (Nat.sub_le_iff_le_add.mpr hle)
    · rw [if_neg hother] at hle
      exact (hsub.trans (Finset.card_erase_le)).trans hle
  · rename_i hclaim
    have hempty := idleSet_of_claim_none hpool hbound hsession hclaim
    have hserved (nodeId : String) (hne : m.idleWaiters nodeId ≠ [] ∨ nodeId = (m.request r).nodeId) :
        (m.idleSet nodeId).card ≤ ((m.wokenSet nodeId).erase r).card := by
      by_cases hother : nodeId = (m.request r).nodeId
      · rw [hother, hempty]
        exact Nat.zero_le _
      · have hle := howed nodeId (hne.resolve_right hother)
        rwa [if_neg hother] at hle
    rw [wait_eq]
    split_ifs with htime
    · refine ⟨⟨hpool.bounded, hpool.nodup, hpool.pooled, hpool.absent⟩,
        hqueue.enqueue hr hfree, hbound.enqueue hqueue hsession, fun nodeId hne => ?_⟩
      rw [wokenSet_enqueue hqueue hr hfree]
      apply hserved nodeId
      rw [idleWaiters_enqueue] at hne
      split_ifs at hne with hother
      · exact .inr hother
      · exact .inl hne
    · have hphase : ∀ w, AcquirePhase.failed .capacity ≠ .waiting w := by simp
      refine hends hphase fun nodeId hne => ?_
      rw [wokenSet_setPhase hqueue hfree hphase]
      exact hserved nodeId (.inl hne)

/-- The manager with a new request that has not yet looked for a channel. -/
def arrive (m : ReverseChannelManager Flows) (nodeId : String) (sessionId : Option SessionId)
    (startedAt : ℤ) : ReverseChannelManager Flows :=
  { m with
    request := Function.update m.request m.requestCount
      ⟨nodeId, sessionId, startedAt, .failed .capacity⟩
    requestCount := m.requestCount + 1 }

theorem acquireChannel_eq (nodeId : String) (sessionId : Option SessionId) (now : Readings) :
    m.acquireChannel nodeId sessionId now =
      (m.arrive nodeId sessionId (now 0)).claimOrWait m.requestCount (now 1) := rfl

theorem request_arrive_of_waiting {nodeId : String}
    {sessionId : Option SessionId} {startedAt : ℤ} {r : RequestId} {w : WaiterId} :
    ((m.arrive nodeId sessionId startedAt).request r).phase = .waiting w ↔
      (m.request r).phase = .waiting w ∧ r ≠ m.requestCount := by
  by_cases hr : r = m.requestCount
  · simp [arrive, hr]
  · simp [arrive, hr]

theorem Disciplined.acquireChannel {current : String → Option SessionId}
    (h : Disciplined current m) {nodeId : String} {sessionId : Option SessionId}
    (hsession : ∀ id, sessionId = some id → current nodeId = some id) (now : Readings) :
    Disciplined current (m.acquireChannel nodeId sessionId now) := by
  have hold {r : RequestId} (hr : r < m.requestCount) :
      (m.arrive nodeId sessionId (now 0)).request r = m.request r := by
    simp [arrive, hr.ne]
  have hwaiting {r : RequestId} {w : WaiterId}
      (hphase : ((m.arrive nodeId sessionId (now 0)).request r).phase = .waiting w) :
      r < m.requestCount ∧ (m.request r).phase = .waiting w := by
    obtain ⟨hphase', -⟩ := request_arrive_of_waiting.mp hphase
    exact ⟨(h.queue.waiting r w hphase').1, hphase'⟩
  have hqueue : QueueRules (m.arrive nodeId sessionId (now 0)) := by
    refine ⟨h.queue.nodup, h.queue.queued, h.queue.absent, fun w hw => ?_, fun r w hphase => ?_⟩
    · obtain ⟨r, hphase⟩ := h.queue.owner w hw
      exact ⟨r, by rw [hold (h.queue.waiting r w hphase).1, hphase]⟩
    · obtain ⟨hr, hphase'⟩ := hwaiting hphase
      rw [hold hr]
      obtain ⟨-, hrest⟩ := h.queue.waiting r w hphase'
      exact ⟨Nat.lt_succ_of_lt hr, hrest⟩
  have hnew : (m.arrive nodeId sessionId (now 0)).request m.requestCount =
      ⟨nodeId, sessionId, now 0, .failed .capacity⟩ := by simp [arrive]
  have hwoken (other : String) :
      (m.arrive nodeId sessionId (now 0)).wokenSet other = m.wokenSet other := by
    ext r
    rw [mem_wokenSet hqueue, mem_wokenSet h.queue, woken_iff, woken_iff]
    constructor
    · rintro ⟨hnode, w, hphase, hsettled⟩
      obtain ⟨hr, hphase'⟩ := hwaiting hphase
      exact ⟨hold hr ▸ hnode, w, hphase', hsettled⟩
    · rintro ⟨hnode, w, hphase, hsettled⟩
      have hr := (h.queue.waiting r w hphase).1
      rw [hold hr]
      exact ⟨hnode, w, hphase, hsettled⟩
  have hpool : PoolRules (m.arrive nodeId sessionId (now 0)) :=
    ⟨h.pool.bounded, h.pool.nodup, h.pool.pooled, h.pool.absent⟩
  rw [acquireChannel_eq]
  apply disciplined_claimOrWait hpool hqueue
  · refine ⟨h.bound.channel, fun r w id hphase hsettled => ?_⟩
    obtain ⟨hr, hphase'⟩ := hwaiting hphase
    rw [hold hr]
    exact h.bound.request r w id hphase' hsettled
  · exact Nat.lt_succ_self _
  · intro w hphase
    simp [hnew] at hphase
  · rw [hnew]
    exact hsession
  · intro other hne
    have hnot : m.requestCount ∉ m.wokenSet other := by
      rw [mem_wokenSet h.queue, woken_iff]
      rintro ⟨-, w, hphase, -⟩
      exact absurd (h.queue.waiting _ w hphase).1 (lt_irrefl _)
    rw [hwoken, Finset.erase_eq_of_notMem hnot]
    exact (h.served other hne).trans (Nat.le_add_right _ _)

theorem Disciplined.resume {current : String → Option SessionId} (h : Disciplined current m)
    (r : RequestId) (now : Readings) : Disciplined current (m.resume r now) := by
  rw [ReverseChannelManager.resume]
  split
  · rename_i w hphase
    have hr := (h.queue.waiting r w hphase).1
    split
    · exact h
    · rename_i hsettled
      have hfree : m.Free r := by
        intro other hother
        obtain rfl : w = other := AcquirePhase.waiting.inj (hphase.symm.trans hother)
        simp [hsettled]
      have hwoken : m.woken r = true := woken_iff.mpr ⟨w, hphase, hsettled⟩
      apply disciplined_claimOrWait h.pool h.queue h.bound hr hfree
      · exact fun id => h.bound.request r w id hphase (.inr hsettled)
      · intro nodeId hne
        have hle := h.served nodeId hne
        by_cases hnode : nodeId = (m.request r).nodeId
        · have hmem := (mem_wokenSet h.queue).mpr ⟨hnode.symm, hwoken⟩
          rw [if_pos hnode, Finset.card_erase_add_one hmem]
          exact hle
        · rw [Finset.erase_eq_of_notMem, if_neg hnode]
          · exact hle
          · rw [mem_wokenSet h.queue]
            exact fun hmem => hnode hmem.1.symm
    · rename_i error hsettled
      have hfree : m.Free r := by
        intro other hother
        obtain rfl : w = other := AcquirePhase.waiting.inj (hphase.symm.trans hother)
        simp [hsettled]
      have hends : ∀ w, AcquirePhase.failed error ≠ .waiting w := by simp
      refine ⟨⟨h.pool.bounded, h.pool.nodup, h.pool.pooled, h.pool.absent⟩,
        h.queue.setPhase hfree hends, h.bound.setPhase r hends, fun nodeId hne => ?_⟩
      rw [wokenSet_setPhase h.queue hfree hends, Finset.erase_eq_of_notMem]
      · exact h.served nodeId hne
      · rw [mem_wokenSet h.queue, woken_iff]
        rintro ⟨-, other, hother, hresolved⟩
        obtain rfl : w = other := AcquirePhase.waiting.inj (hphase.symm.trans hother)
        simp [hsettled] at hresolved
  · exact h

/-! ### Events -/

theorem Disciplined.step {current : String → Option SessionId} (h : Disciplined current m)
    (event : ChannelEvent Flows) : Disciplined current (m.step closeFlow event) := by
  cases event with
  | resume r now => exact h.resume r now
  | waiterTimeout w => exact h.settle w _
  | waiterAbort w => exact h.settle w _
  | markBusy c flow => exact h.markBusy c flow
  | markIdle c =>
    rw [ReverseChannelManager.step]
    split_ifs with hclosed
    · exact h
    · exact h.markIdle (by simpa using hclosed)
  | close c reason => exact h.close c reason
  | flows change =>
    obtain ⟨⟨hbounded, hnodup, hpooled, habsent⟩, ⟨hqnodup, hqueued, hqabsent, howner, hwaiting⟩,
      ⟨hchannel, hrequest⟩, hserved⟩ := h
    exact ⟨⟨hbounded, hnodup, hpooled, habsent⟩, ⟨hqnodup, hqueued, hqabsent, howner, hwaiting⟩,
      ⟨hchannel, hrequest⟩, hserved⟩

theorem closed_closeEach {cs : List ChannelId} {c : ChannelId} (reason : String) :
    ((m.closeEach closeFlow cs reason).channel c).closed = true ↔
      c ∈ cs ∨ (m.channel c).closed = true := by
  induction cs generalizing m with
  | nil => simp [closeEach]
  | cons d rest ih =>
    have hcons : m.closeEach closeFlow (d :: rest) reason =
        (m.close closeFlow d reason).closeEach closeFlow rest reason := rfl
    rw [hcons, ih, List.mem_cons]
    by_cases hc : c = d
    · simp [hc, closed_close]
    · simp [hc, channel_close_of_ne hc]

/-- Closing channels does not move them. -/
theorem channel_closeEach (cs : List ChannelId) (reason : String) (c : ChannelId) :
    ((m.closeEach closeFlow cs reason).channel c).nodeId = (m.channel c).nodeId ∧
      ((m.closeEach closeFlow cs reason).channel c).sessionId = (m.channel c).sessionId ∧
      ((m.closeEach closeFlow cs reason).channel c).keyId = (m.channel c).keyId := by
  induction cs generalizing m with
  | nil => exact ⟨rfl, rfl, rfl⟩
  | cons d rest ih =>
    obtain ⟨hnode, hsession, hkey⟩ := @ih (m.close closeFlow d reason)
    have hclose : ((m.close closeFlow d reason).channel c).nodeId = (m.channel c).nodeId ∧
        ((m.close closeFlow d reason).channel c).sessionId = (m.channel c).sessionId ∧
        ((m.close closeFlow d reason).channel c).keyId = (m.channel c).keyId := by
      by_cases hc : c = d
      · cases hclosed : (m.channel d).closed with
        | true => rw [close_of_closed hclosed]; exact ⟨rfl, rfl, rfl⟩
        | false => simp [close_of_open hclosed, hc]
      · rw [channel_close_of_ne hc]
        exact ⟨rfl, rfl, rfl⟩
    exact ⟨hnode.trans hclose.1, hsession.trans hclose.2.1, hkey.trans hclose.2.2⟩

theorem closeEach_frame (cs : List ChannelId) (reason : String) :
    (m.closeEach closeFlow cs reason).waiter = m.waiter ∧
    (m.closeEach closeFlow cs reason).waiterCount = m.waiterCount ∧
    (m.closeEach closeFlow cs reason).idleWaiters = m.idleWaiters ∧
    (m.closeEach closeFlow cs reason).request = m.request := by
  induction cs generalizing m with
  | nil => exact ⟨rfl, rfl, rfl, rfl⟩
  | cons d rest ih =>
    obtain ⟨-, -, hwaiter, hcount, hidle, hrequest, -⟩ := @close_frame _ closeFlow m d reason
    obtain ⟨hwaiter', hcount', hidle', hrequest'⟩ := @ih (m.close closeFlow d reason)
    exact ⟨hwaiter'.trans hwaiter, hcount'.trans hcount, hidle'.trans hidle,
      hrequest'.trans hrequest⟩

theorem waiter_settleEach (ws : List WaiterId) (settlement : Settlement) (w : WaiterId) :
    (m.settleEach ws settlement).waiter w =
      if w ∈ ws ∧ (m.waiter w).settled = none then
        { m.waiter w with settled := some settlement } else m.waiter w := by
  induction ws generalizing m with
  | nil => simp [settleEach]
  | cons other rest ih =>
    have hcons : m.settleEach (other :: rest) settlement =
        (m.settle other settlement).settleEach rest settlement := rfl
    rw [hcons, ih, waiter_settle]
    by_cases hw : w = other
    · subst hw
      by_cases hsettled : (m.waiter w).settled = none
      · simp [hsettled]
      · simp [hsettled]
    · simp [hw]

theorem settleEach_frame (ws : List WaiterId) (settlement : Settlement) :
    (m.settleEach ws settlement).channel = m.channel ∧
    (m.settleEach ws settlement).waiterCount = m.waiterCount ∧
    (m.settleEach ws settlement).request = m.request := by
  induction ws generalizing m with
  | nil => exact ⟨rfl, rfl, rfl⟩
  | cons w rest ih =>
    obtain ⟨-, hchannel, -, -, hcount, hrequest, -⟩ := @settle_frame _ m w settlement
    obtain ⟨hchannel', hcount', hrequest'⟩ := @ih (m.settle w settlement)
    exact ⟨hchannel'.trans hchannel, hcount'.trans hcount, hrequest'.trans hrequest⟩

/-! ### Closing many channels -/

theorem mem_channelsOfSession (h : PoolRules m) {sessionId : SessionId} {c : ChannelId} :
    c ∈ m.channelsOfSession sessionId ↔
      (m.channel c).closed = false ∧ (m.channel c).sessionId = sessionId := by
  simp only [channelsOfSession, List.mem_filter, List.mem_range, h.pooled, decide_eq_true_eq,
    and_true]
  refine ⟨fun ⟨_, hc⟩ => hc, fun hc => ⟨?_, hc⟩⟩
  by_contra hcount
  simp [h.absent c (not_lt.mp hcount)] at hc

theorem mem_waitersOfSession (h : QueueRules m) {sessionId : SessionId} {w : WaiterId} :
    w ∈ m.waitersOfSession sessionId ↔
      (m.waiter w).settled = none ∧ (m.waiter w).sessionId = some sessionId := by
  simp only [waitersOfSession, List.mem_filter, List.mem_range, h.queued, decide_eq_true_eq,
    and_true]
  refine ⟨fun ⟨_, hw⟩ => hw, fun hw => ⟨?_, hw⟩⟩
  by_contra hcount
  exact h.absent w (not_lt.mp hcount) hw.1

theorem QueueRules.quiet (h : QueueRules m) (hquiet : m.quiet = true) {r : RequestId}
    {w : WaiterId} (hphase : (m.request r).phase = .waiting w) : (m.waiter w).settled = none := by
  have hr := (h.waiting r w hphase).1
  have hr' := List.all_eq_true.mp hquiet r (List.mem_range.mpr hr)
  simpa [hphase] using hr'

/-- No request has been woken that has not yet gone on. -/
def Asleep (m : ReverseChannelManager Flows) : Prop :=
  ∀ r w, (m.request r).phase = .waiting w → (m.waiter w).settled ≠ some .resolved

/-- Closing the channels of a session leaves no channel and no waiter of it, so its node
may go on to another session. -/
theorem Disciplined.closeChannelsForSession {current current' : String → Option SessionId}
    (h : Disciplined current m) (hasleep : Asleep m) {sessionId : SessionId}
    (hcurrent : ∀ nodeId id, current nodeId = some id → id ≠ sessionId →
      current' nodeId = some id) (reason : String) :
    Disciplined current' (m.closeChannelsForSession closeFlow sessionId reason) ∧
      Asleep (m.closeChannelsForSession closeFlow sessionId reason) := by
  let closing := m.closeEach closeFlow (m.channelsOfSession sessionId) reason
  have hclosing : Disciplined current closing := h.closeEach _ reason
  obtain ⟨hwaiter, -, -, hrequest⟩ :=
    @closeEach_frame _ closeFlow m (m.channelsOfSession sessionId) reason
  let settled : Settlement := .rejected (.sessionStale reason)
  let closed := closing.settleEach (closing.waitersOfSession sessionId) settled
  have hclosed : Disciplined current closed := hclosing.settleEach _ settled
  obtain ⟨hchannel, -, hrequest'⟩ :=
    @settleEach_frame _ closing (closing.waitersOfSession sessionId) settled
  have hresolved {w : WaiterId} (hw : (closed.waiter w).settled = some .resolved) :
      (m.waiter w).settled = some .resolved := by
    rw [waiter_settleEach] at hw
    split_ifs at hw
    · simp [settled] at hw
    · rwa [← hwaiter]
  have hasleep' : Asleep closed := by
    intro r w hphase hw
    rw [hrequest', hrequest] at hphase
    exact hasleep r w hphase (hresolved hw)
  refine ⟨⟨hclosed.pool, hclosed.queue, ⟨fun c hopen => ?_, fun r w id hphase hsettled hid => ?_⟩,
    hclosed.served⟩, hasleep'⟩
  · apply hcurrent _ _ (hclosed.bound.channel c hopen)
    intro hsession
    have hopen' : (closing.channel c).closed = false := hchannel ▸ hopen
    have hsession' : (closing.channel c).sessionId = sessionId := hchannel ▸ hsession
    rw [(channel_closeEach _ reason c).2.1] at hsession'
    have hstill : ¬(c ∈ m.channelsOfSession sessionId ∨ (m.channel c).closed = true) := by
      rw [← @closed_closeEach _ closeFlow _ _ _ reason, Bool.not_eq_true]
      exact hopen'
    rw [not_or, Bool.not_eq_true] at hstill
    exact hstill.1 ((mem_channelsOfSession h.pool).mpr ⟨hstill.2, hsession'⟩)
  · apply hcurrent _ _ (hclosed.bound.request r w id hphase hsettled hid)
    rintro rfl
    have hnone : (closed.waiter w).settled = none := hsettled.resolve_right (hasleep' r w hphase)
    have hsession : (closed.waiter w).sessionId = some id :=
      (hclosed.queue.waiting r w hphase).2.2.2.trans hid
    rw [waiter_settleEach] at hnone hsession
    split_ifs at hnone hsession with hw
    exact hw ⟨(mem_waitersOfSession hclosing.queue).mpr ⟨hnone, hsession⟩, hnone⟩

theorem Disciplined.closeChannelsForNode {current : String → Option SessionId}
    (h : Disciplined current m) (nodeId reason : String) :
    Disciplined current (m.closeChannelsForNode closeFlow nodeId reason) :=
  (h.closeEach _ reason).settleEach _ _

/-- Closing the channels of a node leaves none of them open and none of its waiters queued. -/
theorem Disciplined.none_of_closeChannelsForNode {current : String → Option SessionId}
    (h : Disciplined current m) (nodeId reason : String) :
    (m.closeChannelsForNode closeFlow nodeId reason).channels nodeId = [] ∧
      (m.closeChannelsForNode closeFlow nodeId reason).idleWaiters nodeId = [] := by
  have hafter : Disciplined current (m.closeChannelsForNode closeFlow nodeId reason) :=
    h.closeChannelsForNode nodeId reason
  let closing := m.closeEach closeFlow (m.channels nodeId) reason
  obtain ⟨hchannel, -⟩ := @settleEach_frame _ closing (closing.idleWaiters nodeId) .resolved
  refine ⟨List.eq_nil_iff_forall_not_mem.mpr fun c hc => ?_,
    List.eq_nil_iff_forall_not_mem.mpr fun w hw => ?_⟩
  · obtain ⟨hopen, hnode⟩ := (hafter.pool.pooled nodeId c).mp hc
    have hopen' : (closing.channel c).closed = false := hchannel ▸ hopen
    have hnode' : (closing.channel c).nodeId = nodeId := hchannel ▸ hnode
    rw [(channel_closeEach _ reason c).1] at hnode'
    have hstill : ¬(c ∈ m.channels nodeId ∨ (m.channel c).closed = true) := by
      rw [← @closed_closeEach _ closeFlow _ _ _ reason, Bool.not_eq_true]
      exact hopen'
    rw [not_or, Bool.not_eq_true] at hstill
    exact hstill.1 ((h.pool.pooled nodeId c).mpr ⟨hstill.2, hnode'⟩)
  · obtain ⟨hnone, hnode⟩ := (hafter.queue.queued nodeId w).mp hw
    have hqueue : QueueRules closing := (h.closeEach _ reason).queue
    rw [ReverseChannelManager.closeChannelsForNode, waiter_settleEach] at hnone hnode
    split_ifs at hnone hnode with hsettled
    exact hsettled ⟨(hqueue.queued nodeId w).mpr ⟨hnone, hnode⟩, hnone⟩

theorem Disciplined.closeChannelsForCredential {current : String → Option SessionId}
    (h : Disciplined current m) (nodeId keyId reason : String) :
    Disciplined current (m.closeChannelsForCredential closeFlow nodeId keyId reason) :=
  h.closeEach _ reason

/-- Closing the channels of a credential leaves none of them open. -/
theorem closed_closeChannelsForCredential (h : PoolRules m) {nodeId keyId : String}
    {c : ChannelId} (hnode : (m.channel c).nodeId = nodeId) (hkey : (m.channel c).keyId = keyId)
    (reason : String) :
    ((m.closeChannelsForCredential closeFlow nodeId keyId reason).channel c).closed = true := by
  rw [closeChannelsForCredential, closed_closeEach]
  cases hclosed : (m.channel c).closed with
  | true => exact .inr rfl
  | false =>
    left
    rw [List.mem_filter, h.pooled]
    exact ⟨⟨hclosed, hnode⟩, by simpa using hkey⟩

/-! ### Settled waiters -/

/-- Waiters that are settled stay as they are, and so does the bound of the pools. -/
structure Settles (m m' : ReverseChannelManager Flows) : Prop where
  maxChannels : m'.maxChannels = m.maxChannels
  count : m.waiterCount ≤ m'.waiterCount
  waiter : ∀ w < m.waiterCount, (m.waiter w).settled ≠ none → m'.waiter w = m.waiter w

theorem Settles.refl (m : ReverseChannelManager Flows) : Settles m m :=
  ⟨rfl, le_rfl, fun _ _ _ => rfl⟩

theorem Settles.trans {m' m'' : ReverseChannelManager Flows} (h : Settles m m')
    (h' : Settles m' m'') : Settles m m'' := by
  refine ⟨h'.maxChannels.trans h.maxChannels, h.count.trans h'.count, fun w hw hsettled => ?_⟩
  have hsame := h.waiter w hw hsettled
  rw [← hsame] at hsettled ⊢
  exact h'.waiter w (hw.trans_le h.count) hsettled

theorem settles_of_eq {m' : ReverseChannelManager Flows} (hmax : m'.maxChannels = m.maxChannels)
    (hcount : m'.waiterCount = m.waiterCount) (hwaiter : m'.waiter = m.waiter) : Settles m m' :=
  ⟨hmax, hcount.ge, fun w _ _ => congrFun hwaiter w⟩

theorem settles_settle (w : WaiterId) (settlement : Settlement) :
    Settles m (m.settle w settlement) := by
  obtain ⟨hmax, -, -, -, hcount, -⟩ := @settle_frame _ m w settlement
  refine ⟨hmax, hcount.ge, fun other _ hsettled => ?_⟩
  rw [waiter_settle, if_neg]
  rintro ⟨rfl, hnone⟩
  exact hsettled hnone

theorem settles_settleEach (ws : List WaiterId) (settlement : Settlement) :
    Settles m (m.settleEach ws settlement) := by
  induction ws generalizing m with
  | nil => exact .refl m
  | cons w rest ih => exact (settles_settle w settlement).trans ih

theorem settles_resolveIdleWaiters (nodeId : String) (sessionId : SessionId) :
    Settles m (m.resolveIdleWaiters nodeId sessionId) := by
  rw [resolveIdleWaiters]
  split
  · exact .refl m
  · exact settles_settle _ _

theorem settles_close (c : ChannelId) (reason : String) :
    Settles m (m.close closeFlow c reason) := by
  obtain ⟨hmax, -, hwaiter, hcount, -⟩ := @close_frame _ closeFlow m c reason
  exact settles_of_eq hmax hcount hwaiter

theorem settles_closeEach (cs : List ChannelId) (reason : String) :
    Settles m (m.closeEach closeFlow cs reason) := by
  induction cs generalizing m with
  | nil => exact .refl m
  | cons c rest ih => exact (settles_close c reason).trans ih

theorem settles_registerChannel (nodeId keyId : String) (sessionId : SessionId) :
    Settles m (m.registerChannel nodeId keyId sessionId) := by
  rw [registerChannel_eq]
  split_ifs
  · exact .refl m
  · have hadd : Settles m (m.addChannel nodeId keyId sessionId) := settles_of_eq rfl rfl rfl
    exact hadd.trans (settles_resolveIdleWaiters nodeId sessionId)

theorem settles_claimOrWait (r : RequestId) (now : ℤ) : Settles m (m.claimOrWait r now) := by
  rw [claimOrWait]
  split
  · rename_i c m' hclaim
    obtain ⟨-, -, rfl⟩ := claimIdleChannel_some hclaim
    exact settles_of_eq rfl rfl rfl
  · rw [wait_eq]
    split_ifs
    · refine ⟨rfl, Nat.le_succ _, fun w hw _ => ?_⟩
      rw [waiter_enqueue, if_neg hw.ne]
    · exact settles_of_eq rfl rfl rfl

theorem settles_acquireChannel (nodeId : String) (sessionId : Option SessionId)
    (now : Readings) : Settles m (m.acquireChannel nodeId sessionId now) := by
  have harrive : Settles m (m.arrive nodeId sessionId (now 0)) := settles_of_eq rfl rfl rfl
  exact harrive.trans (settles_claimOrWait _ _)

theorem settles_step (event : ChannelEvent Flows) : Settles m (m.step closeFlow event) := by
  cases event with
  | resume r now =>
    rw [step, resume]
    split
    · split
      · exact .refl m
      · exact settles_claimOrWait r _
      · exact settles_of_eq rfl rfl rfl
    · exact .refl m
  | waiterTimeout w => exact settles_settle w _
  | waiterAbort w => exact settles_settle w _
  | markBusy c flow => exact settles_of_eq rfl rfl rfl
  | markIdle c =>
    rw [step]
    split_ifs
    · exact .refl m
    · have hidle : Settles m (m.modifyChannel c fun channel =>
          { channel with flow := none, state := .idle }) := settles_of_eq rfl rfl rfl
      exact hidle.trans (settles_resolveIdleWaiters _ _)
  | close c reason => exact settles_close c reason
  | flows change => exact settles_of_eq rfl rfl rfl

theorem settles_closeChannelsForSession (sessionId : SessionId) (reason : String) :
    Settles m (m.closeChannelsForSession closeFlow sessionId reason) :=
  (settles_closeEach _ _).trans (settles_settleEach _ _)

theorem settles_closeChannelsForNode (nodeId reason : String) :
    Settles m (m.closeChannelsForNode closeFlow nodeId reason) :=
  (settles_closeEach _ _).trans (settles_settleEach _ _)

end ReverseChannelManager

end DshOrbit.ReverseHub
