import DshOrbit.ReverseHub.Channels
import Mathlib.Data.Finset.Card
import Mathlib.Data.Finset.Range

/-!
# What the channel pool keeps

The pool of a node holds its open channels and no others, and its queue holds the
waiters that are not settled. Where all channels of a node carry its current session,
no wake-up is lost: while a waiter is queued there are at most as many idle channels as
requests that have been woken and have not yet gone on.

## Main definitions

- `PoolRules`, `QueueRules` — the channels and the waiters of every node
- `Bound` — channels and requests carry the current session of their node
- `Served` — no wake-up is lost

## Main results

- `Disciplined.settle`, `Disciplined.markIdle`, `Disciplined.close`,
  `Disciplined.registerChannel`
-/

namespace DshOrbit.ReverseHub

open DshOrbit.Lib

namespace ReverseChannelManager

variable {Flows : Type*} {closeFlow : Flows → RequestId → String → Flows}
  {m : ReverseChannelManager Flows}

/-! ### Rules -/

structure PoolRules (m : ReverseChannelManager Flows) : Prop where
  bounded : ∀ nodeId, (m.channels nodeId).length ≤ m.maxChannels
  nodup : ∀ nodeId, (m.channels nodeId).Nodup
  pooled : ∀ nodeId c, c ∈ m.channels nodeId ↔
    (m.channel c).closed = false ∧ (m.channel c).nodeId = nodeId
  absent : ∀ c, m.channelCount ≤ c → (m.channel c).closed = true

structure QueueRules (m : ReverseChannelManager Flows) : Prop where
  nodup : ∀ nodeId, (m.idleWaiters nodeId).Nodup
  queued : ∀ nodeId w, w ∈ m.idleWaiters nodeId ↔
    (m.waiter w).settled = none ∧ (m.waiter w).nodeId = nodeId
  absent : ∀ w, m.waiterCount ≤ w → (m.waiter w).settled ≠ none
  owner : ∀ w, (m.waiter w).settled = none → ∃ r, (m.request r).phase = .waiting w
  waiting : ∀ r w, (m.request r).phase = .waiting w →
    r < m.requestCount ∧ w < m.waiterCount ∧ (m.waiter w).nodeId = (m.request r).nodeId ∧
      (m.waiter w).sessionId = (m.request r).sessionId

/-- The open channels, and the requests that wait or have been woken, carry the current
session of their node. -/
structure Bound (current : String → Option SessionId) (m : ReverseChannelManager Flows) :
    Prop where
  channel : ∀ c, (m.channel c).closed = false →
    current (m.channel c).nodeId = some (m.channel c).sessionId
  request : ∀ r w id, (m.request r).phase = .waiting w →
    (m.waiter w).settled = none ∨ (m.waiter w).settled = some .resolved →
      (m.request r).sessionId = some id → current (m.request r).nodeId = some id

/-- The idle channels of a node. -/
def idleSet (m : ReverseChannelManager Flows) (nodeId : String) : Finset ChannelId :=
  (Finset.range m.channelCount).filter fun c =>
    (m.channel c).closed = false ∧ (m.channel c).state = .idle ∧ (m.channel c).nodeId = nodeId

/-- A request that has been woken and has not yet gone on. -/
def woken (m : ReverseChannelManager Flows) (r : RequestId) : Bool :=
  match (m.request r).phase with
  | .waiting w => (m.waiter w).settled = some .resolved
  | _ => false

/-- The woken requests of a node. -/
def wokenSet (m : ReverseChannelManager Flows) (nodeId : String) : Finset RequestId :=
  (Finset.range m.requestCount).filter fun r => (m.request r).nodeId = nodeId ∧ m.woken r = true

/-- While a waiter is queued, there is a woken request for every idle channel. -/
def Served (m : ReverseChannelManager Flows) : Prop :=
  ∀ nodeId, m.idleWaiters nodeId ≠ [] → (m.idleSet nodeId).card ≤ (m.wokenSet nodeId).card

/-- What every run of the Hub keeps, for the current sessions of its nodes. -/
structure Disciplined (current : String → Option SessionId) (m : ReverseChannelManager Flows) :
    Prop where
  pool : PoolRules m
  queue : QueueRules m
  bound : Bound current m
  served : Served m

theorem mem_idleSet (h : PoolRules m) {nodeId : String} {c : ChannelId} :
    c ∈ m.idleSet nodeId ↔ (m.channel c).closed = false ∧ (m.channel c).state = .idle ∧
      (m.channel c).nodeId = nodeId := by
  rw [idleSet, Finset.mem_filter, Finset.mem_range, and_iff_right_iff_imp]
  rintro ⟨hopen, -⟩
  by_contra hcount
  simp [h.absent c (by omega)] at hopen

theorem woken_iff {r : RequestId} : m.woken r = true ↔
    ∃ w, (m.request r).phase = .waiting w ∧ (m.waiter w).settled = some .resolved := by
  rw [woken]
  split
  · rename_i w hphase
    simp [hphase]
  · rename_i hphase
    simp only [Bool.false_eq_true, false_iff, not_exists, not_and]
    intro w hw
    exact absurd hw (hphase w)

theorem mem_wokenSet (h : QueueRules m) {nodeId : String} {r : RequestId} :
    r ∈ m.wokenSet nodeId ↔ (m.request r).nodeId = nodeId ∧ m.woken r = true := by
  rw [wokenSet, Finset.mem_filter, Finset.mem_range, and_iff_right_iff_imp]
  rintro ⟨-, hwoken⟩
  obtain ⟨w, hw, -⟩ := woken_iff.mp hwoken
  exact (h.waiting r w hw).1

theorem disciplined_initial (maxChannels : ℕ) (capacityWaitMs : ℤ) (flows : Flows)
    (current : String → Option SessionId) :
    Disciplined current (initial maxChannels capacityWaitMs flows) where
  pool :=
    { bounded _ := Nat.zero_le _
      nodup _ := List.nodup_nil
      pooled nodeId c := by simp [initial, ReverseChannel.absent]
      absent _ _ := rfl }
  queue :=
    { nodup _ := List.nodup_nil
      queued nodeId w := by simp [initial]
      absent w _ := by simp [initial]
      owner w h := by simp [initial] at h
      waiting r w h := by simp [initial] at h }
  bound :=
    { channel c h := by simp [initial, ReverseChannel.absent] at h
      request r w id h := by simp [initial] at h }
  served nodeId h := by simp [initial] at h

/-! ### Waiters -/

theorem settle_of_settled {w : WaiterId} (hsettled : (m.waiter w).settled ≠ none)
    (settlement : Settlement) : m.settle w settlement = m := by
  rw [settle, if_pos (Option.isSome_iff_ne_none.mpr hsettled)]

/-- What settling a queued waiter does. -/
theorem settle_of_unsettled {w : WaiterId} (hsettled : (m.waiter w).settled = none)
    (settlement : Settlement) : m.settle w settlement =
      { m with
        waiter := Function.update m.waiter w { m.waiter w with settled := some settlement }
        idleWaiters := Function.update m.idleWaiters (m.waiter w).nodeId
          ((m.idleWaiters (m.waiter w).nodeId).filter (· ≠ w)) } := by
  rw [settle, if_neg (by simp [hsettled])]

theorem waiter_settle (w other : WaiterId) (settlement : Settlement) :
    (m.settle w settlement).waiter other =
      if other = w ∧ (m.waiter w).settled = none then
        { m.waiter w with settled := some settlement } else m.waiter other := by
  by_cases hsettled : (m.waiter w).settled = none
  · rw [settle_of_unsettled hsettled]
    by_cases hw : other = w
    · simp [hw, hsettled]
    · simp [hw]
  · rw [settle_of_settled hsettled, if_neg fun h => hsettled h.2]

theorem idleWaiters_settle (h : QueueRules m) (w : WaiterId) (settlement : Settlement)
    (nodeId : String) :
    (m.settle w settlement).idleWaiters nodeId = (m.idleWaiters nodeId).filter (· ≠ w) := by
  have hkeeps (hnot : w ∉ m.idleWaiters nodeId) :
      (m.idleWaiters nodeId).filter (· ≠ w) = m.idleWaiters nodeId := by
    apply List.filter_eq_self.mpr
    intro other hother
    simpa using fun heq : other = w => hnot (heq ▸ hother)
  by_cases hsettled : (m.waiter w).settled = none
  · rw [settle_of_unsettled hsettled]
    by_cases hnode : nodeId = (m.waiter w).nodeId
    · simp [hnode]
    · rw [hkeeps fun hmem => hnode ((h.queued nodeId w).mp hmem).2.symm]
      simp [hnode]
  · rw [settle_of_settled hsettled, hkeeps fun hmem => hsettled ((h.queued nodeId w).mp hmem).1]

/-- Settling a waiter leaves everything but the waiters alone. -/
theorem settle_frame (w : WaiterId) (settlement : Settlement) :
    (m.settle w settlement).maxChannels = m.maxChannels ∧
    (m.settle w settlement).channel = m.channel ∧
    (m.settle w settlement).channelCount = m.channelCount ∧
    (m.settle w settlement).channels = m.channels ∧
    (m.settle w settlement).waiterCount = m.waiterCount ∧
    (m.settle w settlement).request = m.request ∧
    (m.settle w settlement).requestCount = m.requestCount := by
  by_cases hsettled : (m.waiter w).settled = none
  · rw [settle_of_unsettled hsettled]
    exact ⟨rfl, rfl, rfl, rfl, rfl, rfl, rfl⟩
  · rw [settle_of_settled hsettled]
    exact ⟨rfl, rfl, rfl, rfl, rfl, rfl, rfl⟩

theorem QueueRules.settle (h : QueueRules m) (w : WaiterId) (settlement : Settlement) :
    QueueRules (m.settle w settlement) := by
  obtain ⟨-, -, -, -, hcount, hrequest, hrequests⟩ := @settle_frame _ m w settlement
  constructor
  · intro nodeId
    rw [idleWaiters_settle h]
    exact (h.nodup nodeId).filter _
  · intro nodeId other
    rw [idleWaiters_settle h, List.mem_filter, h.queued, waiter_settle]
    by_cases hw : other = w
    · split_ifs with hsettled
      · simp [hw]
      · simp only [hw, true_and] at hsettled ⊢
        simp [hsettled]
    · simp [hw]
  · intro other hother
    rw [hcount] at hother
    rw [waiter_settle]
    split_ifs
    · simp
    · exact h.absent other hother
  · intro other hother
    rw [hrequest]
    rw [waiter_settle] at hother
    split_ifs at hother with hsettled
    exact h.owner other hother
  · intro r other hphase
    rw [hrequest] at hphase ⊢
    rw [hrequests, hcount, waiter_settle]
    obtain ⟨hr, hother, hnode, hsession⟩ := h.waiting r other hphase
    refine ⟨hr, hother, ?_⟩
    split_ifs with hw
    · rw [hw.1] at hnode hsession
      exact ⟨hnode, hsession⟩
    · exact ⟨hnode, hsession⟩

theorem PoolRules.settle (h : PoolRules m) (w : WaiterId) (settlement : Settlement) :
    PoolRules (m.settle w settlement) := by
  obtain ⟨hmax, hchannel, hcount, hchannels, -⟩ := @settle_frame _ m w settlement
  constructor
  · rw [hmax, hchannels]
    exact h.bounded
  · rw [hchannels]
    exact h.nodup
  · rw [hchannels, hchannel]
    exact h.pooled
  · rw [hcount, hchannel]
    exact h.absent

theorem Bound.settle {current : String → Option SessionId} (h : Bound current m) (w : WaiterId)
    (settlement : Settlement) : Bound current (m.settle w settlement) := by
  obtain ⟨-, hchannel, -, -, -, hrequest, -⟩ := @settle_frame _ m w settlement
  constructor
  · rw [hchannel]
    exact h.channel
  · intro r other id hphase hsettled
    rw [hrequest] at hphase ⊢
    rw [waiter_settle] at hsettled
    split_ifs at hsettled with hw
    · exact h.request r other id hphase (.inl (hw.1 ▸ hw.2))
    · exact h.request r other id hphase hsettled

theorem idleSet_settle (w : WaiterId) (settlement : Settlement) (nodeId : String) :
    (m.settle w settlement).idleSet nodeId = m.idleSet nodeId := by
  obtain ⟨-, hchannel, hcount, -⟩ := @settle_frame _ m w settlement
  rw [idleSet, hchannel, hcount, idleSet]

/-- Settling a waiter puts no woken request back to sleep. -/
theorem woken_settle (w : WaiterId) (settlement : Settlement) {r : RequestId}
    (h : m.woken r = true) : (m.settle w settlement).woken r = true := by
  obtain ⟨-, -, -, -, -, hrequest, -⟩ := @settle_frame _ m w settlement
  obtain ⟨other, hphase, hsettled⟩ := woken_iff.mp h
  rw [woken_iff, hrequest]
  refine ⟨other, hphase, ?_⟩
  rw [waiter_settle, if_neg]
  · exact hsettled
  · rintro ⟨rfl, hnone⟩
    simp [hnone] at hsettled

theorem wokenSet_settle (h : QueueRules m) (w : WaiterId) (settlement : Settlement)
    (nodeId : String) : m.wokenSet nodeId ⊆ (m.settle w settlement).wokenSet nodeId := by
  intro r hr
  rw [mem_wokenSet h] at hr
  rw [mem_wokenSet (h.settle w settlement), (settle_frame w settlement).2.2.2.2.2.1]
  exact ⟨hr.1, woken_settle w settlement hr.2⟩

/-- Resolving a queued waiter wakes a request. -/
theorem card_wokenSet_settle (h : QueueRules m) {w : WaiterId} {nodeId : String}
    (hw : w ∈ m.idleWaiters nodeId) :
    (m.wokenSet nodeId).card < ((m.settle w .resolved).wokenSet nodeId).card := by
  obtain ⟨hsettled, hnode⟩ := (h.queued nodeId w).mp hw
  obtain ⟨r, hphase⟩ := h.owner w hsettled
  obtain ⟨-, -, hnode', -⟩ := h.waiting r w hphase
  apply Finset.card_lt_card
  refine (Finset.ssubset_iff_of_subset (wokenSet_settle h w .resolved nodeId)).mpr ⟨r, ?_, ?_⟩
  · rw [mem_wokenSet (h.settle w .resolved), (settle_frame w .resolved).2.2.2.2.2.1, woken_iff]
    refine ⟨hnode'.symm.trans hnode, w, ?_, ?_⟩
    · rw [(settle_frame w .resolved).2.2.2.2.2.1]
      exact hphase
    · rw [waiter_settle, if_pos ⟨rfl, hsettled⟩]
  · rw [mem_wokenSet h, woken_iff]
    rintro ⟨-, other, hother, hresolved⟩
    obtain rfl : w = other := by simpa [hphase] using hother
    simp [hsettled] at hresolved

theorem Served.settle (h : Served m) (hqueue : QueueRules m) (w : WaiterId)
    (settlement : Settlement) : Served (m.settle w settlement) := by
  intro nodeId hne
  rw [idleWaiters_settle hqueue] at hne
  have hne' : m.idleWaiters nodeId ≠ [] := by
    intro hnil
    simp [hnil] at hne
  rw [idleSet_settle]
  exact (h nodeId hne').trans (Finset.card_le_card (wokenSet_settle hqueue w settlement nodeId))

theorem Disciplined.settle {current : String → Option SessionId} (h : Disciplined current m)
    (w : WaiterId) (settlement : Settlement) : Disciplined current (m.settle w settlement) where
  pool := h.pool.settle w settlement
  queue := h.queue.settle w settlement
  bound := h.bound.settle w settlement
  served := h.served.settle h.queue w settlement

theorem Disciplined.settleEach {current : String → Option SessionId} (h : Disciplined current m)
    (ws : List WaiterId) (settlement : Settlement) :
    Disciplined current (m.settleEach ws settlement) := by
  induction ws generalizing m with
  | nil => exact h
  | cons w rest ih => exact ih (h.settle w settlement)

/-! ### Wake-ups -/

/-- The rules before the wake-up that a channel of the node is about to send. -/
def Owed (nodeId : String) (m : ReverseChannelManager Flows) : Prop :=
  ∀ other, m.idleWaiters other ≠ [] →
    (m.idleSet other).card ≤ (m.wokenSet other).card + if other = nodeId then 1 else 0

theorem disciplined_resolveIdleWaiters {current : String → Option SessionId}
    {nodeId : String} {sessionId : SessionId} (hpool : PoolRules m) (hqueue : QueueRules m)
    (hbound : Bound current m) (howed : Owed nodeId m)
    (hcurrent : current nodeId = some sessionId) :
    Disciplined current (m.resolveIdleWaiters nodeId sessionId) := by
  -- all queued waiters of the node take a channel of the current session
  have htakes : ∀ w ∈ m.idleWaiters nodeId, (m.waiter w).takes sessionId = true := by
    intro w hw
    obtain ⟨hsettled, hnode⟩ := (hqueue.queued nodeId w).mp hw
    obtain ⟨r, hphase⟩ := hqueue.owner w hsettled
    obtain ⟨-, -, hnode', hsession⟩ := hqueue.waiting r w hphase
    have hrequest := hbound.request r w
    rw [← hsession, ← hnode', hnode, hcurrent] at hrequest
    cases hid : (m.waiter w).sessionId with
    | none => simp [Waiter.takes, hid]
    | some id =>
      have := hrequest id hphase (.inl hsettled) hid
      simp [Waiter.takes, hid, Option.some.inj this]
  rw [resolveIdleWaiters]
  cases hfind : (m.idleWaiters nodeId).find? fun w => (m.waiter w).takes sessionId with
  | none =>
    have hnil : m.idleWaiters nodeId = [] := by
      apply List.eq_nil_iff_forall_not_mem.mpr
      intro w hw
      exact List.find?_eq_none.mp hfind w hw (htakes w hw)
    refine ⟨hpool, hqueue, hbound, fun other hother => ?_⟩
    have hne : other ≠ nodeId := by
      rintro rfl
      exact hother hnil
    simpa [hne] using howed other hother
  | some w =>
    have hw := List.mem_of_find?_eq_some hfind
    show Disciplined current (m.settle w .resolved)
    refine ⟨hpool.settle w _, hqueue.settle w _, hbound.settle w _, fun other hother => ?_⟩
    rw [idleWaiters_settle hqueue] at hother
    have hother' : m.idleWaiters other ≠ [] := by
      intro hnil
      simp [hnil] at hother
    have hle := howed other hother'
    rw [idleSet_settle]
    by_cases hne : other = nodeId
    · subst hne
      have := card_wokenSet_settle hqueue hw
      rw [if_pos rfl] at hle
      omega
    · rw [if_neg hne] at hle
      exact hle.trans (Finset.card_le_card (wokenSet_settle hqueue w _ other))

/-! ### Channels -/

theorem channel_modifyChannel (c other : ChannelId) (f : ReverseChannel → ReverseChannel) :
    (m.modifyChannel c f).channel other = if other = c then f (m.channel c) else m.channel other := by
  by_cases hc : other = c
  · simp [modifyChannel, hc]
  · simp [modifyChannel, hc]

/-- A change of a channel that leaves it where it is. -/
def Stays (f : ReverseChannel → ReverseChannel) : Prop :=
  ∀ channel, (f channel).nodeId = channel.nodeId ∧ (f channel).sessionId = channel.sessionId ∧
    (f channel).closed = channel.closed

theorem Stays.channel {f : ReverseChannel → ReverseChannel} (hf : Stays f) (c other : ChannelId) :
    ((m.modifyChannel c f).channel other).nodeId = (m.channel other).nodeId ∧
      ((m.modifyChannel c f).channel other).sessionId = (m.channel other).sessionId ∧
      ((m.modifyChannel c f).channel other).closed = (m.channel other).closed := by
  rw [channel_modifyChannel]
  split_ifs with hc
  · rw [hc]
    exact hf _
  · exact ⟨rfl, rfl, rfl⟩

theorem PoolRules.modifyChannel (h : PoolRules m) (c : ChannelId)
    {f : ReverseChannel → ReverseChannel} (hf : Stays f) : PoolRules (m.modifyChannel c f) := by
  refine ⟨h.bounded, h.nodup, fun nodeId other => ?_, fun other hother => ?_⟩
  · obtain ⟨hnode, -, hclosed⟩ := @Stays.channel _ m _ hf c other
    rw [hnode, hclosed]
    exact h.pooled nodeId other
  · rw [(hf.channel c other).2.2]
    exact h.absent other hother

theorem Bound.modifyChannel {current : String → Option SessionId} (h : Bound current m)
    (c : ChannelId) {f : ReverseChannel → ReverseChannel} (hf : Stays f) :
    Bound current (m.modifyChannel c f) := by
  refine ⟨fun other hother => ?_, h.request⟩
  obtain ⟨hnode, hsession, hclosed⟩ := @Stays.channel _ m _ hf c other
  rw [hclosed] at hother
  rw [hnode, hsession]
  exact h.channel other hother

theorem QueueRules.modifyChannel (h : QueueRules m) (c : ChannelId)
    (f : ReverseChannel → ReverseChannel) : QueueRules (m.modifyChannel c f) :=
  ⟨h.nodup, h.queued, h.absent, h.owner, h.waiting⟩

/-- A channel that is taken is no longer idle. -/
theorem idleSet_taken (h : PoolRules m) (c : ChannelId) {f : ReverseChannel → ReverseChannel}
    (hf : Stays f) (htaken : ∀ channel, (f channel).state ≠ .idle) (nodeId : String) :
    (m.modifyChannel c f).idleSet nodeId ⊆ (m.idleSet nodeId).erase c := by
  intro other hother
  rw [mem_idleSet (h.modifyChannel c hf)] at hother
  obtain ⟨hnode, -, hclosed⟩ := @Stays.channel _ m _ hf c other
  rw [hnode, hclosed, channel_modifyChannel] at hother
  rw [Finset.mem_erase, mem_idleSet h]
  split_ifs at hother with hc
  · exact absurd hother.2.1 (htaken _)
  · exact ⟨hc, hother⟩

theorem Disciplined.markBusy {current : String → Option SessionId} (h : Disciplined current m)
    (c : ChannelId) (flow : RequestId) : Disciplined current (m.markBusy c flow) := by
  have hstays : Stays fun channel => { channel with state := .busy, flow := some flow } :=
    fun _ => ⟨rfl, rfl, rfl⟩
  refine ⟨h.pool.modifyChannel c hstays, h.queue.modifyChannel c _,
    h.bound.modifyChannel c hstays, fun nodeId hne => ?_⟩
  have hsub := idleSet_taken h.pool c hstays (fun _ => by simp) nodeId
  exact (Finset.card_le_card (hsub.trans (Finset.erase_subset _ _))).trans (h.served nodeId hne)

theorem Disciplined.markIdle {current : String → Option SessionId} (h : Disciplined current m)
    {c : ChannelId} (hopen : (m.channel c).closed = false) :
    Disciplined current (m.markIdle c) := by
  have hstays : Stays fun channel => { channel with flow := none, state := .idle } :=
    fun _ => ⟨rfl, rfl, rfl⟩
  have hpool := h.pool.modifyChannel c hstays
  obtain ⟨hnode, hsession, -⟩ := @Stays.channel _ m _ hstays c c
  apply disciplined_resolveIdleWaiters hpool (h.queue.modifyChannel c _)
    (h.bound.modifyChannel c hstays)
  · intro other hne
    have hle := h.served other hne
    have hsub : (m.modifyChannel c fun channel =>
        { channel with flow := none, state := .idle }).idleSet other ⊆
          if other = (m.channel c).nodeId then insert c (m.idleSet other) else m.idleSet other := by
      intro d hd
      rw [mem_idleSet hpool, channel_modifyChannel] at hd
      by_cases hc : d = c
      · rw [if_pos hc] at hd
        rw [if_pos hd.2.2.symm, hc]
        exact Finset.mem_insert_self c _
      · rw [if_neg hc] at hd
        have hmem := (mem_idleSet h.pool).mpr hd
        split_ifs
        · exact Finset.mem_insert_of_mem hmem
        · exact hmem
    have hcard := Finset.card_le_card hsub
    rw [hnode]
    split_ifs at hcard ⊢ with hother
    · exact hcard.trans ((Finset.card_insert_le _ _).trans (Nat.add_le_add_right hle 1))
    · exact hcard.trans hle
  · rw [hnode, hsession]
    exact h.bound.channel c hopen

/-- What closing an open channel does. -/
theorem close_of_open {c : ChannelId} (hopen : (m.channel c).closed = false) (reason : String) :
    m.close closeFlow c reason =
      { m with
        channel := Function.update m.channel c
          { m.channel c with closed := true, flow := none, state := .closed }
        channels := Function.update m.channels (m.channel c).nodeId
          ((m.channels (m.channel c).nodeId).filter (· ≠ c))
        flows := match (m.channel c).flow with
          | none => m.flows
          | some flow => closeFlow m.flows flow reason } := by
  rw [close, if_neg (by simp [hopen])]
  rfl

theorem close_of_closed {c : ChannelId} (hclosed : (m.channel c).closed = true)
    (reason : String) : m.close closeFlow c reason = m := by
  rw [close, if_pos hclosed]

theorem channel_close_of_ne {c other : ChannelId} (hne : other ≠ c) (reason : String) :
    (m.close closeFlow c reason).channel other = m.channel other := by
  cases hclosed : (m.channel c).closed with
  | true => rw [close_of_closed hclosed]
  | false => simp [close_of_open hclosed, hne]

theorem closed_close (c : ChannelId) (reason : String) :
    ((m.close closeFlow c reason).channel c).closed = true := by
  cases hclosed : (m.channel c).closed with
  | true => rwa [close_of_closed hclosed]
  | false => simp [close_of_open hclosed]

theorem PoolRules.channels_close (h : PoolRules m) (c : ChannelId) (reason nodeId : String) :
    (m.close closeFlow c reason).channels nodeId = (m.channels nodeId).filter (· ≠ c) := by
  have hkeeps (hnot : c ∉ m.channels nodeId) :
      (m.channels nodeId).filter (· ≠ c) = m.channels nodeId := by
    apply List.filter_eq_self.mpr
    intro other hother
    simpa using fun heq : other = c => hnot (heq ▸ hother)
  cases hclosed : (m.channel c).closed with
  | true =>
    rw [close_of_closed hclosed, hkeeps]
    intro hmem
    simp [((h.pooled nodeId c).mp hmem).1] at hclosed
  | false =>
    rw [close_of_open hclosed]
    by_cases hnode : nodeId = (m.channel c).nodeId
    · simp [hnode]
    · rw [hkeeps fun hmem => hnode ((h.pooled nodeId c).mp hmem).2.symm]
      simp [hnode]

/-- Closing a channel leaves everything but the channels and the flows alone. -/
theorem close_frame (c : ChannelId) (reason : String) :
    (m.close closeFlow c reason).maxChannels = m.maxChannels ∧
    (m.close closeFlow c reason).channelCount = m.channelCount ∧
    (m.close closeFlow c reason).waiter = m.waiter ∧
    (m.close closeFlow c reason).waiterCount = m.waiterCount ∧
    (m.close closeFlow c reason).idleWaiters = m.idleWaiters ∧
    (m.close closeFlow c reason).request = m.request ∧
    (m.close closeFlow c reason).requestCount = m.requestCount := by
  cases hclosed : (m.channel c).closed with
  | true =>
    rw [close_of_closed hclosed]
    exact ⟨rfl, rfl, rfl, rfl, rfl, rfl, rfl⟩
  | false =>
    rw [close_of_open hclosed]
    exact ⟨rfl, rfl, rfl, rfl, rfl, rfl, rfl⟩

theorem Disciplined.close {current : String → Option SessionId} (h : Disciplined current m)
    (c : ChannelId) (reason : String) : Disciplined current (m.close closeFlow c reason) := by
  obtain ⟨hmax, hcount, hwaiter, hwaiters, hidle, hrequest, hrequests⟩ :=
    @close_frame _ closeFlow m c reason
  have hpool : PoolRules (m.close closeFlow c reason) := by
    constructor
    · intro nodeId
      rw [h.pool.channels_close, hmax]
      exact (List.length_filter_le _ _).trans (h.pool.bounded nodeId)
    · intro nodeId
      rw [h.pool.channels_close]
      exact (h.pool.nodup nodeId).filter _
    · intro nodeId other
      rw [h.pool.channels_close, List.mem_filter, h.pool.pooled]
      by_cases hc : other = c
      · simp [hc, closed_close]
      · simp [hc, channel_close_of_ne hc]
    · intro other hother
      rw [hcount] at hother
      by_cases hc : other = c
      · rw [hc, closed_close]
      · rw [channel_close_of_ne hc]
        exact h.pool.absent other hother
  refine ⟨hpool, ?_, ⟨fun other hother => ?_, ?_⟩, fun nodeId hne => ?_⟩
  · constructor
    · rw [hidle]
      exact h.queue.nodup
    · rw [hidle, hwaiter]
      exact h.queue.queued
    · rw [hwaiters, hwaiter]
      exact h.queue.absent
    · rw [hwaiter, hrequest]
      exact h.queue.owner
    · rw [hwaiter, hwaiters, hrequest, hrequests]
      exact h.queue.waiting
  · have hc : other ≠ c := by
      rintro rfl
      simp [closed_close] at hother
    rw [channel_close_of_ne hc] at hother ⊢
    exact h.bound.channel other hother
  · rw [hwaiter, hrequest]
    exact h.bound.request
  · have hsub : (m.close closeFlow c reason).idleSet nodeId ⊆ m.idleSet nodeId := by
      intro other hother
      rw [mem_idleSet hpool] at hother
      have hc : other ≠ c := by
        rintro rfl
        simp [closed_close] at hother
      rw [channel_close_of_ne hc] at hother
      exact (mem_idleSet h.pool).mpr hother
    have hwoken : (m.close closeFlow c reason).wokenSet nodeId = m.wokenSet nodeId := by
      ext r
      rw [wokenSet, wokenSet, Finset.mem_filter, Finset.mem_filter, woken, woken, hrequest,
        hrequests, hwaiter]
    rw [hwoken]
    rw [hidle] at hne
    exact (Finset.card_le_card hsub).trans (h.served nodeId hne)

theorem Disciplined.closeEach {current : String → Option SessionId} (h : Disciplined current m)
    (cs : List ChannelId) (reason : String) :
    Disciplined current (m.closeEach closeFlow cs reason) := by
  induction cs generalizing m with
  | nil => exact h
  | cons c rest ih => exact ih (h.close c reason)

/-- The manager with a new channel, before the first waiter hears of it. -/
def addChannel (m : ReverseChannelManager Flows) (nodeId keyId : String)
    (sessionId : SessionId) : ReverseChannelManager Flows :=
  { m with
    channel := Function.update m.channel m.channelCount { nodeId, keyId, sessionId }
    channelCount := m.channelCount + 1
    channels := Function.update m.channels nodeId (m.channels nodeId ++ [m.channelCount]) }

theorem registerChannel_eq (nodeId keyId : String) (sessionId : SessionId) :
    m.registerChannel nodeId keyId sessionId =
      if m.maxChannels ≤ (m.channels nodeId).length then m
      else (m.addChannel nodeId keyId sessionId).resolveIdleWaiters nodeId sessionId := rfl

theorem PoolRules.addChannel (h : PoolRules m) {nodeId : String}
    (hroom : ¬m.maxChannels ≤ (m.channels nodeId).length) (keyId : String)
    (sessionId : SessionId) : PoolRules (m.addChannel nodeId keyId sessionId) := by
  have hnew (other : String) : m.channelCount ∉ m.channels other := by
    intro hmem
    have := ((h.pooled other _).mp hmem).1
    simp [h.absent _ le_rfl] at this
  constructor
  · intro other
    by_cases hother : other = nodeId
    · simp only [ReverseChannelManager.addChannel, hother, Function.update_self,
        List.length_append, List.length_singleton]
      omega
    · simpa [ReverseChannelManager.addChannel, hother] using h.bounded other
  · intro other
    by_cases hother : other = nodeId
    · simp only [ReverseChannelManager.addChannel, hother, Function.update_self]
      refine List.nodup_append.mpr ⟨h.nodup nodeId, List.nodup_singleton _, ?_⟩
      rintro c hc d hd rfl
      rw [List.mem_singleton] at hd
      exact hnew nodeId (hd ▸ hc)
    · simpa [ReverseChannelManager.addChannel, hother] using h.nodup other
  · intro other c
    by_cases hc : c = m.channelCount
    · by_cases hother : other = nodeId
      · simp [ReverseChannelManager.addChannel, hc, hother]
      · simp [ReverseChannelManager.addChannel, hc, hother, hnew other, Ne.symm hother]
    · by_cases hother : other = nodeId
      · simpa [ReverseChannelManager.addChannel, hc, hother] using h.pooled nodeId c
      · simpa [ReverseChannelManager.addChannel, hc, hother] using h.pooled other c
  · intro c hc
    have hc : m.channelCount + 1 ≤ c := hc
    have hne : c ≠ m.channelCount := by omega
    simpa [ReverseChannelManager.addChannel, hne] using h.absent c (by omega)

theorem Disciplined.registerChannel {current : String → Option SessionId}
    (h : Disciplined current m) {nodeId : String} {sessionId : SessionId}
    (hcurrent : current nodeId = some sessionId) (keyId : String) :
    Disciplined current (m.registerChannel nodeId keyId sessionId) := by
  rw [registerChannel_eq]
  split_ifs with hroom
  · exact h
  · have hpool := h.pool.addChannel hroom keyId sessionId
    refine disciplined_resolveIdleWaiters hpool
      ⟨h.queue.nodup, h.queue.queued, h.queue.absent, h.queue.owner, h.queue.waiting⟩
      ⟨fun c hopen => ?_, h.bound.request⟩ ?_ hcurrent
    · by_cases hc : c = m.channelCount
      · simpa [ReverseChannelManager.addChannel, hc] using hcurrent
      · simp only [ReverseChannelManager.addChannel, ne_eq, hc, not_false_eq_true,
          Function.update_of_ne] at hopen ⊢
        exact h.bound.channel c hopen
    · intro other hne
      have hle := h.served other hne
      have hsub : (m.addChannel nodeId keyId sessionId).idleSet other ⊆
          if other = nodeId then insert m.channelCount (m.idleSet other) else m.idleSet other := by
        intro c hc
        rw [mem_idleSet hpool] at hc
        by_cases hnew : c = m.channelCount
        · rw [if_pos (by simpa [ReverseChannelManager.addChannel, hnew] using hc.2.2.symm), hnew]
          exact Finset.mem_insert_self _ _
        · simp only [ReverseChannelManager.addChannel, ne_eq, hnew, not_false_eq_true,
            Function.update_of_ne] at hc
          have hmem := (mem_idleSet h.pool).mpr hc
          split_ifs
          · exact Finset.mem_insert_of_mem hmem
          · exact hmem
      have hcard := Finset.card_le_card hsub
      split_ifs at hcard ⊢ with hother
      · exact hcard.trans ((Finset.card_insert_le _ _).trans (Nat.add_le_add_right hle 1))
      · exact hcard.trans hle

end ReverseChannelManager

end DshOrbit.ReverseHub
