import DshOrbit.Lib.JsMap
import DshOrbit.Lib.JsNumber
import DshOrbit.Lib.Json
import DshOrbit.Lib.Run
import Mathlib.Data.Finset.Card

/-!
# The tracker of proxied WebSockets

`HubWebSocketTracker` (`registry/route-proxy.mjs`) counts the WebSockets that the hub relays, all
of them and those of each node, and refuses new ones at a cap. `track` gives out a callback that
releases the socket, and hangs it on the `close` and `error` events of the sockets as well.
`destroyAll` clears the counters; a callback given out before it can still be called after it.

## Main definitions

- `HubWebSocketTracker.canAccept`, `track`, `release`, `emit`, `destroyAll` — the operations
- `Ledger` — which sockets are tracked and not yet released, told from the calls alone
- `Accurate` — the counters and the refusals are those of the sockets in the ledger
- `Ledger.Timely` — a step that releases no socket of before the last `destroyAll` while others live

## Main results

- `run_nonneg` — no counter is ever negative
- `counts_iff` — when one step keeps the counters accurate
- `accurate_iff` — the same over whole runs
-/

namespace DshOrbit.RouteProxy

open DshOrbit.Lib

/-! ### Caps -/

def DEFAULT_HUB_WS_GLOBAL_LIMIT : ℚ := 200

def DEFAULT_HUB_WS_PER_NODE_LIMIT : ℚ := 50

/-- The caps of a tracker, as its constructor lets them through. -/
structure Caps where
  maxGlobal : ℤ
  maxPerNode : ℤ
  global_pos : 1 ≤ maxGlobal
  global_le : maxGlobal ≤ 100000
  perNode_pos : 1 ≤ maxPerNode
  perNode_le : maxPerNode ≤ 10000
  perNode_le_global : maxPerNode ≤ maxGlobal

/-- An integer between one and the limit. -/
def readCap (limit : ℤ) : Json → Option {cap : ℤ // 1 ≤ cap ∧ cap ≤ limit}
  | .num value =>
    (isInteger? value).bind fun cap => if h : 1 ≤ cap ∧ cap ≤ limit then some ⟨cap, h⟩ else none
  | _ => none

/-- The constructor; an error is the text of its `RangeError`. -/
def Caps.of (maxGlobal maxPerNode : Option Json) : Except String Caps :=
  let maxGlobal := maxGlobal.getD (.num DEFAULT_HUB_WS_GLOBAL_LIMIT)
  let maxPerNode := maxPerNode.getD (.num DEFAULT_HUB_WS_PER_NODE_LIMIT)
  match readCap 100000 maxGlobal, readCap 10000 maxPerNode with
  | none, _ => .error ("invalid maxGlobal limit: " ++ maxGlobal.toText ++
      "; expected integer between 1 and 100000")
  | some _, none => .error ("invalid maxPerNode limit: " ++ maxPerNode.toText ++
      "; expected integer between 1 and 10000")
  | some ⟨total, htotal⟩, some ⟨each, heach⟩ =>
    if h : each ≤ total then .ok ⟨total, each, htotal.1, htotal.2, heach.1, heach.2, h⟩
    else .error ("maxPerNode (" ++ maxPerNode.toText ++ ") cannot exceed maxGlobal (" ++
      maxGlobal.toText ++ ")")

example : (Caps.of none none).toOption.map Caps.maxPerNode = some 50 := by decide +kernel

/-! ### The tracker -/

inductive SocketEvent
  | close
  | error
  deriving DecidableEq, Repr

/-- What `track` is called with; sockets are told apart by numbers. -/
structure Connection where
  nodeId : String
  clientSocket : ℕ
  upstreamSocket : Option ℕ
  deriving DecidableEq, Repr

def Connection.sockets (connection : Connection) : Finset ℕ :=
  insert connection.clientSocket connection.upstreamSocket.toFinset

/-- A callback that `track` returned, with its variable `released`. -/
structure ReleaseCallback where
  connection : Connection
  released : Bool := false
  deriving DecidableEq, Repr

/-- A callback that waits, once, for an event of a socket. -/
structure Listener where
  socket : ℕ
  event : SocketEvent
  callback : ℕ
  deriving DecidableEq, Repr

def Listener.hears (x : Listener) (socket : ℕ) (event : SocketEvent) : Bool :=
  x.socket = socket ∧ x.event = event

/-- The fields of a tracker, the callbacks it has given out, the listeners it has left on sockets,
and the sockets it has destroyed. -/
structure HubWebSocketTracker where
  globalCount : ℤ := 0
  nodeCounts : JsMap String ℤ := ∅
  activeSockets : Finset ℕ := ∅
  callbacks : List ReleaseCallback := []
  listeners : List Listener := []
  destroyed : Finset ℕ := ∅

/-- What `canAccept` returns. -/
structure Acceptance where
  allowed : Bool
  reason : Option String := none
  deriving DecidableEq, Repr

namespace HubWebSocketTracker

/-- `this.nodeCounts.get(nodeId) || 0`. -/
def nodeCount (t : HubWebSocketTracker) (nodeId : String) : ℤ := (t.nodeCounts.lookup nodeId).getD 0

def canAccept (caps : Caps) (t : HubWebSocketTracker) (nodeId : String) : Acceptance :=
  if caps.maxGlobal ≤ t.globalCount then
    { allowed := false, reason := some "global-limit-exceeded" }
  else if caps.maxPerNode ≤ t.nodeCount nodeId then
    { allowed := false, reason := some "per-node-limit-exceeded" }
  else { allowed := true }

/-- The listeners of one call of `track`. -/
def listenersOf (connection : Connection) (callback : ℕ) : List Listener :=
  [⟨connection.clientSocket, .close, callback⟩, ⟨connection.clientSocket, .error, callback⟩] ++
    connection.upstreamSocket.toList.flatMap fun socket =>
      [⟨socket, .close, callback⟩, ⟨socket, .error, callback⟩]

def track (t : HubWebSocketTracker) (connection : Connection) : HubWebSocketTracker :=
  { t with
    globalCount := t.globalCount + 1
    nodeCounts := t.nodeCounts.insert connection.nodeId (t.nodeCount connection.nodeId + 1)
    activeSockets := t.activeSockets ∪ connection.sockets
    callbacks := t.callbacks ++ [{ connection := connection }]
    listeners := t.listeners ++ listenersOf connection t.callbacks.length }

/-- A callback is called. -/
def release (t : HubWebSocketTracker) (k : ℕ) : HubWebSocketTracker :=
  match t.callbacks[k]? with
  | none => t
  | some entry =>
    if entry.released then t
    else
      let nodeId := entry.connection.nodeId
      let cur := t.nodeCount nodeId
      { t with
        callbacks := t.callbacks.set k { entry with released := true }
        globalCount := max 0 (t.globalCount - 1)
        nodeCounts :=
          if cur ≤ 1 then t.nodeCounts.erase nodeId else t.nodeCounts.insert nodeId (cur - 1)
        activeSockets := t.activeSockets \ entry.connection.sockets }

/-- An event of a socket: the callbacks that wait for it are taken off and called in turn. -/
def emit (t : HubWebSocketTracker) (socket : ℕ) (event : SocketEvent) : HubWebSocketTracker :=
  let heard := t.listeners.filter fun x => x.hears socket event
  (heard.map Listener.callback).foldl release
    { t with listeners := t.listeners.filter fun x => !x.hears socket event }

/-- A destroyed socket reports its `close` later, as an event of its own. -/
def destroyAll (t : HubWebSocketTracker) : HubWebSocketTracker :=
  { t with
    destroyed := t.destroyed ∪ t.activeSockets
    activeSockets := ∅
    nodeCounts := ∅
    globalCount := 0 }

end HubWebSocketTracker

inductive TrackerCall
  | canAccept (nodeId : String)
  | track (connection : Connection)
  | release (callback : ℕ)
  | emit (socket : ℕ) (event : SocketEvent)
  | destroyAll
  deriving DecidableEq, Repr

namespace HubWebSocketTracker

def step (t : HubWebSocketTracker) : TrackerCall → HubWebSocketTracker
  | .canAccept _ => t
  | .track connection => t.track connection
  | .release k => t.release k
  | .emit socket event => t.emit socket event
  | .destroyAll => t.destroyAll

/-- The tracker after a run. -/
def run (calls : List TrackerCall) : HubWebSocketTracker := runFrom step {} calls

end HubWebSocketTracker

/-! ### Which sockets live -/

/-- What was tracked, by the number of its callback: all of it, what has not been released, and of
this what was tracked since the last `destroyAll`. -/
structure Ledger where
  tracked : List Connection := []
  unreleased : Finset ℕ := ∅
  live : Finset ℕ := ∅
  deriving DecidableEq

namespace Ledger

/-- The callbacks that a call or an event runs. -/
def called (l : Ledger) : TrackerCall → Finset ℕ
  | .release k => {k}
  | .emit socket _ =>
    (Finset.range l.tracked.length).filter fun k =>
      (l.tracked[k]?).any fun connection => socket ∈ connection.sockets
  | _ => ∅

def step (l : Ledger) : TrackerCall → Ledger
  | .track connection =>
    { tracked := l.tracked ++ [connection]
      unreleased := insert l.tracked.length l.unreleased
      live := insert l.tracked.length l.live }
  | .destroyAll => { l with live := ∅ }
  | call =>
    { l with
      unreleased := l.unreleased \ l.called call
      live := l.live \ l.called call }

/-- The ledger after a run. -/
def run (calls : List TrackerCall) : Ledger := runFrom step {} calls

def liveOf (l : Ledger) (nodeId : String) : Finset ℕ :=
  l.live.filter fun k => (l.tracked[k]?).any fun connection => connection.nodeId = nodeId

/-- What a call or an event releases now. -/
def releases (l : Ledger) (call : TrackerCall) : Finset ℕ := l.unreleased ∩ l.called call

/-- The step releases no socket that was tracked before the last `destroyAll`, or it leaves no
socket that was tracked since. -/
def Timely (l : Ledger) (call : TrackerCall) : Prop :=
  l.releases call ⊆ l.live ∨ l.live ⊆ l.releases call

instance (l : Ledger) (call : TrackerCall) : Decidable (l.Timely call) :=
  inferInstanceAs (Decidable (_ ∨ _))

end Ledger

/-- The counters and the refusals are those of the sockets in the ledger. -/
structure Accurate (caps : Caps) (t : HubWebSocketTracker) (l : Ledger) : Prop where
  total : t.globalCount = l.live.card
  perNode : ∀ nodeId, t.nodeCount nodeId = (l.liveOf nodeId).card
  refuses : ∀ nodeId, (t.canAccept caps nodeId).allowed = false ↔
    caps.maxGlobal ≤ l.live.card ∨ caps.maxPerNode ≤ (l.liveOf nodeId).card

/-! ### The counters -/

variable {t : HubWebSocketTracker} {l : Ledger} {k : ℕ} {calls : List TrackerCall}

/-- The counter of one node, or that of all nodes. -/
def HubWebSocketTracker.counter (t : HubWebSocketTracker) : Option String → ℤ
  | none => t.globalCount
  | some nodeId => t.nodeCount nodeId

namespace Ledger

/-- The callback belongs to what a counter counts. -/
def InScope (l : Ledger) : Option String → ℕ → Prop
  | none, _ => True
  | some nodeId, k => (l.tracked[k]?).any fun connection => connection.nodeId = nodeId

instance (l : Ledger) : (scope : Option String) → DecidablePred (l.InScope scope)
  | none => fun _ => inferInstanceAs (Decidable True)
  | some nodeId => fun k =>
    inferInstanceAs (Decidable ((l.tracked[k]?).any (fun c => c.nodeId = nodeId) = true))

def within (l : Ledger) (scope : Option String) (ks : Finset ℕ) : Finset ℕ :=
  ks.filter (l.InScope scope)

theorem within_none (l : Ledger) (ks : Finset ℕ) : l.within none ks = ks :=
  Finset.filter_true_of_mem fun _ _ => trivial

theorem within_subset (scope : Option String) {ks ks' : Finset ℕ} (h : ks ⊆ ks') :
    l.within scope ks ⊆ l.within scope ks' := Finset.filter_subset_filter _ h

theorem within_sdiff (scope : Option String) (ks ks' : Finset ℕ) :
    l.within scope (ks \ ks') = l.within scope ks \ l.within scope ks' := by
  ext k
  simp only [within, Finset.mem_filter, Finset.mem_sdiff]
  tauto

theorem within_empty (scope : Option String) : l.within scope ∅ = ∅ := Finset.filter_empty _

/-- The callbacks are called. -/
def close (l : Ledger) (ks : Finset ℕ) : Ledger :=
  { l with unreleased := l.unreleased \ ks, live := l.live \ ks }

@[simp]
theorem tracked_close (l : Ledger) (ks : Finset ℕ) : (l.close ks).tracked = l.tracked := rfl

@[simp]
theorem unreleased_close (l : Ledger) (ks : Finset ℕ) :
    (l.close ks).unreleased = l.unreleased \ ks := rfl

@[simp]
theorem live_close (l : Ledger) (ks : Finset ℕ) : (l.close ks).live = l.live \ ks := rfl

theorem within_close (l : Ledger) (scope : Option String) (ks ks' : Finset ℕ) :
    (l.close ks).within scope ks' = l.within scope ks' := by
  apply Finset.filter_congr
  intro k _
  cases scope <;> rfl

theorem close_empty (l : Ledger) : l.close ∅ = l := by
  rw [close, Finset.sdiff_empty, Finset.sdiff_empty]

theorem close_close (l : Ledger) (ks ks' : Finset ℕ) :
    (l.close ks).close ks' = l.close (ks ∪ ks') := by
  rw [close, unreleased_close, live_close, sdiff_sdiff_left, sdiff_sdiff_left]
  rfl

end Ledger

namespace HubWebSocketTracker

theorem counter_track (t : HubWebSocketTracker) (connection : Connection)
    (scope : Option String) :
    (t.track connection).counter scope =
      t.counter scope + if scope.all (connection.nodeId = ·) then 1 else 0 := by
  cases scope with
  | none => rfl
  | some nodeId =>
    rw [counter, nodeCount, track, JsMap.lookup_insert_eq]
    by_cases h : nodeId = connection.nodeId
    · subst h
      simp [counter]
    · simp [counter, nodeCount, h, Ne.symm h]

end HubWebSocketTracker

/-- The callbacks stand in the ledger as they stand in the tracker. -/
structure Linked (t : HubWebSocketTracker) (l : Ledger) : Prop where
  callbacks : ∀ k, t.callbacks[k]? = (l.tracked[k]?).map fun connection =>
    ReleaseCallback.mk connection (decide (k ∉ l.unreleased))
  known : ∀ k ∈ l.unreleased, k < l.tracked.length
  live : l.live ⊆ l.unreleased

theorem Linked.connection (h : Linked t l) (hk : k ∈ l.unreleased) :
    ∃ connection, l.tracked[k]? = some connection :=
  ⟨_, List.getElem?_eq_getElem (h.known k hk)⟩

namespace HubWebSocketTracker

/-- A callback that has been called, or was never given out, does nothing. -/
theorem release_of_notMem (h : Linked t l) (hk : k ∉ l.unreleased) : t.release k = t := by
  rw [release, h.callbacks]
  cases l.tracked[k]? with
  | none => rfl
  | some connection => simp [hk]

theorem counter_release (h : Linked t l) (hk : k ∈ l.unreleased) (scope : Option String) :
    (t.release k).counter scope =
      if l.InScope scope k then max 0 (t.counter scope - 1) else t.counter scope := by
  obtain ⟨connection, hconnection⟩ := h.connection hk
  rw [release, h.callbacks, hconnection]
  simp only [Option.map_some, hk, not_true_eq_false, decide_false, Bool.false_eq_true, if_false]
  cases scope with
  | none => exact (if_pos trivial).symm
  | some nodeId =>
    have hscope : l.InScope (some nodeId) k ↔ connection.nodeId = nodeId := by
      rw [Ledger.InScope, hconnection]
      exact decide_eq_true_iff
    rw [counter, counter]
    change ((if t.nodeCount connection.nodeId ≤ 1 then t.nodeCounts.erase connection.nodeId
      else t.nodeCounts.insert connection.nodeId (t.nodeCount connection.nodeId - 1)).lookup
        nodeId).getD 0 = _
    by_cases hsame : nodeId = connection.nodeId
    · subst hsame
      rw [if_pos (hscope.mpr rfl)]
      split_ifs with hlast
      · rw [AList.lookup_erase, Option.getD_none]
        exact (max_eq_left (by omega)).symm
      · rw [AList.lookup_insert, Option.getD_some]
        exact (max_eq_right (by omega)).symm
    · rw [if_neg (hscope.not.mpr (Ne.symm hsame))]
      split_ifs with hlast
      · rw [AList.lookup_erase_ne hsame, nodeCount]
      · rw [AList.lookup_insert_ne hsame, nodeCount]

end HubWebSocketTracker

theorem Linked.release (h : Linked t l) (k : ℕ) : Linked (t.release k) (l.close {k}) := by
  by_cases hk : k ∈ l.unreleased
  · obtain ⟨connection, hconnection⟩ := h.connection hk
    have hlength : k < t.callbacks.length := by
      have hcallback := h.callbacks k
      rw [hconnection] at hcallback
      exact (List.getElem?_eq_some_iff.mp hcallback).1
    refine ⟨?_, ?_, ?_⟩
    · intro k'
      rw [HubWebSocketTracker.release, h.callbacks, hconnection]
      simp only [Option.map_some, hk, not_true_eq_false, decide_false, Bool.false_eq_true,
        if_false]
      rw [List.getElem?_set]
      by_cases hsame : k = k'
      · subst hsame
        rw [if_pos rfl, if_pos hlength, Ledger.tracked_close, hconnection]
        simp
      · rw [if_neg hsame, h.callbacks]
        simp [Ne.symm hsame]
    · intro k' hk'
      exact h.known k' (Finset.sdiff_subset hk')
    · exact Finset.sdiff_subset_sdiff h.live Finset.Subset.rfl
  · have hlive : k ∉ l.live := fun hin => hk (h.live hin)
    rw [HubWebSocketTracker.release_of_notMem h hk, Ledger.close,
      Finset.sdiff_eq_self_of_disjoint (Finset.disjoint_singleton_right.mpr hk),
      Finset.sdiff_eq_self_of_disjoint (Finset.disjoint_singleton_right.mpr hlive)]
    exact h

theorem Linked.releaseAll (h : Linked t l) (ks : List ℕ) :
    Linked (ks.foldl HubWebSocketTracker.release t) (l.close ks.toFinset) := by
  induction ks generalizing t l with
  | nil => rw [List.toFinset_nil, Ledger.close_empty]; exact h
  | cons k rest ih =>
    have hrest := ih (h.release k)
    rw [Ledger.close_close] at hrest
    rw [List.toFinset_cons, Finset.insert_eq]
    exact hrest

namespace HubWebSocketTracker

/-- The counters after some callbacks are called in turn. -/
theorem counter_releaseAll (h : Linked t l) {scope : Option String} (ks : List ℕ)
    (hnonneg : 0 ≤ t.counter scope) :
    (ks.foldl release t).counter scope =
      max 0 (t.counter scope - (l.within scope (l.unreleased ∩ ks.toFinset)).card) := by
  induction ks generalizing t l with
  | nil =>
    rw [List.toFinset_nil, Finset.inter_empty, Ledger.within_empty]
    simpa using hnonneg
  | cons k rest ih =>
    rw [List.foldl_cons, List.toFinset_cons]
    by_cases hk : k ∈ l.unreleased
    · have hcounter := counter_release h hk scope
      have hnonneg' : 0 ≤ (t.release k).counter scope := by
        rw [hcounter]
        split_ifs
        · exact le_max_left ..
        · exact hnonneg
      -- the first call releases `k`, the others what is left of the rest
      have hsplit : l.unreleased ∩ insert k rest.toFinset =
          insert k ((l.unreleased \ {k}) ∩ rest.toFinset) := by
        ext k'
        by_cases hsame : k' = k
        · subst hsame
          simp [hk]
        · simp [hsame]
      have hnew : k ∉ (l.unreleased \ {k}) ∩ rest.toFinset := by simp
      rw [ih (h.release k) hnonneg', Ledger.within_close, Ledger.unreleased_close, hcounter, hsplit,
        Ledger.within, Ledger.within, Finset.filter_insert]
      by_cases hscope : l.InScope scope k
      · rw [if_pos hscope, if_pos hscope,
          Finset.card_insert_of_notMem fun hin => hnew (Finset.mem_of_mem_filter k hin)]
        push_cast
        omega
      · rw [if_neg hscope, if_neg hscope]
    · rw [release_of_notMem h hk, Finset.inter_insert_of_notMem hk]
      exact ih h hnonneg

end HubWebSocketTracker

/-! ### The listeners -/

/-- The sockets of what is not released are listened to, and the callbacks that wait are those of
their sockets. -/
structure Wired (t : HubWebSocketTracker) (l : Ledger) : Prop where
  listened : ∀ k ∈ l.unreleased, ∀ connection, l.tracked[k]? = some connection →
    ∀ socket ∈ connection.sockets, ∀ event, ⟨socket, event, k⟩ ∈ t.listeners
  waiting : ∀ x ∈ t.listeners, ∃ connection,
    l.tracked[x.callback]? = some connection ∧ x.socket ∈ connection.sockets

namespace HubWebSocketTracker

theorem mem_listenersOf {connection : Connection} {x : Listener} :
    x ∈ listenersOf connection k ↔ x.callback = k ∧ x.socket ∈ connection.sockets := by
  obtain ⟨socket, event, callback⟩ := x
  cases hupstream : connection.upstreamSocket with
  | none =>
    cases event <;> simp [listenersOf, Connection.sockets, hupstream, and_comm]
  | some upstream =>
    cases event <;> simp [listenersOf, Connection.sockets, hupstream] <;> tauto

theorem listeners_release (t : HubWebSocketTracker) (k : ℕ) :
    (t.release k).listeners = t.listeners := by
  rw [release]
  split
  · rfl
  · split_ifs <;> rfl

theorem listeners_releaseAll (t : HubWebSocketTracker) (ks : List ℕ) :
    (ks.foldl release t).listeners = t.listeners := by
  induction ks generalizing t with
  | nil => rfl
  | cons k rest ih => exact (ih (t.release k)).trans (listeners_release t k)

/-- The callbacks that wait for an event of a socket. -/
def heard (t : HubWebSocketTracker) (socket : ℕ) (event : SocketEvent) : List ℕ :=
  (t.listeners.filter fun x => x.hears socket event).map Listener.callback

/-- The tracker after the listeners of an event are taken off. -/
def unhook (t : HubWebSocketTracker) (socket : ℕ) (event : SocketEvent) : HubWebSocketTracker :=
  { t with listeners := t.listeners.filter fun x => !x.hears socket event }

theorem emit_eq (t : HubWebSocketTracker) (socket : ℕ) (event : SocketEvent) :
    t.emit socket event = (t.heard socket event).foldl release (t.unhook socket event) := rfl

end HubWebSocketTracker

theorem Linked.unhook (h : Linked t l) (socket : ℕ) (event : SocketEvent) :
    Linked (t.unhook socket event) l := ⟨h.callbacks, h.known, h.live⟩

theorem Ledger.mem_called_emit {socket : ℕ} {event : SocketEvent} :
    k ∈ l.called (.emit socket event) ↔
      ∃ connection, l.tracked[k]? = some connection ∧ socket ∈ connection.sockets := by
  rw [called, Finset.mem_filter, Finset.mem_range, Option.any_eq_true]
  constructor
  · rintro ⟨-, connection, hconnection, hsocket⟩
    exact ⟨connection, hconnection, of_decide_eq_true hsocket⟩
  · rintro ⟨connection, hconnection, hsocket⟩
    exact ⟨(List.getElem?_eq_some_iff.mp hconnection).1, connection, hconnection,
      decide_eq_true hsocket⟩

/-- An event runs, of what is not released, the callbacks of its socket. -/
theorem Wired.inter_heard (h : Wired t l) (socket : ℕ) (event : SocketEvent) :
    l.unreleased ∩ (t.heard socket event).toFinset = l.releases (.emit socket event) := by
  ext k
  rw [Ledger.releases, Finset.mem_inter, Finset.mem_inter, List.mem_toFinset,
    Ledger.mem_called_emit]
  apply and_congr_right
  intro hk
  rw [HubWebSocketTracker.heard, List.mem_map]
  constructor
  · rintro ⟨x, hx, rfl⟩
    rw [List.mem_filter, Listener.hears, decide_eq_true_iff] at hx
    obtain ⟨hin, rfl, -⟩ := hx
    exact h.waiting x hin
  · rintro ⟨connection, hconnection, hsocket⟩
    refine ⟨⟨socket, event, k⟩, ?_, rfl⟩
    rw [List.mem_filter]
    exact ⟨h.listened k hk connection hconnection socket hsocket event, decide_eq_true ⟨rfl, rfl⟩⟩

theorem Ledger.close_congr (hlive : l.live ⊆ l.unreleased) {ks ks' : Finset ℕ}
    (h : l.unreleased ∩ ks = l.unreleased ∩ ks') : l.close ks = l.close ks' := by
  have hunreleased : l.unreleased \ ks = l.unreleased \ ks' := by
    rw [← Finset.sdiff_inter_self_left, h, Finset.sdiff_inter_self_left]
  have hsame : l.live \ ks = l.live \ ks' := by
    rw [← Finset.inter_eq_right.mpr hlive, Finset.inter_comm, Finset.inter_sdiff_assoc, hunreleased,
      ← Finset.inter_sdiff_assoc]
  rw [close, hunreleased, hsame]
  rfl

/-! ### Every step -/

namespace Ledger

theorem inScope_append {scope : Option String} (hk : k < l.tracked.length)
    (connection : Connection) :
    (l.step (.track connection)).InScope scope k ↔ l.InScope scope k := by
  cases scope with
  | none => rfl
  | some nodeId => rw [InScope, InScope, step, List.getElem?_append_left hk]

theorem inScope_new {scope : Option String} {connection : Connection} :
    (l.step (.track connection)).InScope scope l.tracked.length ↔
      scope.all (connection.nodeId = ·) := by
  cases scope with
  | none => exact iff_of_true trivial rfl
  | some nodeId =>
    rw [InScope, step, List.getElem?_append_right le_rfl, Nat.sub_self]
    rfl

end Ledger

/-- A call or an event that runs callbacks. -/
def TrackerCall.Closes : TrackerCall → Prop
  | .release _ | .emit _ _ | .canAccept _ => True
  | .track _ | .destroyAll => False

theorem Ledger.step_of_closes {call : TrackerCall} (h : call.Closes) :
    l.step call = l.close (l.called call) := by
  cases call with
  | canAccept nodeId => rfl
  | release k => rfl
  | emit socket event => rfl
  | track connection => exact h.elim
  | destroyAll => exact h.elim

theorem Ledger.timely_of_not_closes {call : TrackerCall} (h : ¬call.Closes) : l.Timely call := by
  left
  have hcalled : l.called call = ∅ := by
    cases call with
    | track connection => rfl
    | destroyAll => rfl
    | _ => exact (h trivial).elim
  rw [releases, hcalled, Finset.inter_empty]
  exact Finset.empty_subset _

/-- A call or an event runs callbacks, of which those count that are not released. -/
theorem step_of_closes (hlinked : Linked t l) (hwired : Wired t l) {call : TrackerCall}
    (h : call.Closes) :
    ∃ (ks : List ℕ) (t' : HubWebSocketTracker),
      t.step call = ks.foldl HubWebSocketTracker.release t' ∧
      Linked t' l ∧ t'.counter = t.counter ∧ l.unreleased ∩ ks.toFinset = l.releases call := by
  cases call with
  | canAccept nodeId => exact ⟨[], t, rfl, hlinked, rfl, rfl⟩
  | release k =>
    refine ⟨[k], t, rfl, hlinked, rfl, ?_⟩
    rw [Ledger.releases, List.toFinset_cons]
    rfl
  | emit socket event =>
    refine ⟨t.heard socket event, t.unhook socket event, rfl, hlinked.unhook socket event, ?_,
      hwired.inter_heard socket event⟩
    funext scope
    cases scope <;> rfl
  | track connection => exact h.elim
  | destroyAll => exact h.elim

theorem Linked.length_callbacks (h : Linked t l) : t.callbacks.length = l.tracked.length := by
  apply eq_of_forall_ge_iff
  intro k
  rw [← List.getElem?_eq_none_iff, ← List.getElem?_eq_none_iff, h.callbacks, Option.map_eq_none_iff]

theorem Linked.track (h : Linked t l) (connection : Connection) :
    Linked (t.track connection) (l.step (.track connection)) := by
  have hnew : l.tracked.length ∉ l.unreleased := fun hin => (h.known _ hin).false
  refine ⟨?_, ?_, Finset.insert_subset_insert _ h.live⟩
  · intro k
    rw [HubWebSocketTracker.track, Ledger.step, List.getElem?_append, List.getElem?_append,
      h.length_callbacks, h.callbacks]
    by_cases hk : k < l.tracked.length
    · rw [if_pos hk, if_pos hk]
      simp [hk.ne]
    · rw [if_neg hk, if_neg hk]
      by_cases hlast : k = l.tracked.length
      · subst hlast
        simp
      · have hafter : 1 ≤ k - l.tracked.length := by omega
        rw [List.getElem?_eq_none hafter, List.getElem?_eq_none hafter]
        rfl
  · intro k hk
    rw [Ledger.step, List.length_append, List.length_singleton, Nat.lt_succ_iff]
    cases Finset.mem_insert.mp hk with
    | inl hlast => exact hlast.le
    | inr hin => exact (h.known k hin).le

theorem Linked.step (h : Linked t l) (hwired : Wired t l) (call : TrackerCall) :
    Linked (t.step call) (l.step call) := by
  by_cases hcloses : call.Closes
  · obtain ⟨ks, t', hstep, hlinked, -, hks⟩ := step_of_closes h hwired hcloses
    rw [hstep, Ledger.step_of_closes hcloses, ← Ledger.close_congr h.live hks]
    exact hlinked.releaseAll ks
  cases call with
  | canAccept nodeId => exact (hcloses trivial).elim
  | release k => exact (hcloses trivial).elim
  | emit socket event => exact (hcloses trivial).elim
  | track connection => exact h.track connection
  | destroyAll => exact ⟨h.callbacks, h.known, Finset.empty_subset _⟩

theorem Wired.track (h : Wired t l) (hlinked : Linked t l) (connection : Connection) :
    Wired (t.track connection) (l.step (.track connection)) := by
  constructor
  · intro k hk connection' hconnection' socket hsocket event
    rw [HubWebSocketTracker.track]
    refine List.mem_append.mpr ?_
    cases Finset.mem_insert.mp hk with
    | inl hlast =>
      subst hlast
      rw [Ledger.step, List.getElem?_concat_length] at hconnection'
      obtain rfl := Option.some.inj hconnection'
      right
      rw [hlinked.length_callbacks]
      exact HubWebSocketTracker.mem_listenersOf.mpr ⟨rfl, hsocket⟩
    | inr hin =>
      rw [Ledger.step, List.getElem?_append_left (hlinked.known k hin)] at hconnection'
      exact .inl (h.listened k hin connection' hconnection' socket hsocket event)
  · intro x hx
    rw [HubWebSocketTracker.track, List.mem_append] at hx
    cases hx with
    | inl hin =>
      obtain ⟨connection', hconnection', hsocket⟩ := h.waiting x hin
      refine ⟨connection', ?_, hsocket⟩
      rw [Ledger.step, List.getElem?_append_left (List.getElem?_eq_some_iff.mp hconnection').1]
      exact hconnection'
    | inr hnew =>
      obtain ⟨hcallback, hsocket⟩ := HubWebSocketTracker.mem_listenersOf.mp hnew
      refine ⟨connection, ?_, hsocket⟩
      rw [hcallback, hlinked.length_callbacks, Ledger.step, List.getElem?_concat_length]

theorem Wired.step (h : Wired t l) (hlinked : Linked t l) (call : TrackerCall) :
    Wired (t.step call) (l.step call) := by
  cases call with
  | canAccept nodeId =>
    exact ⟨fun k hk => h.listened k (Finset.sdiff_subset hk), h.waiting⟩
  | release k =>
    refine ⟨fun k' hk' connection hconnection socket hsocket event => ?_, fun x hx => ?_⟩
    · rw [HubWebSocketTracker.step, HubWebSocketTracker.listeners_release]
      exact h.listened k' (Finset.sdiff_subset hk') connection hconnection socket hsocket event
    · rw [HubWebSocketTracker.step, HubWebSocketTracker.listeners_release] at hx
      exact h.waiting x hx
  | emit socket event =>
    have hlisteners : (t.emit socket event).listeners = (t.unhook socket event).listeners :=
      HubWebSocketTracker.listeners_releaseAll _ _
    constructor
    · intro k hk connection hconnection socket' hsocket' event'
      obtain ⟨hin, hother⟩ := Finset.mem_sdiff.mp hk
      -- what is left is not of this socket, so none of its listeners is taken off
      have hne : socket' ≠ socket := by
        rintro rfl
        exact hother (Ledger.mem_called_emit.mpr ⟨connection, hconnection, hsocket'⟩)
      rw [HubWebSocketTracker.step, hlisteners, HubWebSocketTracker.unhook, List.mem_filter]
      exact ⟨h.listened k hin connection hconnection socket' hsocket' event',
        by simp [Listener.hears, hne]⟩
    · intro x hx
      rw [HubWebSocketTracker.step, hlisteners] at hx
      exact h.waiting x (List.mem_of_mem_filter hx)
  | track connection => exact h.track hlinked connection
  | destroyAll => exact ⟨h.listened, h.waiting⟩

/-! ### Counters and ledger -/

/-- The counters are those of the sockets that live. -/
def Counts (t : HubWebSocketTracker) (l : Ledger) : Prop :=
  ∀ scope, t.counter scope = (l.within scope l.live).card

theorem Counts.accurate (h : Counts t l) (caps : Caps) : Accurate caps t l where
  total := (h none).trans (by rw [l.within_none])
  perNode nodeId := h (some nodeId)
  refuses nodeId := by
    have htotal : t.globalCount = l.live.card := (h none).trans (by rw [l.within_none])
    have hnode : t.nodeCount nodeId = (l.liveOf nodeId).card := h (some nodeId)
    rw [HubWebSocketTracker.canAccept, htotal, hnode]
    split_ifs with hglobal heach
    · exact iff_of_true rfl (.inl hglobal)
    · exact iff_of_true rfl (.inr heach)
    · exact iff_of_false nofun (not_or.mpr ⟨hglobal, heach⟩)

theorem Accurate.counts {caps : Caps} (h : Accurate caps t l) : Counts t l := by
  intro scope
  cases scope with
  | none => exact h.total.trans (by rw [l.within_none])
  | some nodeId => exact h.perNode nodeId

/-- What callbacks leave counted is what they leave alive. -/
theorem close_counts_iff {called : Finset ℕ} (hlive : l.live ⊆ l.unreleased) :
    (∀ scope, max 0 (((l.within scope l.live).card : ℤ) -
        (l.within scope (l.unreleased ∩ called)).card) =
      ((l.close called).within scope (l.live \ called)).card) ↔
      l.unreleased ∩ called ⊆ l.live ∨ l.live ⊆ l.unreleased ∩ called := by
  have hleft : l.live \ called = l.live \ (l.unreleased ∩ called) := by
    ext k
    simp only [Finset.mem_sdiff, Finset.mem_inter, not_and]
    exact and_congr_right fun hk => ⟨fun hnot _ => hnot, fun hnot => hnot (hlive hk)⟩
  constructor
  · intro h
    have hall := h none
    rw [Ledger.within_close, Ledger.within_none, Ledger.within_none, Ledger.within_none,
      hleft] at hall
    by_cases hrest : l.live ⊆ l.unreleased ∩ called
    · exact .inr hrest
    · left
      have hsome : 0 < (l.live \ (l.unreleased ∩ called)).card :=
        Finset.card_pos.mpr (Finset.sdiff_nonempty.mpr hrest)
      have hparts := Finset.card_sdiff_add_card_inter l.live (l.unreleased ∩ called)
      have hcard : (l.unreleased ∩ called).card ≤ (l.live ∩ (l.unreleased ∩ called)).card := by
        omega
      have heq := Finset.eq_of_subset_of_card_le Finset.inter_subset_right hcard
      exact Finset.inter_eq_right.mp heq
  · intro h scope
    rw [Ledger.within_close, hleft]
    cases h with
    | inl hbefore =>
      have hparts : (l.within scope (l.live \ (l.unreleased ∩ called))).card +
          (l.within scope (l.unreleased ∩ called)).card = (l.within scope l.live).card := by
        rw [Ledger.within_sdiff]
        exact Finset.card_sdiff_add_card_eq_card (l.within_subset scope hbefore)
      omega
    | inr hafter =>
      have hle := Finset.card_le_card (l.within_subset scope hafter)
      rw [Finset.sdiff_eq_empty_iff_subset.mpr hafter, Ledger.within_empty, Finset.card_empty]
      omega

/-- One step keeps the counters accurate exactly when it is timely. -/
theorem counts_iff (hcounts : Counts t l) (hlinked : Linked t l) (hwired : Wired t l)
    (call : TrackerCall) : Counts (t.step call) (l.step call) ↔ l.Timely call := by
  by_cases hcloses : call.Closes
  · obtain ⟨ks, t', hstep, hlinked', hcounter, hks⟩ := step_of_closes hlinked hwired hcloses
    rw [Ledger.Timely, Ledger.releases, ← close_counts_iff hlinked.live]
    apply forall_congr'
    intro scope
    have hnonneg : 0 ≤ t'.counter scope := by
      rw [hcounter, hcounts scope]
      exact Int.natCast_nonneg _
    rw [hstep, HubWebSocketTracker.counter_releaseAll hlinked' ks hnonneg, hcounter, hks,
      hcounts scope, Ledger.step_of_closes hcloses]
    rfl
  cases call with
  | canAccept nodeId => exact (hcloses trivial).elim
  | release k => exact (hcloses trivial).elim
  | emit socket event => exact (hcloses trivial).elim
  | track connection =>
    refine iff_of_true ?_ (Ledger.timely_of_not_closes hcloses)
    intro scope
    have hnew : l.tracked.length ∉ l.live := fun hin => (hlinked.known _ (hlinked.live hin)).false
    have hrest : (l.step (.track connection)).within scope l.live = l.within scope l.live := by
      apply Finset.filter_congr
      intro k hk
      exact Ledger.inScope_append (hlinked.known k (hlinked.live hk)) connection
    have hlive : (l.step (.track connection)).live = insert l.tracked.length l.live := rfl
    rw [HubWebSocketTracker.step, HubWebSocketTracker.counter_track, hcounts scope, ← hrest, hlive,
      Ledger.within, Ledger.within, Finset.filter_insert]
    by_cases hscope : (l.step (.track connection)).InScope scope l.tracked.length
    · rw [if_pos hscope, if_pos (Ledger.inScope_new.mp hscope),
        Finset.card_insert_of_notMem fun hin => hnew (Finset.mem_of_mem_filter _ hin)]
      push_cast
      rfl
    · rw [if_neg hscope, if_neg (Ledger.inScope_new.not.mp hscope), add_zero]
  | destroyAll =>
    refine iff_of_true ?_ (Ledger.timely_of_not_closes hcloses)
    intro scope
    cases scope <;> rfl

theorem linked_initial : Linked {} {} where
  callbacks k := by simp
  known := nofun
  live := Finset.Subset.rfl

theorem wired_initial : Wired {} {} := ⟨nofun, nofun⟩

theorem counts_initial : Counts {} {} := by
  intro scope
  cases scope <;> rfl

/-! ### Runs -/

namespace HubWebSocketTracker

theorem counter_release_nonneg (h : ∀ scope, 0 ≤ t.counter scope) (k : ℕ)
    (scope : Option String) : 0 ≤ (t.release k).counter scope := by
  rw [release]
  split
  · exact h scope
  · next entry _ =>
    split_ifs with hreleased
    · exact h scope
    · cases scope with
      | none => exact le_max_left ..
      | some nodeId =>
        have hnode := h (some nodeId)
        rw [counter, nodeCount] at hnode ⊢
        dsimp only
        split_ifs with hlast
        · rw [JsMap.lookup_erase_eq]
          split_ifs
          · exact le_rfl
          · exact hnode
        · rw [JsMap.lookup_insert_eq]
          split_ifs
          · exact Int.sub_nonneg.mpr (by omega)
          · exact hnode

theorem counter_step_nonneg (h : ∀ scope, 0 ≤ t.counter scope) (call : TrackerCall)
    (scope : Option String) : 0 ≤ (t.step call).counter scope := by
  cases call with
  | canAccept nodeId => exact h scope
  | track connection =>
    have hbefore := h scope
    rw [step, counter_track]
    split_ifs <;> omega
  | release k => exact counter_release_nonneg h k scope
  | emit socket event =>
    rw [step, emit_eq]
    have hbefore : ∀ scope, 0 ≤ (t.unhook socket event).counter scope := by
      intro scope
      cases scope with
      | none => exact h none
      | some nodeId => exact h (some nodeId)
    generalize t.unhook socket event = t' at hbefore ⊢
    induction t.heard socket event generalizing t' with
    | nil => exact hbefore scope
    | cons k rest ih => exact ih (t'.release k) (counter_release_nonneg hbefore k)
  | destroyAll => cases scope <;> exact le_rfl

/-- No counter is ever negative. -/
theorem run_nonneg (calls : List TrackerCall) (scope : Option String) :
    0 ≤ (run calls).counter scope := by
  have hinitial : ∀ scope, 0 ≤ counter {} scope := by
    intro scope
    cases scope <;> exact le_rfl
  have hrun := runFrom_invariant (I := fun t => ∀ scope, 0 ≤ counter t scope)
    (fun _ call h _ => counter_step_nonneg h call) hinitial (eachStep_true calls)
  exact hrun scope

end HubWebSocketTracker

/-- The counters stay those of the sockets that live as long as every step is timely. -/
theorem counts_run_iff (hcounts : Counts t l) (hlinked : Linked t l) (hwired : Wired t l) :
    (∀ reached, reached <+: calls →
      Counts (runFrom HubWebSocketTracker.step t reached) (runFrom Ledger.step l reached)) ↔
      EachStep Ledger.step Ledger.Timely l calls := by
  induction calls generalizing t l with
  | nil =>
    refine iff_of_true ?_ trivial
    intro reached hreached
    rw [List.prefix_nil.mp hreached]
    exact hcounts
  | cons call rest ih =>
    have hstep := counts_iff hcounts hlinked hwired call
    constructor
    · intro h
      have hnext : Counts (t.step call) (l.step call) := h [call] ⟨rest, rfl⟩
      refine ⟨hstep.mp hnext, ?_⟩
      apply (ih hnext (hlinked.step hwired call) (hwired.step hlinked call)).mp
      intro reached hreached
      exact h (call :: reached) (List.cons_prefix_cons.mpr ⟨rfl, hreached⟩)
    · rintro ⟨htimely, hrest⟩ reached hreached
      cases reached with
      | nil => exact hcounts
      | cons first tail =>
        obtain ⟨rfl, htail⟩ := List.cons_prefix_cons.mp hreached
        have hnext := hstep.mpr htimely
        exact (ih hnext (hlinked.step hwired _) (hwired.step hlinked _)).mpr hrest tail htail

/-- In a run, the counters are never negative, and they and the refusals are those of the sockets
that live as long as no step releases a socket of before the last `destroyAll` while others live. -/
theorem accurate_iff (caps : Caps) (calls : List TrackerCall) :
    (∀ reached, reached <+: calls → 0 ≤ (HubWebSocketTracker.run reached).globalCount ∧
      ∀ nodeId, 0 ≤ (HubWebSocketTracker.run reached).nodeCount nodeId) ∧
    ((∀ reached, reached <+: calls →
      Accurate caps (HubWebSocketTracker.run reached) (Ledger.run reached)) ↔
      EachStep Ledger.step Ledger.Timely {} calls) := by
  constructor
  · intro reached _
    exact ⟨HubWebSocketTracker.run_nonneg reached none,
      fun nodeId => HubWebSocketTracker.run_nonneg reached (some nodeId)⟩
  · rw [← counts_run_iff counts_initial linked_initial wired_initial]
    constructor
    · intro h reached hreached
      exact (h reached hreached).counts
    · intro h reached hreached
      exact (h reached hreached).accurate caps

/-- A socket that closes after `destroyAll` is taken off the one that was tracked since. -/
theorem late_close_frees_slot :
    ¬ ∀ (caps : Caps) (calls : List TrackerCall),
      Accurate caps (HubWebSocketTracker.run calls) (Ledger.run calls) := by
  intro h
  have haccurate := h ⟨1, 1, by decide, by decide, by decide, by decide, by decide⟩
    [.track ⟨"node", 0, none⟩, .destroyAll, .track ⟨"node", 1, none⟩, .emit 0 .close]
  exact absurd haccurate.total (by decide)

end DshOrbit.RouteProxy
