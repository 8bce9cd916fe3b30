import DshOrbit.Fleet.Scheduler
import DshOrbit.Lib.JsMap
import Mathlib.Data.Finset.Card

/-!
# The flow tracker

`MultiNodeFlowTracker` (`registry/flow-tracker.mjs`) counts the browser flows of each node. It
keeps a node for each flow and the flows of each node, and gives out for each flow a callback that
ends it. A callback knows its flow by the id alone.

## Main definitions

- `Tracker.trackFlow`, `Tracker.endFlow`, `Tracker.callback`, `Tracker.clear` — the operations
- `Tracked` — both maps describe the same flows, within the caps
- `Live` — the flow of a callback is still tracked
- `Overdue` — a callback that has not been called, of a flow whose id is in use again

## Main results

- `step_tracked` — every operation keeps the maps in step and below their caps
- `Tracked.endsOwn_iff` — when a callback leaves the other flows
- `accounts_iff` — the same over whole runs
-/

namespace DshOrbit.FlowTracker

open DshOrbit.Lib DshOrbit.Protocol

/-! ### Targets -/

/-- An error with a code and an HTTP status. -/
structure FlowError where
  code : String
  statusCode : ℕ
  message : String
  deriving DecidableEq, Repr

/-- A text that names several nodes. -/
def isWildcardScope (trimmed : String) : Bool :=
  let lower := toLowerCase trimmed
  lower = "*" ∨ lower = "all" ∨ lower = "any" ∨ lower = "broadcast" ∨ lower = "cluster" ∨
    trimmed.toList.contains ',' ∨ trimmed.toList.contains ' ' ∨ trimmed.toList.contains ';'

/-- `assertValidTargetScope`; `none` stands for `undefined`. -/
def assertValidTargetScope (targetNodeId : Option Json) : Except FlowError String :=
  let bad (message : String) : Except FlowError String :=
    .error ⟨"invalid-target-scope", 400, message⟩
  match targetNodeId with
  | none | some .null => bad "targetNodeId is required"
  | some (.str text) =>
    let trimmed := trim text
    if trimmed = "" then bad "targetNodeId must not be empty"
    else if isWildcardScope trimmed then
      bad "wildcard or broadcast target scope is denied; target must specify exactly one node"
    else
      let normalized := if "node_".toList.isPrefixOf trimmed.toList then trimmed
        else "node_" ++ trimmed
      if isNodeId normalized then .ok normalized
      else bad ("targetNodeId must be a valid 32-hex lowercase node ID: " ++ quoteJson text)
  | some _ => bad "targetNodeId must be a single string; arrays and multi-targets are denied"

/-- The same check as the one of fleet jobs. -/
theorem toOption_assertValidTargetScope (targetNodeId : Json) :
    (assertValidTargetScope (some targetNodeId)).toOption =
      Fleet.validateTargetScope targetNodeId := by
  cases targetNodeId with
  | str text =>
    simp only [assertValidTargetScope, Fleet.validateTargetScope, isWildcardScope,
      decide_eq_true_eq]
    split_ifs <;> rfl
  | _ => rfl

theorem assertValidTargetScope_ne_empty {targetNodeId : Option Json} {nodeId : String}
    (h : assertValidTargetScope targetNodeId = .ok nodeId) : nodeId ≠ "" := by
  have hvalid : isNodeId nodeId = true := by
    unfold assertValidTargetScope at h
    split at h
    · cases h
    · cases h
    · dsimp only at h
      split_ifs at h with _ _ hprefixed hnode hnode
      · exact (Except.ok.inj h) ▸ hnode
      · exact (Except.ok.inj h) ▸ hnode
    · cases h
  rintro rfl
  exact absurd hvalid (by decide)

/-! ### The tracker -/

/-- The caps of a tracker; `none` stands for `Infinity`. -/
structure Limits where
  maxFlowsPerNode : Option ℕ := none
  maxTotalFlows : Option ℕ := none

/-- `count >= limit`. -/
def reaches (limit : Option ℕ) (count : ℕ) : Bool := limit.any fun limit => limit ≤ count

/-- The text of a cap in a message. -/
def limitText (limit : Option ℕ) : String := (limit.map toString).getD "Infinity"

/-- A callback that `trackFlow` returned. -/
structure EndCallback where
  flowId : String
  ended : Bool := false
  deriving DecidableEq, Repr

/-- The two maps of a tracker, and the callbacks it has given out so far. -/
structure Tracker where
  activeFlowsByNode : JsMap String (Finset String) := ∅
  flowToNode : JsMap String String := ∅
  endCallbacks : List EndCallback := []

namespace Tracker

/-- `activeFlowsByNode.get(nodeId)`, the empty set if there is none. -/
def flowsOf (t : Tracker) (nodeId : String) : Finset String :=
  (t.activeFlowsByNode.lookup nodeId).getD ∅

def addFlow (t : Tracker) (flowId nodeId : String) : Tracker where
  activeFlowsByNode := t.activeFlowsByNode.insert nodeId (insert flowId (t.flowsOf nodeId))
  flowToNode := t.flowToNode.insert flowId nodeId
  endCallbacks := t.endCallbacks ++ [{ flowId := flowId }]

/-- `trackFlow`, with the random part of a generated id. -/
def trackFlow (limits : Limits) (t : Tracker) (targetNodeId : Option Json)
    (explicitFlowId : Option String) (draw : String) : Except FlowError Tracker :=
  match assertValidTargetScope targetNodeId with
  | .error e => .error e
  | .ok nodeId =>
    let totalActive := t.flowToNode.size
    let currentCount := (t.flowsOf nodeId).card
    let flowId := explicitFlowId.getD ("flow_" ++ draw)
    if reaches limits.maxTotalFlows totalActive then
      .error ⟨"flow-capacity-exceeded", 503, "total flow capacity exceeded: " ++
        toString totalActive ++ " >= " ++ limitText limits.maxTotalFlows⟩
    else if reaches limits.maxFlowsPerNode currentCount then
      .error ⟨"node-flow-capacity-exceeded", 503, "node flow capacity exceeded for " ++ nodeId ++
        ": " ++ toString currentCount ++ " >= " ++ limitText limits.maxFlowsPerNode⟩
    else if t.flowToNode.has flowId then
      .error ⟨"duplicate-flow-id", 409, "flowId already active: " ++ flowId⟩
    else .ok (t.addFlow flowId nodeId)

def endFlow (t : Tracker) (flowId : String) : Tracker :=
  match t.flowToNode.lookup flowId with
  | none => t
  | some nodeId =>
    if nodeId = "" then t
    else
      { t with
        flowToNode := t.flowToNode.erase flowId
        activeFlowsByNode :=
          match t.activeFlowsByNode.lookup nodeId with
          | none => t.activeFlowsByNode
          | some nodeSet =>
            if nodeSet.erase flowId = ∅ then t.activeFlowsByNode.erase nodeId
            else t.activeFlowsByNode.insert nodeId (nodeSet.erase flowId) }

/-- The callback is called. -/
def callback (t : Tracker) (k : ℕ) : Tracker :=
  match t.endCallbacks[k]? with
  | none => t
  | some entry =>
    if entry.ended then t
    else
      ({ t with endCallbacks := t.endCallbacks.set k { entry with ended := true } } : Tracker).endFlow
        entry.flowId

def clear (t : Tracker) : Tracker := { t with activeFlowsByNode := ∅, flowToNode := ∅ }

inductive Event
  | trackFlow (targetNodeId : Option Json) (explicitFlowId : Option String) (draw : String)
  | endFlow (flowId : String)
  | callback (k : ℕ)
  | clear

def step (limits : Limits) (t : Tracker) : Event → Tracker
  | .trackFlow targetNodeId explicitFlowId draw =>
    match t.trackFlow limits targetNodeId explicitFlowId draw with
    | .ok t' => t'
    | .error _ => t
  | .endFlow flowId => t.endFlow flowId
  | .callback k => t.callback k
  | .clear => t.clear

/-- The tracker after a run. -/
def run (limits : Limits) (events : List Event) : Tracker := runFrom (step limits) {} events

/-! ### The maps -/

variable {limits : Limits} {t t' : Tracker} {flowId nodeId : String}

/-- The count is within the cap. -/
def Within (limit : Option ℕ) (count : ℕ) : Prop := ∀ cap, limit = some cap → count ≤ cap

theorem within_of_not_reaches {limit : Option ℕ} {count : ℕ} (h : reaches limit count = false) :
    Within limit (count + 1) := by
  rintro cap rfl
  exact not_le.mp (of_decide_eq_false h)

theorem Within.mono {limit : Option ℕ} {count count' : ℕ} (h : Within limit count)
    (hle : count' ≤ count) : Within limit count' := fun cap hcap => hle.trans (h cap hcap)

theorem within_zero (limit : Option ℕ) : Within limit 0 := fun cap _ => Nat.zero_le cap

/-- Both maps describe the same flows, and their sizes are within the caps. -/
structure Tracked (limits : Limits) (t : Tracker) : Prop where
  indexed : ∀ flowId nodeId, t.flowToNode.lookup flowId = some nodeId ↔ flowId ∈ t.flowsOf nodeId
  listed : ∀ nodeId, nodeId ∈ t.activeFlowsByNode ↔ (t.flowsOf nodeId).Nonempty
  named : ∀ flowId nodeId, t.flowToNode.lookup flowId = some nodeId → nodeId ≠ ""
  total : Within limits.maxTotalFlows t.flowToNode.size
  perNode : ∀ nodeId, Within limits.maxFlowsPerNode (t.flowsOf nodeId).card

theorem flowsOf_of_notMem (h : nodeId ∉ t.activeFlowsByNode) : t.flowsOf nodeId = ∅ := by
  rw [flowsOf, AList.lookup_eq_none.mpr h]
  rfl

theorem tracked_empty (limits : Limits) (t : Tracker) : Tracked limits t.clear where
  indexed flowId nodeId := iff_of_false nofun (Finset.notMem_empty flowId)
  listed nodeId := iff_of_false (AList.notMem_empty nodeId) Finset.not_nonempty_empty
  named flowId nodeId h := by cases h
  total := within_zero _
  perNode nodeId := within_zero _

/-! ### A new flow -/

theorem flowsOf_addFlow (t : Tracker) (flowId nodeId other : String) :
    (t.addFlow flowId nodeId).flowsOf other =
      if other = nodeId then insert flowId (t.flowsOf nodeId) else t.flowsOf other := by
  rw [addFlow, flowsOf, JsMap.lookup_insert_eq]
  split_ifs
  · rfl
  · rfl

/-- What an accepted `trackFlow` has found. -/
theorem trackFlow_ok {targetNodeId : Option Json} {explicitFlowId : Option String} {draw : String}
    (h : t.trackFlow limits targetNodeId explicitFlowId draw = .ok t') :
    ∃ nodeId, assertValidTargetScope targetNodeId = .ok nodeId ∧
      reaches limits.maxTotalFlows t.flowToNode.size = false ∧
      reaches limits.maxFlowsPerNode (t.flowsOf nodeId).card = false ∧
      explicitFlowId.getD ("flow_" ++ draw) ∉ t.flowToNode ∧
      t' = t.addFlow (explicitFlowId.getD ("flow_" ++ draw)) nodeId := by
  rw [trackFlow] at h
  cases hscope : assertValidTargetScope targetNodeId with
  | error e =>
    rw [hscope] at h
    cases h
  | ok nodeId =>
    rw [hscope] at h
    dsimp only at h
    split_ifs at h with htotal hnode hknown
    rw [Bool.not_eq_true] at htotal hnode hknown
    exact ⟨nodeId, rfl, htotal, hnode, JsMap.has_eq_false_iff.mp hknown, (Except.ok.inj h).symm⟩

theorem Tracked.addFlow (h : Tracked limits t) (hnamed : nodeId ≠ "") (hnew : flowId ∉ t.flowToNode)
    (htotal : reaches limits.maxTotalFlows t.flowToNode.size = false)
    (hnode : reaches limits.maxFlowsPerNode (t.flowsOf nodeId).card = false) :
    Tracked limits (t.addFlow flowId nodeId) := by
  have hfresh : ∀ other, flowId ∉ t.flowsOf other := by
    intro other hmem
    have hlookup := (h.indexed flowId other).mpr hmem
    exact hnew (AList.lookup_isSome.mp (Option.isSome_of_eq_some hlookup))
  constructor
  · intro id node
    rw [flowsOf_addFlow, Tracker.addFlow, JsMap.lookup_insert_eq]
    by_cases hid : id = flowId
    · subst hid
      rw [if_pos rfl]
      split_ifs with hsame
      · rw [hsame]
        exact iff_of_true rfl (Finset.mem_insert_self id _)
      · refine iff_of_false ?_ (hfresh node)
        intro heq
        exact hsame (Option.some.inj heq).symm
    · rw [if_neg hid, h.indexed]
      split_ifs with hsame
      · rw [hsame, Finset.mem_insert, or_iff_right hid]
      · rfl
  · intro node
    rw [flowsOf_addFlow, Tracker.addFlow, AList.mem_insert, h.listed]
    split_ifs with hsame
    · exact iff_of_true (.inl hsame) (Finset.insert_nonempty _ _)
    · rw [or_iff_right hsame]
  · intro id node hlookup
    rw [Tracker.addFlow, JsMap.lookup_insert_eq] at hlookup
    split_ifs at hlookup
    · exact (Option.some.inj hlookup) ▸ hnamed
    · exact h.named id node hlookup
  · rw [Tracker.addFlow, JsMap.size_insert_of_notMem hnew]
    exact within_of_not_reaches htotal
  · intro node
    rw [flowsOf_addFlow]
    split_ifs
    · rw [Finset.card_insert_of_notMem (hfresh nodeId)]
      exact within_of_not_reaches hnode
    · exact h.perNode node

/-! ### The end of a flow -/

theorem endFlow_of_notMem (h : flowId ∉ t.flowToNode) : t.endFlow flowId = t := by
  rw [endFlow, AList.lookup_eq_none.mpr h]

theorem endCallbacks_endFlow (t : Tracker) (flowId : String) :
    (t.endFlow flowId).endCallbacks = t.endCallbacks := by
  rw [endFlow]
  split
  · rfl
  · split_ifs <;> rfl

/-- The maps after the end of a tracked flow. -/
theorem Tracked.endFlow_eq (h : Tracked limits t) (hnode : t.flowToNode.lookup flowId = some nodeId) :
    (t.endFlow flowId).flowToNode = t.flowToNode.erase flowId ∧
      (∀ other, (t.endFlow flowId).flowsOf other = (t.flowsOf other).erase flowId) ∧
      ∀ other, other ∈ (t.endFlow flowId).activeFlowsByNode ↔
        ((t.endFlow flowId).flowsOf other).Nonempty := by
  have hmem := (h.indexed flowId nodeId).mp hnode
  have hother : ∀ other, other ≠ nodeId → (t.flowsOf other).erase flowId = t.flowsOf other := by
    intro other hne
    apply Finset.erase_eq_of_notMem
    intro hin
    have hlookup := (h.indexed flowId other).mpr hin
    rw [hnode] at hlookup
    exact hne (Option.some.inj hlookup).symm
  have hlisted := (h.listed nodeId).mpr ⟨flowId, hmem⟩
  obtain ⟨nodeSet, hset⟩ := Option.isSome_iff_exists.mp (AList.lookup_isSome.mpr hlisted)
  have hflows : t.flowsOf nodeId = nodeSet := by
    rw [flowsOf, hset]
    rfl
  have hend : t.endFlow flowId =
      { t with
        flowToNode := t.flowToNode.erase flowId
        activeFlowsByNode :=
          if nodeSet.erase flowId = ∅ then t.activeFlowsByNode.erase nodeId
          else t.activeFlowsByNode.insert nodeId (nodeSet.erase flowId) } := by
    rw [endFlow, hnode]
    dsimp only
    rw [if_neg (h.named flowId nodeId hnode), hset]
  have hafter : ∀ other, (t.endFlow flowId).flowsOf other = (t.flowsOf other).erase flowId := by
    intro other
    rw [hend, flowsOf]
    dsimp only
    by_cases hsame : other = nodeId
    · subst hsame
      rw [hflows]
      split_ifs with hempty
      · rw [AList.lookup_erase, hempty]
        rfl
      · rw [AList.lookup_insert]
        rfl
    · rw [hother other hsame]
      split_ifs
      · rw [AList.lookup_erase_ne hsame]
        rfl
      · rw [AList.lookup_insert_ne hsame]
        rfl
  refine ⟨congrArg flowToNode hend, hafter, ?_⟩
  intro other
  rw [hafter, hend]
  dsimp only
  by_cases hsame : other = nodeId
  · subst hsame
    rw [hflows]
    split_ifs with hempty
    · rw [AList.mem_erase, hempty]
      exact iff_of_false (fun hin => hin.1 rfl) Finset.not_nonempty_empty
    · rw [AList.mem_insert]
      exact iff_of_true (.inl rfl) (Finset.nonempty_iff_ne_empty.mpr hempty)
  · rw [hother other hsame, ← h.listed]
    split_ifs
    · rw [AList.mem_erase]
      exact and_iff_right hsame
    · rw [AList.mem_insert]
      exact or_iff_right hsame

theorem Tracked.endFlow (h : Tracked limits t) (flowId : String) :
    Tracked limits (t.endFlow flowId) := by
  cases hnode : t.flowToNode.lookup flowId with
  | none =>
    rw [endFlow_of_notMem (AList.lookup_eq_none.mp hnode)]
    exact h
  | some nodeId =>
    obtain ⟨hmap, hflows, hlisted⟩ := h.endFlow_eq hnode
    refine ⟨?_, hlisted, ?_, ?_, ?_⟩
    · intro id node
      rw [hmap, hflows, JsMap.lookup_erase_eq, Finset.mem_erase]
      split_ifs with hid
      · exact iff_of_false nofun fun hin => hin.1 hid
      · rw [h.indexed, and_iff_right hid]
    · intro id node hlookup
      rw [hmap, JsMap.lookup_erase_eq] at hlookup
      split_ifs at hlookup
      exact h.named id node hlookup
    · rw [hmap]
      exact h.total.mono (JsMap.size_erase_le _ _)
    · intro node
      rw [hflows]
      exact (h.perNode node).mono (Finset.card_erase_le)

/-! ### Every operation -/

theorem Tracked.of_maps (h : Tracked limits t) (hflows : t'.flowToNode = t.flowToNode)
    (hnodes : t'.activeFlowsByNode = t.activeFlowsByNode) : Tracked limits t' := by
  have hsame : t'.flowsOf = t.flowsOf := by
    funext node
    rw [flowsOf, hnodes]
    rfl
  constructor
  · rw [hflows, hsame]
    exact h.indexed
  · rw [hnodes, hsame]
    exact h.listed
  · rw [hflows]
    exact h.named
  · rw [hflows]
    exact h.total
  · rw [hsame]
    exact h.perNode

/-- Every operation keeps the maps in step and below their caps. -/
theorem step_tracked (h : Tracked limits t) (event : Event) : Tracked limits (t.step limits event) := by
  cases event with
  | trackFlow targetNodeId explicitFlowId draw =>
    rw [step]
    cases htrack : t.trackFlow limits targetNodeId explicitFlowId draw with
    | error e => exact h
    | ok t' =>
      obtain ⟨nodeId, hscope, htotal, hnode, hnew, rfl⟩ := trackFlow_ok htrack
      exact h.addFlow (assertValidTargetScope_ne_empty hscope) hnew htotal hnode
  | endFlow flowId => exact h.endFlow flowId
  | callback k =>
    rw [step, callback]
    split
    · exact h
    · split_ifs
      · exact h
      · apply Tracked.endFlow
        exact h.of_maps rfl rfl
  | clear => exact tracked_empty limits t

theorem run_tracked (limits : Limits) (events : List Event) : Tracked limits (run limits events) :=
  runFrom_invariant (P := fun _ _ => True) (fun _ event h _ => step_tracked h event)
    (tracked_empty limits {}) (eachStep_true events)

/-! ### The flows of callbacks -/

/-- The id of the flow for which a callback was given. -/
def idOf (t : Tracker) (k : ℕ) : Option String := (t.endCallbacks[k]?).map EndCallback.flowId

/-- The flow of the callback is still tracked: its id is in use, and no later flow took it. -/
def Live (t : Tracker) (k : ℕ) : Prop :=
  ∃ flowId, t.idOf k = some flowId ∧ flowId ∈ t.flowToNode ∧ ∀ j, k < j → t.idOf j ≠ some flowId

/-- A flow that is accepted is tracked. -/
theorem live_addFlow (t : Tracker) (flowId nodeId : String) :
    (t.addFlow flowId nodeId).Live t.endCallbacks.length := by
  refine ⟨flowId, ?_, ?_, fun j hj => ?_⟩
  · rw [idOf, addFlow, List.getElem?_concat_length]
    rfl
  · exact (AList.mem_insert _).mpr (.inl rfl)
  · rw [idOf, addFlow, List.getElem?_eq_none]
    · nofun
    · rw [List.length_append]
      exact hj

/-- No other flow than that of the callback ends when it is called. -/
def EndsOwn (t : Tracker) : Event → Prop
  | .callback k => ∀ j, j ≠ k → t.Live j → (t.callback k).Live j
  | _ => True

/-- The callback has not been called, and a flow that took its id later is tracked. -/
def Overdue (t : Tracker) (k : ℕ) : Prop :=
  ∃ entry, t.endCallbacks[k]? = some entry ∧ entry.ended = false ∧ entry.flowId ∈ t.flowToNode ∧
    ∃ j, k < j ∧ t.idOf j = some entry.flowId

/-- A callback that is called is not overdue. -/
def Timely (t : Tracker) : Event → Prop
  | .callback k => ¬t.Overdue k
  | _ => True

theorem Tracked.mem_endFlow (h : Tracked limits t) {id : String} :
    id ∈ (t.endFlow flowId).flowToNode ↔ id ≠ flowId ∧ id ∈ t.flowToNode := by
  cases hnode : t.flowToNode.lookup flowId with
  | none =>
    have hout := AList.lookup_eq_none.mp hnode
    rw [endFlow_of_notMem hout]
    constructor
    · intro hin
      exact ⟨fun heq => hout (heq ▸ hin), hin⟩
    · exact And.right
  | some nodeId =>
    rw [(h.endFlow_eq hnode).1]
    exact AList.mem_erase

/-- What a first call of a callback makes of the flows. -/
theorem Tracked.callback_eq (h : Tracked limits t) {k : ℕ} {entry : EndCallback}
    (hentry : t.endCallbacks[k]? = some entry) (hopen : entry.ended = false) :
    (∀ id, id ∈ (t.callback k).flowToNode ↔ id ≠ entry.flowId ∧ id ∈ t.flowToNode) ∧
      ∀ j, (t.callback k).idOf j = t.idOf j := by
  have hcallback : t.callback k = ({ t with
      endCallbacks := t.endCallbacks.set k { entry with ended := true } } : Tracker).endFlow
        entry.flowId := by
    rw [callback, hentry]
    dsimp only
    rw [if_neg (by rw [hopen]; exact Bool.false_ne_true)]
  have hmarked : Tracked limits { t with
      endCallbacks := t.endCallbacks.set k { entry with ended := true } } := h.of_maps rfl rfl
  rw [hcallback]
  constructor
  · exact fun id => hmarked.mem_endFlow
  · intro j
    rw [idOf, idOf, endCallbacks_endFlow]
    by_cases hsame : k = j
    · subst hsame
      obtain ⟨hlt, -⟩ := List.getElem?_eq_some_iff.mp hentry
      rw [List.getElem?_set_self hlt, hentry]
      rfl
    · rw [List.getElem?_set_ne hsame]

/-- The last callback of an id that is in use is that of a tracked flow. -/
theorem exists_live {k : ℕ} (hid : t.idOf k = some flowId) (hin : flowId ∈ t.flowToNode) :
    ∃ j, k ≤ j ∧ t.idOf j = some flowId ∧ t.Live j := by
  have hbound : ∀ j, t.idOf j = some flowId → j ≤ t.endCallbacks.length := by
    intro j hj
    by_contra hlate
    rw [idOf, List.getElem?_eq_none (by omega)] at hj
    cases hj
  let p : ℕ → Prop := fun j => t.idOf j = some flowId
  have hdec : DecidablePred p := fun j => inferInstanceAs (Decidable (t.idOf j = some flowId))
  have hle := hbound k hid
  have hlast : p (Nat.findGreatest p t.endCallbacks.length) := Nat.findGreatest_spec hle hid
  refine ⟨_, Nat.le_findGreatest hle hid, hlast, flowId, hlast, hin, ?_⟩
  intro j hj hsame
  exact Nat.findGreatest_is_greatest hj (hbound j hsame) hsame

/-- When a callback leaves the other flows. -/
theorem Tracked.endsOwn_iff (h : Tracked limits t) (event : Event) :
    t.EndsOwn event ↔ t.Timely event := by
  cases event with
  | callback k =>
    constructor
    · rintro hown ⟨entry, hentry, hopen, hin, j, hlater, hid⟩
      obtain ⟨hflows, -⟩ := h.callback_eq hentry hopen
      obtain ⟨last, hlast, hlastId, hlive⟩ := exists_live hid hin
      obtain ⟨flowId, hflow, hstill, -⟩ := hown last (by omega) hlive
      rw [(h.callback_eq hentry hopen).2, hlastId] at hflow
      rw [← Option.some.inj hflow] at hstill
      exact ((hflows _).mp hstill).1 rfl
    · intro htimely j hne hlive
      cases hentry : t.endCallbacks[k]? with
      | none =>
        rw [callback, hentry]
        exact hlive
      | some entry =>
        cases hopen : entry.ended with
        | true =>
          rw [callback, hentry]
          dsimp only
          rw [if_pos hopen]
          exact hlive
        | false =>
          obtain ⟨hflows, hids⟩ := h.callback_eq hentry hopen
          obtain ⟨flowId, hid, hin, hlatest⟩ := hlive
          have hkid : t.idOf k = some entry.flowId := by
            rw [idOf, hentry]
            rfl
          have hother : flowId ≠ entry.flowId := by
            rintro rfl
            rcases lt_or_gt_of_ne hne with hearlier | hlater
            · exact hlatest k hearlier hkid
            · exact htimely ⟨entry, hentry, hopen, hin, j, hlater, hid⟩
          refine ⟨flowId, ?_, (hflows flowId).mpr ⟨hother, hin⟩, fun other hlt => ?_⟩
          · rw [hids]
            exact hid
          · rw [hids]
            exact hlatest other hlt
  | _ => exact Iff.rfl

/-! ### Runs -/

/-- In every state of the run both maps describe the same flows within the caps, and every callback
that is called ends no flow but its own. -/
def Accounts (limits : Limits) (events : List Event) : Prop :=
  (∀ earlier, earlier <+: events → Tracked limits (run limits earlier)) ∧
    EachStep (step limits) EndsOwn {} events

/-- The tracker accounts for its flows in a run exactly if no callback is overdue when it is
called. -/
theorem accounts_iff (limits : Limits) (events : List Event) :
    Accounts limits events ↔ EachStep (step limits) Timely {} events := by
  have hiff : ∀ {P Q : Tracker → Event → Prop}, (∀ t event, Tracked limits t → P t event → Q t event) →
      EachStep (step limits) P {} events → EachStep (step limits) Q {} events := fun hPQ hP =>
    hP.of_invariant (I := Tracked limits) (fun _ event h _ => step_tracked h event) hPQ
      (tracked_empty limits {})
  constructor
  · rintro ⟨-, hown⟩
    exact hiff (fun _ event h => (h.endsOwn_iff event).mp) hown
  · intro htimely
    exact ⟨fun earlier _ => run_tracked limits earlier,
      hiff (fun _ event h => (h.endsOwn_iff event).mpr) htimely⟩

/-- A flow is ended by its id and the id is used again before its callback is called. -/
def reusedRun : List Event :=
  let target := some (Json.str "node_00000000000000000000000000000000")
  [.trackFlow target (some "flow_1") "", .endFlow "flow_1",
    .trackFlow target (some "flow_1") "", .callback 0]

/-- The callback of the first flow ends the second one. -/
theorem callback_ends_later_flow : ¬Accounts {} reusedRun := by
  rintro ⟨-, hown⟩
  have hlast : (run {} (reusedRun.take 3)).EndsOwn (.callback 0) := hown.2.2.2.1
  have hlive : (run {} (reusedRun.take 3)).Live 1 := by
    refine ⟨"flow_1", by decide +kernel, by decide +kernel, fun j hj => ?_⟩
    have hlength : (run {} (reusedRun.take 3)).endCallbacks.length = 2 := by decide +kernel
    rw [idOf, List.getElem?_eq_none (by omega)]
    nofun
  obtain ⟨flowId, hid, hin, -⟩ := hlast 1 (by decide) hlive
  have hid' : ((run {} (reusedRun.take 3)).callback 0).idOf 1 = some "flow_1" := by decide +kernel
  have hgone : "flow_1" ∉ ((run {} (reusedRun.take 3)).callback 0).flowToNode := by decide +kernel
  rw [hid'] at hid
  exact hgone (Option.some.inj hid ▸ hin)

end Tracker

end DshOrbit.FlowTracker
