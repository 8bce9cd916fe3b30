import DshOrbit.ReverseNode.Wire

/-!
# Aborts of the Hub

The Hub names the request in its abort. The node compares that name with a field that its
flow object does not have, so the abort finds no flow and nothing happens.

## Main definitions

- `TornDown` — a flow whose end is under way

## Main results

- `tornDown_abort_iff` — when the flow that an abort names is torn down after it
-/

namespace DshOrbit.ReverseNode

open DshOrbit.Lib DshOrbit.ReverseWs

/-- The local request, its response or the upgraded socket is still in use. -/
def Upstream.live : Upstream → Bool
  | .awaiting => true
  | .responding => true
  | .upgraded => true
  | _ => false

theorem Stage.destroyed_of_not_live {flow : Flow} {word : Word} (h : Stage flow word)
    (hlive : flow.upstream.live = false) : flow.upstream = .destroyed := by
  cases h with
  | awaiting hu => simp [hu, Upstream.live] at hlive
  | responding hu => simp [hu, Upstream.live] at hlive
  | upgraded hu =>
    rcases hu with hu | hu
    · simp [hu, Upstream.live] at hlive
    · exact hu
  | closing hu => exact hu

namespace NodeChannel

variable {s : NodeChannel} {id : OpenId}

theorem step_abort (s : NodeChannel) (requestId : String) :
    s.step (.abort (some requestId)) = s := by
  show s.onAbort (some requestId) = s
  rw [onAbort]
  split
  · rfl
  · exact if_pos (by simp [Flow.requestId])

/-- No local handle of the flow is in use; and when its socket has closed the channel is free
again, and said so once, or the channel is closed. -/
structure TornDown (s : NodeChannel) (id : OpenId) : Prop where
  upstream : (s.flows id).upstream.live = false
  ends : (s.step (.upgradedClose id)).destroyed = true ∨
    ((s.step (.upgradedClose id)).state = .idle ∧ (s.step (.upgradedClose id)).flow = none ∧
      ((s.step (.upgradedClose id)).sentFor id).count .idle = 1)

theorem complete_frees (hlive : s.destroyed = false) (hflow : s.flow = some id)
    (hcompleted : (s.flows id).completed = false) (kind : Complete) :
    (s.complete id kind).state = .idle ∧ (s.complete id kind).flow = none ∧
      ∃ ended, (s.complete id kind).sent = s.sent ++ [(id, .responseEnd ended), (id, .idle)] := by
  rw [complete, if_neg (by simp [hcompleted])]
  cases kind with
  | teardown =>
    dsimp only
    rw [safeSendJson_current (by exact hflow)]
    refine ⟨?_, ?_, some (s.flows id).opened, ?_⟩
    · rw [state_send]
      rfl
    · rw [flow_send]
      rfl
    · simp [send, release, modify, hlive]
  | abort requestId =>
    refine ⟨?_, ?_, requestId, ?_⟩
    · rw [state_send, state_send]
    · rw [flow_send, flow_send]
    · simp [send, modify, hlive]

/-- A flow whose handle is gone ends with the close event that is still to come. -/
theorem Inv.tornDown {Orderly : Prop} (h : Inv Orderly s) (hflow : s.flow = some id)
    (hgone : (s.flows id).upstream.live = false) : s.TornDown id := by
  refine ⟨hgone, ?_⟩
  cases hlive : s.destroyed with
  | true =>
    refine .inl ?_
    rw [NodeChannel.step]
    split_ifs
    · exact ((Still.refl hlive).closed id).destroyed
    · exact hlive
  | false =>
    have hstage := h.stage hlive id hflow
    have hdestroyed := hstage.destroyed_of_not_live hgone
    have hword := (hstage.of_upgraded (hstage.upgraded_of_socket (.inr hdestroyed))).1
    have hstep : s.step (.upgradedClose id) = s.closed id := if_pos (.inr hdestroyed)
    obtain ⟨s', kind, hclosed, hheld, hsent, -, hcompleted, -⟩ :=
      h.closed_current hlive hflow (.inr hdestroyed)
    obtain ⟨hstate, hfree, ended, hends⟩ :=
      complete_frees hheld.live hheld.flow hcompleted kind
    have hidle : (s.sentFor id).count .idle = 0 := by
      rw [List.count_eq_zero]
      intro hmem
      have hdone := Word.foldl_of_idle .start hmem
      rw [show (s.sentFor id).foldl Word.next .start = .responded from hword] at hdone
      simp at hdone
    rw [hstep, hclosed]
    refine .inr ⟨hstate, hfree, ?_⟩
    rw [sentFor, hends, hsent, List.filter_append, List.map_append, List.count_append]
    rw [show List.count _ (List.map _ (List.filter _ s.sent)) = 0 from hidle]
    simp

end NodeChannel

/-- After an abort for its request the flow is torn down exactly when its local handle was
gone before the abort came. -/
theorem tornDown_abort_iff (events : List ChannelEvent) (id : OpenId)
    (hflow : (NodeChannel.run events).flow = some id) :
    let s := NodeChannel.run events
    (s.step (.abort (some (s.flows id).opened))).TornDown id ↔
      (s.flows id).upstream.live = false := by
  intro s
  have hinv : NodeChannel.Inv False s :=
    runFrom_invariant (P := fun _ _ => True) (fun s event hs _ => hs.step event False.elim)
      NodeChannel.inv_initial (eachStep_true events)
  rw [NodeChannel.step_abort]
  exact ⟨fun h => h.upstream, fun h => hinv.tornDown hflow h⟩

/-- DSH has ended the upgraded socket before the abort comes. -/
theorem tornDown_abort_ended :
    let s := NodeChannel.run [.open (requestOf "r" .websocket) {}, .upgrade 0 101 [] {},
      .upgradedEnd 0]
    (s.step (.abort (some "r"))).TornDown 0 :=
  (tornDown_abort_iff [.open (requestOf "r" .websocket) {}, .upgrade 0 101 [] {}, .upgradedEnd 0] 0
    rfl).mpr rfl

/-- The browser is gone, and the upgraded socket and the channel stay in use. -/
theorem not_tornDown_abort :
    let s := NodeChannel.run [.open (requestOf "r" .websocket) {}, .upgrade 0 101 [] {},
      .abort (some "r")]
    ¬ s.TornDown 0 ∧ s.state = .busy := by
  intro s
  refine ⟨fun h => ?_, rfl⟩
  have hlive := h.upstream
  revert hlive
  decide

end DshOrbit.ReverseNode
