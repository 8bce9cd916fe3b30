import DshOrbit.ReverseHub.Soundness
import Mathlib.Data.List.Induction

/-!
# Generations of reverse sessions

A node has at most one pending and at most one current session, and only the `ready`
of a new connection replaces the current one. A session whose `ready` is already in
the bytes behind its upgrade is promoted before it is put among the pending ones;
then it is both, and the next upgrade of the node closes it.

## Main definitions

- `GenerationRules`, `EventRules` — what holds at any time, and of any event

## Main results

- `generation_rules`
-/

namespace DshOrbit.ReverseHub

open DshOrbit.Lib DshOrbit.ReverseWs

namespace ReverseSessionManager

variable {World : Type*} {onSessionClosed : World → SessionId → String → World}
  {parseJson : Message → Option Json} {m : ReverseSessionManager World}

/-- The pending sessions are not ready. -/
def Apart (m : ReverseSessionManager World) : Prop :=
  ∀ nodeId id, id ∈ m.pending nodeId → (m.session id).state = .pending

theorem Apart.follows {m' : ReverseSessionManager World} (h : Apart m) (hfollows : Follows m m') :
    Apart m' := by
  intro nodeId id hpending
  obtain ⟨hmem, hstate⟩ := hfollows.pending nodeId id hpending
  exact hstate.trans (h nodeId id hmem)

theorem Apart.registerUpgrade (h : Apart m) (hsound : Sound m) {nodeId keyId : String}
    {head : Buffer} (hhead : ¬ReadyOnArrival parseJson head) :
    Apart (m.registerUpgrade onSessionClosed parseJson nodeId keyId head) := by
  rw [registerUpgrade_eq]
  dsimp only
  have hbounded : Follows m
      (m.closeEach onSessionClosed (m.pending nodeId) "superseded-pending") :=
    follows_closeEach hsound _ _
  have happart := h.follows hbounded
  generalize m.closeEach onSessionClosed (m.pending nodeId) "superseded-pending" = bounded at *
  obtain ⟨hfollows, hstate, -⟩ :=
    @Sound.arrive _ onSessionClosed parseJson _ hbounded.sound nodeId keyId head
  have harrived : Apart (bounded.arrive onSessionClosed parseJson nodeId keyId head) := by
    refine Apart.follows (fun other id hpending => ?_) hfollows
    have hid : id ∈ bounded.pending other → id ≠ bounded.count := hbounded.sound.ne_count_of_pending
    rw [session_construct_of_ne (hid hpending)]
    exact happart other id hpending
  have hself : (bounded.construct nodeId keyId).session bounded.count = { nodeId, keyId } := by
    simp [ReverseSessionManager.construct]
  have hempty : head = [] → (headEvents head).foldl (controlState parseJson) .pending = .pending := by
    rintro rfl
    rfl
  have hiff := hfollows.sound.closed_iff bounded.count
  generalize bounded.arrive onSessionClosed parseJson nodeId keyId head = arrived at *
  split_ifs with hclosed
  · exact harrived
  · intro other id hpending
    by_cases hid : id = bounded.count
    · -- the new session is not closed, and it did not become ready
      subst hid
      show (arrived.session bounded.count).state = .pending
      cases hnew : (arrived.session bounded.count).state with
      | pending => rfl
      | ready => exact absurd (hstate.symm.trans hnew) hhead
      | closed =>
        by_cases hnil : head = []
        · rw [hnew, hempty hnil] at hstate
          cases hstate
        · exact absurd ⟨hnil, hiff.mpr hnew⟩ hclosed
    · refine harrived other id ?_
      by_cases hother : other = nodeId
      · subst hother
        simpa [hid] using hpending
      · simpa [hother] using hpending

/-- A new connection that does not deliver a `ready` spares the current sessions. -/
theorem current_registerUpgrade (happart : Apart m) (h : Sound m) {nodeId keyId : String}
    {head : Buffer} (hhead : ¬DeliversReady parseJson head) {other : String} {id : SessionId}
    (hcurrent : m.current other = some id) :
    (m.registerUpgrade onSessionClosed parseJson nodeId keyId head).current other = some id ∧
      (m.registerUpgrade onSessionClosed parseJson nodeId keyId head).session id =
        m.session id := by
  have hnot : id ∉ m.pending nodeId := by
    intro hpending
    have hstate := happart nodeId id hpending
    rw [(h.current other id hcurrent).2] at hstate
    cases hstate
  have hbounded : Follows m
      (m.closeEach onSessionClosed (m.pending nodeId) "superseded-pending") :=
    follows_closeEach h _ _
  have hsession : (m.closeEach onSessionClosed (m.pending nodeId)
      "superseded-pending").session id = m.session id := session_closeEach hnot _
  have hcurrent' : (m.closeEach onSessionClosed (m.pending nodeId)
      "superseded-pending").current other = some id :=
    (h.current_closeEach _ _ _ _).mpr ⟨hcurrent, hnot⟩
  rw [registerUpgrade_eq]
  dsimp only
  generalize m.closeEach onSessionClosed (m.pending nodeId) "superseded-pending" = bounded at *
  have hspares :=
    (@Sound.arrive _ onSessionClosed parseJson _ hbounded.sound nodeId keyId head).2.2 hhead
  have hid := hbounded.sound.ne_count_of_current hcurrent'
  have harrived := (hspares.current other id hid).mpr hcurrent'
  have hkept := (hspares.session id hid).trans hsession
  split_ifs
  · exact ⟨harrived, hkept⟩
  · exact ⟨harrived, hkept⟩

/-- What holds of the sessions at any time. -/
structure GenerationRules (m : ReverseSessionManager World) : Prop where
  one_pending : ∀ nodeId, (m.pending nodeId).length ≤ 1
  current_ready : ∀ nodeId id, m.current nodeId = some id →
    (m.session id).state = .ready ∧ (m.session id).closed = false
  apart : ∀ nodeId other id, id ∈ m.pending nodeId → m.current other ≠ some id

/-- What holds of an event. -/
structure EventRules (parseJson : Message → Option Json) (m : ReverseSessionManager World)
    (event : SessionEvent) (m' : ReverseSessionManager World) : Prop where
  /-- A new connection that has not said that it is ready leaves every current session
  as it is. -/
  upgrade : ∀ nodeId keyId head, event = .registerUpgrade nodeId keyId head →
    ¬DeliversReady parseJson head → ∀ other id, m.current other = some id →
      m'.current other = some id ∧ m'.session id = m.session id
  /-- A late event of a session that was superseded, or is closed, changes nothing but
  that session. -/
  late : ∀ id, event.session? = some id →
    (m.session id).superseded = true ∨ (m.session id).closed = true → Spares id m m' ∧
      (∀ nodeId, m.current nodeId ≠ some id)

/-- In every run in which no connection is ready before it has been registered, the
generations of all nodes are kept apart. -/
theorem generation_rules (onSessionClosed : World → SessionId → String → World)
    (parseJson : Message → Option Json) (world : World) (events : List SessionEvent)
    (hheads : ∀ nodeId keyId head, .registerUpgrade nodeId keyId head ∈ events →
      ¬ReadyOnArrival parseJson head) :
    (∀ before after, events = before ++ after →
      GenerationRules ((initial world).run onSessionClosed parseJson before)) ∧
    (∀ before event after, events = before ++ event :: after →
      EventRules parseJson ((initial world).run onSessionClosed parseJson before) event
        (((initial world).run onSessionClosed parseJson before).step onSessionClosed parseJson
          event)) := by
  have hsound (before : List SessionEvent) :
      Sound ((initial world).run onSessionClosed parseJson before) :=
    run_sound (sound_initial world) before
  have hrun : ∀ before, (∀ event ∈ before, event ∈ events) →
      Apart ((initial world).run onSessionClosed parseJson before) := by
    intro before
    induction before using List.reverseRecOn with
    | nil => intro _ nodeId id hpending; cases hpending
    | append_singleton before event ih =>
      intro hsub
      have happart := ih fun other hother => hsub other (List.mem_append_left _ hother)
      have hevent := hsub event (List.mem_append_right _ List.mem_cons_self)
      rw [run, runFrom_append, runFrom_cons, runFrom_nil, ← run]
      by_cases hregister : ∃ nodeId keyId head, event = .registerUpgrade nodeId keyId head
      · obtain ⟨nodeId, keyId, head, rfl⟩ := hregister
        exact happart.registerUpgrade (hsound before) (hheads nodeId keyId head hevent)
      · simp only [not_exists] at hregister
        exact happart.follows (follows_step (hsound before) hregister)
  refine ⟨?_, ?_⟩
  · rintro before after rfl
    have happart := hrun before fun event hevent => List.mem_append_left _ hevent
    have hsound := hsound before
    refine ⟨hsound.one_pending, fun nodeId id hcurrent => ?_, fun nodeId other id hpending => ?_⟩
    · exact ⟨(hsound.current nodeId id hcurrent).2, hsound.not_closed_of_current hcurrent⟩
    · intro hcurrent
      have hstate := happart nodeId id hpending
      rw [(hsound.current other id hcurrent).2] at hstate
      cases hstate
  · rintro before event after rfl
    have happart := hrun before fun event hevent => List.mem_append_left _ hevent
    have hsound := hsound before
    refine ⟨?_, fun id hevent hlate => ?_⟩
    · rintro nodeId keyId head rfl hhead other id hcurrent
      exact current_registerUpgrade happart hsound hhead hcurrent
    · have hclosed := hlate.elim (hsound.superseded id) fun hclosed => hclosed
      refine ⟨hsound.spares_of_closed hevent hclosed, fun nodeId hcurrent => ?_⟩
      simp [hsound.not_closed_of_current hcurrent] at hclosed

/-! ### A `ready` behind the upgrade -/

def readyText : String :=
  "\x7b\"type\":\"ready\",\"protocol\":\"orbit-reverse-v1\",\"routeReady\":true\x7d"

/-- `JSON.parse` of the sample message. -/
def sampleJson : Message → Option Json
  | .text text =>
    if text = readyText then
      some (.obj [("type", .str "ready"), ("protocol", .str reverseProtocol),
        ("routeReady", .bool true)])
    else none
  | .binary _ => none

/-- The frame of the message, masked with a key of zeros. -/
def readyFrame : Buffer := [0x81, 0xc0, 0, 0, 0, 0] ++ utf8Bytes readyText

theorem headEvents_readyFrame : headEvents readyFrame = [.message (.text readyText)] := by
  decide

/-- The manager without a callback after a list of events. -/
def sampleRun (events : List SessionEvent) : ReverseSessionManager Unit :=
  (initial ()).run (fun world _ _ => world) sampleJson events

/-- The session of the first connection is ready at once and pending as well, and the
next upgrade of the node closes it. -/
theorem ready_in_head_closed :
    let first := sampleRun [.registerUpgrade "node" "key" readyFrame]
    let second := sampleRun
      [.registerUpgrade "node" "key" readyFrame, .registerUpgrade "node" "key" []]
    first.current "node" = some 0 ∧ first.pending "node" = [0] ∧ (first.session 0).closed = false ∧
      second.current "node" = none ∧ (second.session 0).closed = true := by
  decide

/-- A node connects, says that it is ready, and connects again. -/
theorem generation_rules_reconnect :
    let events : List SessionEvent := [.registerUpgrade "node" "key" [], .data 0 readyFrame,
      .registerUpgrade "node" "key" []]
    GenerationRules (sampleRun events) ∧ (sampleRun events).current "node" = some 0 ∧
      (sampleRun events).pending "node" = [1] := by
  intro events
  refine ⟨(generation_rules _ sampleJson () events ?_).1 events [] (by simp), ?_, ?_⟩
  · intro nodeId keyId head hmem
    obtain ⟨-, -, rfl⟩ : nodeId = "node" ∧ keyId = "key" ∧ head = [] := by
      simpa [events] using hmem
    intro hready
    cases hready
  · decide
  · decide

end ReverseSessionManager

end DshOrbit.ReverseHub
