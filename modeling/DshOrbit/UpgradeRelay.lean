import DshOrbit.Lib.Run
import DshOrbit.ReverseWs.Frame

/-!
# Upgrade relays

The three places that relay an upgraded connection as raw bytes: the machine ingress listener
(`registry/machine-ingress.mjs`), the route proxy of the Hub (`registry/route-proxy.mjs`) and the
route ingress of a node (`node/route-ingress.mjs`). Each has at most two buffers of early bytes: the
head that came behind the upgrade request of the client, and the one behind the 101 of the upstream.

## Main definitions

- `RelaySocket` — a socket that the relay writes to, with its write buffer
- `onMachineUpgrade`, `onProxyUpgrade`, `onIngressUpgrade` — the three handlers
- `Relay.step` — what can happen to a relay
- `Transparent` — each side is handed the bytes of the other

## Main results

- `upgrade_transparent_iff` — where the early bytes go to the right side
- `transparent_run` — byte streams are relayed as they are
-/

namespace DshOrbit.UpgradeRelay

open DshOrbit.Lib

abbrev Buffer := List UInt8

/-! ### Sockets -/

/-- A socket that is written to: what has left it and what is still in its write buffer. -/
structure RelaySocket where
  sent : Buffer := []
  queued : Buffer := []
  ended : Bool := false
  destroyed : Bool := false
  deriving DecidableEq

namespace RelaySocket

def write (s : RelaySocket) (bytes : Buffer) : RelaySocket :=
  if s.destroyed || s.ended then s else { s with queued := s.queued ++ bytes }

/-- `end()`: nothing more is written, what is queued is still sent. -/
def finish (s : RelaySocket) : RelaySocket := { s with ended := true }

/-- `destroy()`: what is queued is lost. -/
def destroy (s : RelaySocket) : RelaySocket := { s with queued := [], destroyed := true }

/-- Some of the queued bytes leave the socket. -/
def drain (s : RelaySocket) (n : ℕ) : RelaySocket :=
  { s with sent := s.sent ++ s.queued.take n, queued := s.queued.drop n }

/-- All bytes that were handed to the socket and not lost. -/
def handed (s : RelaySocket) : Buffer := s.sent ++ s.queued

end RelaySocket

/-! ### The relays -/

inductive RelayKind
  | machineIngress
  | routeProxy
  | routeIngress
  deriving DecidableEq

structure Relay where
  client : RelaySocket
  upstream : RelaySocket
  upgraded : Bool := false
  /-- Bytes of the client that came before the two sockets were piped. -/
  unread : Buffer := []
  /-- What the client and the upstream have sent behind their heads. -/
  clientBytes : Buffer := []
  upstreamHead : Buffer := []
  upstreamBytes : Buffer := []
  clientEnded : Bool := false
  upstreamEnded : Bool := false
  deriving DecidableEq

/-- The two sockets before the 101. The machine ingress writes the head of the client behind its
upgrade request at once. -/
def Relay.initial (kind : RelayKind) (head : Buffer) : Relay where
  client := {}
  upstream :=
    match kind with
    | .machineIngress => RelaySocket.write {} head
    | .routeProxy | .routeIngress => {}

/-- The handler of the machine ingress. -/
def onMachineUpgrade (switching head upstreamHead : Buffer) (client upstream : RelaySocket) :
    RelaySocket × RelaySocket :=
  let extra := if 0 < upstreamHead.length then upstreamHead else head
  let client := client.write switching
  let client := if 0 < extra.length then client.write extra else client
  (client, upstream)

/-- The handler of the route proxy. -/
def onProxyUpgrade (switching head upstreamHead : Buffer) (client upstream : RelaySocket) :
    RelaySocket × RelaySocket :=
  let client := client.write switching
  let client := if 0 < upstreamHead.length then client.write upstreamHead else client
  let upstream := if 0 < head.length then upstream.write head else upstream
  (client, upstream)

/-- The handler of the route ingress, which does the same as the route proxy. -/
def onIngressUpgrade (switching head upstreamHead : Buffer) (client upstream : RelaySocket) :
    RelaySocket × RelaySocket :=
  onProxyUpgrade switching head upstreamHead client upstream

def onUpgrade (kind : RelayKind) (switching head upstreamHead : Buffer)
    (client upstream : RelaySocket) : RelaySocket × RelaySocket :=
  match kind with
  | .machineIngress => onMachineUpgrade switching head upstreamHead client upstream
  | .routeProxy => onProxyUpgrade switching head upstreamHead client upstream
  | .routeIngress => onIngressUpgrade switching head upstreamHead client upstream

/-- What happens to a relay: the 101 of the upstream with the bytes behind it, bytes that are read
from either side, the sending of queued bytes, and the end of either side. -/
inductive RelayEvent
  | upgrade (upstreamHead : Buffer)
  | clientData (bytes : Buffer)
  | upstreamData (bytes : Buffer)
  | clientDrain (n : ℕ)
  | upstreamDrain (n : ℕ)
  | clientEnd
  | upstreamEnd
  | closed
  deriving DecidableEq

namespace Relay

/-- The cleanup of a closed side. -/
def destroyBoth (r : Relay) : Relay :=
  { r with client := r.client.destroy, upstream := r.upstream.destroy }

/-- The handlers of `end`: all but the machine ingress destroy both sockets. -/
def onEnd (kind : RelayKind) (r : Relay) : Relay :=
  match kind with
  | .machineIngress => r
  | .routeProxy | .routeIngress => r.destroyBoth

def step (kind : RelayKind) (switching head : Buffer) (r : Relay) : RelayEvent → Relay
  | .upgrade upstreamHead =>
    if r.upgraded then r
    else
      let (client, upstream) := onUpgrade kind switching head upstreamHead r.client r.upstream
      -- `pipe` reads first what the client has sent in the meantime.
      { r with client, upstream := upstream.write r.unread, unread := [], upgraded := true,
               upstreamHead }
  | .clientData bytes =>
    if r.clientEnded || r.client.destroyed then r
    else if !r.upgraded then
      { r with unread := r.unread ++ bytes, clientBytes := r.clientBytes ++ bytes }
    else { r with upstream := r.upstream.write bytes, clientBytes := r.clientBytes ++ bytes }
  | .upstreamData bytes =>
    if !r.upgraded || r.upstreamEnded || r.upstream.destroyed then r
    else { r with client := r.client.write bytes, upstreamBytes := r.upstreamBytes ++ bytes }
  | .clientDrain n => { r with client := r.client.drain n }
  | .upstreamDrain n => { r with upstream := r.upstream.drain n }
  | .clientEnd =>
    if !r.upgraded || r.clientEnded then r
    else onEnd kind { r with clientEnded := true, upstream := r.upstream.finish }
  | .upstreamEnd =>
    if !r.upgraded || r.upstreamEnded then r
    -- `pipe` ends the client; the upstream socket is not half-open and ends with its peer.
    else
      onEnd kind { r with upstreamEnded := true, client := r.client.finish,
                          upstream := r.upstream.finish }
  | .closed => if r.upgraded then r.destroyBoth else r

def run (kind : RelayKind) (switching head : Buffer) (events : List RelayEvent) : Relay :=
  runFrom (step kind switching head) (initial kind head) events

/-- After the 101 the client is handed the 101 and then the bytes of the upstream, the upstream the
bytes of the client. -/
structure Transparent (switching head : Buffer) (r : Relay) : Prop where
  client : r.upgraded = true → r.client.handed = switching ++ (r.upstreamHead ++ r.upstreamBytes)
  upstream : r.upgraded = true → r.upstream.handed = head ++ r.clientBytes

/-- What keeps the relay transparent: the machine ingress has no head of the client without one of
the upstream, nothing queued is destroyed, and no bytes are read for a side that has ended. -/
def Clean (kind : RelayKind) (head : Buffer) (r : Relay) : RelayEvent → Prop
  | .upgrade upstreamHead => kind = .machineIngress → upstreamHead ≠ [] ∨ head = []
  | .clientData _ => r.upstreamEnded = false
  | .clientEnd | .upstreamEnd =>
    kind ≠ .machineIngress → r.client.queued = [] ∧ r.upstream.queued = []
  | .closed => r.client.queued = [] ∧ r.upstream.queued = []
  | .upstreamData _ | .clientDrain _ | .upstreamDrain _ => True

end Relay

/-! ### Sockets and what they are handed -/

namespace RelaySocket

variable {s : RelaySocket}

theorem handed_write (h : s.ended = false) (h' : s.destroyed = false) (bytes : Buffer) :
    (s.write bytes).handed = s.handed ++ bytes := by
  rw [write, h, h', if_neg (by decide), handed, handed, List.append_assoc]

/-- Nothing is written where there are no bytes. -/
theorem write_nil (s : RelaySocket) : s.write [] = s := by
  rw [write, List.append_nil, ite_self]

theorem write_of_length (s : RelaySocket) (bytes : Buffer) :
    (if 0 < bytes.length then s.write bytes else s) = s.write bytes := by
  cases bytes with
  | nil => rw [if_neg (by decide), write_nil]
  | cons b rest => exact if_pos (Nat.succ_pos _)

@[simp] theorem write_ended (s : RelaySocket) (bytes : Buffer) :
    (s.write bytes).ended = s.ended := by
  rw [write]
  split_ifs <;> rfl

@[simp] theorem write_destroyed (s : RelaySocket) (bytes : Buffer) :
    (s.write bytes).destroyed = s.destroyed := by
  rw [write]
  split_ifs <;> rfl

theorem handed_drain (s : RelaySocket) (n : ℕ) : (s.drain n).handed = s.handed := by
  rw [drain, handed, handed, List.append_assoc, List.take_append_drop]

theorem handed_destroy (h : s.queued = []) : s.destroy.handed = s.handed := by
  rw [destroy, handed, handed, h]

end RelaySocket

/-! ### The early bytes -/

namespace Relay

open RelaySocket

variable {kind : RelayKind} {switching head : Buffer} {r : Relay}

theorem onProxyUpgrade_eq (upstreamHead : Buffer) (client upstream : RelaySocket) :
    onProxyUpgrade switching head upstreamHead client upstream =
      ((client.write switching).write upstreamHead, upstream.write head) := by
  rw [onProxyUpgrade, write_of_length, write_of_length]

theorem onMachineUpgrade_eq (upstreamHead : Buffer) (client upstream : RelaySocket) :
    onMachineUpgrade switching head upstreamHead client upstream =
      ((client.write switching).write (if 0 < upstreamHead.length then upstreamHead else head),
        upstream) := by
  rw [onMachineUpgrade, write_of_length]

/-- A relay that waits for the 101. -/
structure Waiting (kind : RelayKind) (head : Buffer) (r : Relay) : Prop where
  upgraded : r.upgraded = false
  client : r.client = {}
  upstream : r.upstream.handed = (if kind = .machineIngress then head else []) ∧
    r.upstream.ended = false ∧ r.upstream.destroyed = false
  unread : r.unread = r.clientBytes
  upstreamBytes : r.upstreamBytes = []
  ends : r.clientEnded = false ∧ r.upstreamEnded = false

theorem waiting_initial (kind : RelayKind) (head : Buffer) :
    Waiting kind head (initial kind head) := by
  refine ⟨rfl, rfl, ?_, rfl, rfl, rfl, rfl⟩
  cases kind with
  | machineIngress => exact ⟨handed_write rfl rfl head, write_ended _ _, write_destroyed _ _⟩
  | routeProxy => exact ⟨rfl, rfl, rfl⟩
  | routeIngress => exact ⟨rfl, rfl, rfl⟩

/-- The early bytes that a handler writes to the client. -/
def earlyBytes (kind : RelayKind) (head upstreamHead : Buffer) : Buffer :=
  if kind = .machineIngress ∧ upstreamHead = [] then head else upstreamHead

/-- Whatever the handler, the upstream has its head and then what was not read, and the client the
101 and the early bytes. -/
theorem step_upgrade (h : Waiting kind head r) (upstreamHead : Buffer) :
    step kind switching head r (.upgrade upstreamHead) =
      { r with client := (r.client.write switching).write (earlyBytes kind head upstreamHead),
               upstream := (if kind = .machineIngress then r.upstream else
                 r.upstream.write head).write r.unread,
               unread := [], upgraded := true, upstreamHead } := by
  rw [step, h.upgraded, if_neg Bool.false_ne_true]
  cases kind with
  | machineIngress =>
    rw [onUpgrade, onMachineUpgrade_eq, if_pos rfl, earlyBytes]
    cases upstreamHead with
    | nil => rfl
    | cons b rest => rfl
  | routeProxy =>
    rw [onUpgrade, onProxyUpgrade_eq, if_neg (by decide), earlyBytes, if_neg (by simp)]
  | routeIngress =>
    rw [onUpgrade, onIngressUpgrade, onProxyUpgrade_eq, if_neg (by decide), earlyBytes,
      if_neg (by simp)]

/-- A relay whose sockets are piped. -/
structure Piped (switching head : Buffer) (r : Relay) : Prop
    extends Transparent switching head r where
  upgraded : r.upgraded = true
  client_ended : r.client.ended = true → r.upstreamEnded = true
  upstream_ended : r.upstream.ended = true → r.clientEnded = true ∨ r.upstreamEnded = true
  destroyed : r.client.destroyed = r.upstream.destroyed

/-- The upgrade pipes the sockets, with the early bytes behind the 101. -/
theorem upgrade_handed (h : Waiting kind head r) (upstreamHead : Buffer) :
    (step kind switching head r (.upgrade upstreamHead)).client.handed =
        switching ++ earlyBytes kind head upstreamHead ∧
      (step kind switching head r (.upgrade upstreamHead)).upstream.handed =
        head ++ (step kind switching head r (.upgrade upstreamHead)).clientBytes := by
  obtain ⟨hhanded, hended, hdestroyed⟩ := h.upstream
  rw [step_upgrade h]
  constructor
  · rw [h.client, handed_write (by simp) (by simp), handed_write rfl rfl]
    rfl
  · show RelaySocket.handed _ = head ++ r.clientBytes
    by_cases hkind : kind = .machineIngress
    · rw [if_pos hkind, handed_write hended hdestroyed, hhanded, if_pos hkind, h.unread]
    · rw [if_neg hkind, handed_write (by simpa using hended) (by simpa using hdestroyed),
        handed_write hended hdestroyed, hhanded, if_neg hkind, List.nil_append, h.unread]

/-- The early bytes go to the right side, unless the machine ingress has a head of the client and
none of the upstream. -/
theorem upgrade_transparent_iff (h : Waiting kind head r) (upstreamHead : Buffer) :
    Transparent switching head (step kind switching head r (.upgrade upstreamHead)) ↔
      (kind = .machineIngress → upstreamHead ≠ [] ∨ head = []) := by
  obtain ⟨hclient, hupstream⟩ := @upgrade_handed kind switching head r h upstreamHead
  have hearly : earlyBytes kind head upstreamHead = upstreamHead ↔
      (kind = .machineIngress → upstreamHead ≠ [] ∨ head = []) := by
    rw [earlyBytes]
    by_cases hkind : kind = .machineIngress
    · by_cases hhead : upstreamHead = []
      · simp [hkind, hhead]
      · simp [hhead]
    · simp [hkind]
  rw [← hearly]
  have hupgraded : (step kind switching head r (.upgrade upstreamHead)).upgraded = true := by
    rw [step_upgrade h]
  have hbytes : (step kind switching head r (.upgrade upstreamHead)).upstreamHead ++
      (step kind switching head r (.upgrade upstreamHead)).upstreamBytes = upstreamHead := by
    rw [step_upgrade h]
    show upstreamHead ++ r.upstreamBytes = upstreamHead
    rw [h.upstreamBytes, List.append_nil]
  constructor
  · intro htransparent
    have heq := htransparent.client hupgraded
    rw [hclient, hbytes] at heq
    exact List.append_cancel_left heq
  · intro heq
    refine ⟨fun _ => ?_, fun _ => hupstream⟩
    rw [hclient, hbytes, heq]

/-! ### Runs -/

theorem piped_upgrade (h : Waiting kind head r) {upstreamHead : Buffer}
    (hclean : Clean kind head r (.upgrade upstreamHead)) :
    Piped switching head (step kind switching head r (.upgrade upstreamHead)) := by
  refine ⟨(upgrade_transparent_iff h upstreamHead).mpr hclean, ?_, ?_, ?_, ?_⟩
  all_goals rw [step_upgrade h]
  · intro hended
    simp [h.client] at hended
  · intro hended
    by_cases hkind : kind = .machineIngress <;> simp [hkind, h.upstream.2.1] at hended
  · by_cases hkind : kind = .machineIngress <;> simp [hkind, h.client, h.upstream.2.2]

/-- Destroying two sockets that have sent everything loses nothing. -/
theorem piped_destroyBoth (h : Piped switching head r) (hclient : r.client.queued = [])
    (hupstream : r.upstream.queued = []) : Piped switching head r.destroyBoth where
  client _ := (handed_destroy hclient).trans (h.client h.upgraded)
  upstream _ := (handed_destroy hupstream).trans (h.upstream h.upgraded)
  upgraded := h.upgraded
  client_ended := h.client_ended
  upstream_ended := h.upstream_ended
  destroyed := rfl

theorem piped_onEnd (h : Piped switching head r)
    (hclean : kind ≠ .machineIngress → r.client.queued = [] ∧ r.upstream.queued = []) :
    Piped switching head (onEnd kind r) := by
  cases kind with
  | machineIngress => exact h
  | routeProxy =>
    obtain ⟨hclient, hupstream⟩ := hclean (by decide)
    exact piped_destroyBoth h hclient hupstream
  | routeIngress =>
    obtain ⟨hclient, hupstream⟩ := hclean (by decide)
    exact piped_destroyBoth h hclient hupstream

theorem piped_step (h : Piped switching head r) {event : RelayEvent}
    (hclean : Clean kind head r event) :
    Piped switching head (step kind switching head r event) := by
  have hupgraded := h.upgraded
  cases event with
  | upgrade upstreamHead =>
    rw [step, if_pos hupgraded]
    exact h
  | clientData bytes =>
    have hopen : r.upstreamEnded = false := hclean
    rw [step, hupgraded, if_neg (by decide : ¬(!true) = true)]
    by_cases hclosed : (r.clientEnded || r.client.destroyed) = true
    · rw [if_pos hclosed]
      exact h
    · rw [if_neg hclosed]
      simp only [Bool.or_eq_true, not_or, Bool.not_eq_true] at hclosed
      obtain ⟨hended, hdestroyed⟩ := hclosed
      have hwritable : r.upstream.ended = false := by
        by_contra hfinished
        have := h.upstream_ended (by simpa using hfinished)
        simp [hended, hopen] at this
      refine ⟨⟨fun _ => h.client hupgraded, fun _ => ?_⟩, rfl, h.client_ended, ?_, ?_⟩
      · rw [handed_write hwritable (h.destroyed ▸ hdestroyed), h.upstream hupgraded,
          List.append_assoc]
      · intro hfinished
        rw [write_ended] at hfinished
        exact h.upstream_ended hfinished
      · rw [write_destroyed]
        exact h.destroyed
  | upstreamData bytes =>
    rw [step, hupgraded]
    by_cases hclosed : (!true || r.upstreamEnded || r.upstream.destroyed) = true
    · rw [if_pos hclosed]
      exact h
    · rw [if_neg hclosed]
      simp only [Bool.not_true, Bool.false_or, Bool.or_eq_true, not_or, Bool.not_eq_true]
        at hclosed
      obtain ⟨hended, hdestroyed⟩ := hclosed
      have hwritable : r.client.ended = false := by
        by_contra hfinished
        have := h.client_ended (by simpa using hfinished)
        simp [hended] at this
      refine ⟨⟨fun _ => ?_, fun _ => h.upstream hupgraded⟩, rfl, ?_, h.upstream_ended, ?_⟩
      · rw [handed_write hwritable (h.destroyed.trans hdestroyed), h.client hupgraded]
        simp only [List.append_assoc]
      · intro hfinished
        rw [write_ended] at hfinished
        exact h.client_ended hfinished
      · rw [write_destroyed]
        exact h.destroyed
  | clientDrain n =>
    refine ⟨⟨fun _ => ?_, h.upstream⟩, hupgraded, h.client_ended, h.upstream_ended, h.destroyed⟩
    exact (handed_drain _ n).trans (h.client hupgraded)
  | upstreamDrain n =>
    refine ⟨⟨h.client, fun _ => ?_⟩, hupgraded, h.client_ended, h.upstream_ended, h.destroyed⟩
    exact (handed_drain _ n).trans (h.upstream hupgraded)
  | clientEnd =>
    rw [step]
    by_cases hended : (!r.upgraded || r.clientEnded) = true
    · rw [if_pos hended]
      exact h
    · rw [if_neg hended]
      have hpiped : Piped switching head
          { r with clientEnded := true, upstream := r.upstream.finish } :=
        ⟨⟨h.client, h.upstream⟩, hupgraded, h.client_ended, fun _ => .inl rfl, h.destroyed⟩
      exact piped_onEnd hpiped hclean
  | upstreamEnd =>
    rw [step]
    by_cases hended : (!r.upgraded || r.upstreamEnded) = true
    · rw [if_pos hended]
      exact h
    · rw [if_neg hended]
      have hpiped : Piped switching head
          { r with upstreamEnded := true, client := r.client.finish,
                   upstream := r.upstream.finish } :=
        ⟨⟨h.client, h.upstream⟩, hupgraded, fun _ => rfl, fun _ => .inr rfl, h.destroyed⟩
      exact piped_onEnd hpiped hclean
  | closed =>
    obtain ⟨hclient, hupstream⟩ := hclean
    rw [step, if_pos hupgraded]
    exact piped_destroyBoth h hclient hupstream

/-- Until the 101 nothing but the reading of the client and the sending of its head goes on. -/
theorem waiting_step (h : Waiting kind head r) {event : RelayEvent}
    (hevent : ∀ upstreamHead, event ≠ .upgrade upstreamHead) :
    Waiting kind head (step kind switching head r event) := by
  have hwaits : r.upgraded = false := h.upgraded
  obtain ⟨hhanded, hended, hdestroyed⟩ := h.upstream
  cases event with
  | upgrade upstreamHead => exact absurd rfl (hevent upstreamHead)
  | clientData bytes =>
    rw [step, hwaits, h.ends.1, h.client, if_neg (by decide), if_pos (by decide)]
    exact ⟨rfl, rfl, h.upstream, congrArg (· ++ bytes) h.unread, h.upstreamBytes, rfl, h.ends.2⟩
  | upstreamData bytes =>
    have hignored : (!r.upgraded || r.upstreamEnded || r.upstream.destroyed) = true := by
      rw [hwaits]
      rfl
    rw [step, if_pos hignored]
    exact h
  | clientDrain n =>
    rw [step, h.client]
    refine ⟨hwaits, ?_, h.upstream, h.unread, h.upstreamBytes, h.ends⟩
    simp [RelaySocket.drain]
  | upstreamDrain n =>
    rw [step]
    exact ⟨hwaits, h.client, ⟨(handed_drain _ n).trans hhanded, hended, hdestroyed⟩, h.unread,
      h.upstreamBytes, h.ends⟩
  | clientEnd =>
    have hignored : (!r.upgraded || r.clientEnded) = true := by
      rw [hwaits]
      rfl
    rw [step, if_pos hignored]
    exact h
  | upstreamEnd =>
    have hignored : (!r.upgraded || r.upstreamEnded) = true := by
      rw [hwaits]
      rfl
    rw [step, if_pos hignored]
    exact h
  | closed =>
    rw [step, hwaits, if_neg Bool.false_ne_true]
    exact h

theorem step_invariant (h : Waiting kind head r ∨ Piped switching head r) {event : RelayEvent}
    (hclean : Clean kind head r event) :
    Waiting kind head (step kind switching head r event) ∨
      Piped switching head (step kind switching head r event) := by
  obtain hwaits | hpiped := h
  · by_cases hevent : ∃ upstreamHead, event = .upgrade upstreamHead
    · obtain ⟨upstreamHead, rfl⟩ := hevent
      exact .inr (piped_upgrade hwaits hclean)
    · exact .inl (waiting_step hwaits fun upstreamHead heq => hevent ⟨upstreamHead, heq⟩)
  · exact .inr (piped_step hpiped hclean)

/-- In every run whose steps are clean, each side is handed the bytes of the other, each once and
in order. -/
theorem transparent_run (kind : RelayKind) (switching head : Buffer) (events : List RelayEvent)
    (hclean : EachStep (step kind switching head) (Clean kind head) (initial kind head) events) :
    Transparent switching head (run kind switching head events) := by
  have hinvariant : Waiting kind head (run kind switching head events) ∨
      Piped switching head (run kind switching head events) :=
    runFrom_invariant (I := fun r => Waiting kind head r ∨ Piped switching head r)
      (fun _ _ h hstep => step_invariant h hstep) (.inl (waiting_initial kind head)) hclean
  obtain hwaits | hpiped := hinvariant
  · constructor
    · intro hupgraded
      simp [hwaits.upgraded] at hupgraded
    · intro hupgraded
      simp [hwaits.upgraded] at hupgraded
  · exact hpiped.toTransparent

theorem transparent_run_proxy :
    Transparent [48] [1] (run .routeProxy [48] [1]
      [.clientData [2], .upgrade [3], .upstreamData [4], .clientData [5]]) :=
  transparent_run .routeProxy [48] [1]
    [.clientData [2], .upgrade [3], .upstreamData [4], .clientData [5]]
    (by simp [EachStep, Clean, step, initial, onUpgrade, onProxyUpgrade])

/-- A client of the machine ingress that speaks before the upstream is sent its own bytes. -/
theorem head_sent_back :
    (run .machineIngress [48] [1, 2] [.upgrade []]).client.handed = [48, 1, 2] ∧
      (run .machineIngress [48] [1, 2] [.upgrade []]).upstream.handed = [1, 2] ∧
      ¬ Transparent [48] [1, 2] (run .machineIngress [48] [1, 2] [.upgrade []]) := by
  refine ⟨by decide, by decide, fun htransparent => ?_⟩
  have hclient := htransparent.client (by decide)
  revert hclient
  decide

end Relay

end DshOrbit.UpgradeRelay
