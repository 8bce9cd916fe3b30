import DshOrbit.Registry.Deletions
import DshOrbit.Registry.SharedKeys
import DshOrbit.ReverseHub.Credentials

/-!
# The registry and the connections of a Hub

The server (`registry/server.mjs`) lets a reverse connection in when the registry authenticates its
upgrade, and takes nothing of that back later on: what keeps a connection from outliving its
credential are the hooks that the registry calls when a node is deleted and when the overlap of a
rotated key ends. Calls of the registry, upgrades and what happens on the connections come in any
order.

## Main definitions

- `Server` — the registry and the managers of the Hub
- `ServerEvent`, `Server.step` — what can happen, in any order
- `Authorized` — what is promised of a run

## Main results

- `live_step` — a call that closes no connection of a credential leaves it active
- `connections_authorized`
-/

namespace DshOrbit.HubServer

open DshOrbit.Lib DshOrbit.Protocol DshOrbit.ReverseWs DshOrbit.Registry DshOrbit.ReverseHub

/-! ### The server -/

/-- What a server is started with. -/
structure ServerSettings (Flows : Type*) where
  env : Env
  maxChannels : ℕ
  capacityWaitMs : ℤ
  flows : Flows
  closeFlow : Flows → RequestId → String → Flows
  parseJson : Message → Option Json

structure Server (Flows : Type*) where
  registry : RegistryState
  hub : Hub Flows

/-- The surfaces of `REVERSE_UPGRADE_PATHS`. -/
inductive ReverseSurface
  | control
  | channel
  deriving DecidableEq

def ReverseSurface.path : ReverseSurface → String
  | .control => "/api/v1/reverse/control"
  | .channel => "/api/v1/reverse/channel"

/-- An upgrade request of a node, with the machine fields of its headers, the session that it names
and the bytes behind it. A text that names no session of the Hub counts as none. -/
structure ReverseUpgrade where
  surface : ReverseSurface
  nodeId : Option String
  keyId : Option String
  timestamp : Option String
  nonce : Option String
  signature : Option String
  boundSession : Option SessionId
  head : Buffer

/-- What is authenticated of an upgrade: a `GET` with an empty body. -/
def ReverseUpgrade.request (env : Env) (upgrade : ReverseUpgrade) : MachineRequest where
  nodeId := upgrade.nodeId
  keyId := upgrade.keyId
  method := "GET"
  path := upgrade.surface.path
  timestamp := upgrade.timestamp
  nonce := upgrade.nonce
  bodyHash := sha256Hex env.crypto []
  signature := upgrade.signature

/-- What happens on a control connection, or to one of its timers. -/
inductive ConnectionEvent
  | data (id : SessionId) (chunk : Buffer)
  | socketClosed (id : SessionId) (reason : String)
  | readyTimeout (id : SessionId)
  | pingTick (id : SessionId)
  | pongTimeout (id : SessionId)

def ConnectionEvent.sessionEvent : ConnectionEvent → SessionEvent
  | .data id chunk => .data id chunk
  | .socketClosed id reason => .socketClosed id reason
  | .readyTimeout id => .readyTimeout id
  | .pingTick id => .pingTick id
  | .pongTimeout id => .pongTimeout id

/-- What happens at a server: a call of the registry, an upgrade, the `disconnect` of an operator,
and whatever its connections and the requests that use them do. -/
inductive ServerEvent (Flows : Type*)
  | call (call : Call)
  | reverseUpgrade (upgrade : ReverseUpgrade) (clock : Clock) (entropy : Entropy)
  | connection (event : ConnectionEvent)
  | disconnect (nodeId : String)
  | acquireChannel (nodeId : String) (sessionId : Option SessionId) (now : Readings)
  | channel (event : ChannelEvent Flows)

namespace Server

variable {Flows : Type*} (settings : ServerSettings Flows)

/-- A Hub without connections. -/
def freshHub : Hub Flows :=
  .initial settings.maxChannels settings.capacityWaitMs settings.flows

def initial : Server Flows := ⟨{}, freshHub settings⟩

/-- `onNodeCredentialRevoked`, once for every credential. -/
def closeRevoked (h : Hub Flows) (revoked : List RevokedCredential) : Hub Flows :=
  revoked.foldl (fun h entry =>
    Hub.onNodeCredentialRevoked settings.closeFlow h entry.nodeId entry.keyId entry.reason) h

/-- The lifecycle hooks of a call. A restarted server has no connections. -/
def afterCall (s : Server Flows) (call : Call) : Hub Flows :=
  match call.operation with
  | .deleteNode req =>
    match deleteNode call.clock s.registry req with
    | .ok (result, _) =>
      if result.idempotentReplay then s.hub
      else
        Hub.onNodeDeleted settings.closeFlow s.hub result.nodeId (req.reason.getD "node-deleted")
    | .error _ => s.hub
  | .maintenance =>
    closeRevoked settings s.hub (maintenance settings.env.config call.clock s.registry.db).1
  | .restart => freshHub settings
  | _ => s.hub

/-- An upgrade that was authenticated. -/
def upgradeHub (h : Hub Flows) (upgrade : ReverseUpgrade) (nodeId keyId : String) : Hub Flows :=
  match upgrade.surface with
  | .control =>
    ReverseSessionManager.registerUpgrade (Hub.onSessionClosed settings.closeFlow)
      settings.parseJson h nodeId keyId upgrade.head
  | .channel =>
    match upgrade.boundSession with
    | none => h
    | some boundSession => Hub.channelUpgrade h nodeId keyId boundSession

/-- `handleReverseMachineUpgrade`. -/
def handleReverseMachineUpgrade (s : Server Flows) (upgrade : ReverseUpgrade) (clock : Clock)
    (entropy : Entropy) : Server Flows where
  registry := Registry.step settings.env s.registry
    ⟨.machine (upgrade.request settings.env) .nothing, clock, entropy⟩
  hub :=
    match authenticateMachine settings.env clock s.registry.db (upgrade.request settings.env) with
    | .error _ => s.hub
    | .ok (node, key, _) => upgradeHub settings s.hub upgrade node.nodeId key.keyId

/-- One event. What may close sessions is a task of its own, and the event loop takes one up only
when every request whose promise is settled has gone on. -/
def step (s : Server Flows) : ServerEvent Flows → Server Flows
  | .call call =>
    if s.hub.world.quiet then
      ⟨Registry.step settings.env s.registry call, afterCall settings s call⟩
    else s
  | .reverseUpgrade upgrade clock entropy =>
    if s.hub.world.quiet then handleReverseMachineUpgrade settings s upgrade clock entropy else s
  | .connection event =>
    if s.hub.world.quiet then
      { s with
        hub := ReverseSessionManager.step (Hub.onSessionClosed settings.closeFlow)
          settings.parseJson s.hub event.sessionEvent }
    else s
  | .disconnect nodeId =>
    if s.hub.world.quiet ∧ (s.registry.db.getNodeRow nodeId).isSome then
      { s with hub := Hub.onNodeDeleted settings.closeFlow s.hub nodeId "operator-disconnect" }
    else s
  | .acquireChannel nodeId sessionId now =>
    { s with hub := Hub.acquireChannel s.hub nodeId sessionId now }
  | .channel event =>
    { s with hub := { s.hub with world := s.hub.world.step settings.closeFlow event } }

/-- The server after a list of events. -/
def run (s : Server Flows) (events : List (ServerEvent Flows)) : Server Flows :=
  runFrom (step settings) s events

end Server

/-! ### Credentials in the registry -/

/-- The registry has the key of the node, and it is not revoked. -/
def Live (db : Db) (nodeId keyId : String) : Prop :=
  ∃ key ∈ db.nodeKeys, key.nodeId = nodeId ∧ key.keyId = keyId ∧ key.state = .active

/-- The call revokes the credential at the end of its overlap. -/
def Expires (s : RegistryState) (call : Call) (nodeId keyId : String) : Prop :=
  call.operation = .maintenance ∧
    ∃ ended ∈ endedNodeKeys s.db (call.clock 1), ended.nodeId = nodeId ∧ ended.keyId = keyId

variable {env : Env} {calls : List Call} {call : Call} {nodeId keyId : String}

/-- The node of an active key is an active member. -/
theorem active_of_live {key : NodeKeyRow} (hkey : key ∈ (Registry.run env {} calls).db.nodeKeys)
    (hactive : key.state = .active) :
    ∃ node, (Registry.run env {} calls).db.getNodeRow key.nodeId = some node ∧
      node.state = .active := by
  have hmember : (key.nodeId, NodeState.active) ∈ (Registry.run env {} calls).db.ledger.members :=
    run_nodeKeysLive env calls key hkey (by simp [hactive])
  exact Db.getNodeRow_of_member (run_routeKeysSound env calls).members_nodup hmember

/-- A call that neither deletes the node nor ends the overlap of a key keeps the key, with its end
unless the node rotates. -/
theorem live_step_key {key : NodeKeyRow} (hkey : key ∈ (Registry.run env {} calls).db.nodeKeys)
    (hactive : key.state = .active) (herases : ¬Erases (Registry.run env {} calls) call key.nodeId)
    (hexpires : ¬Expires (Registry.run env {} calls) call key.nodeId key.keyId) :
    ∃ key' ∈ (Registry.step env (Registry.run env {} calls) call).db.nodeKeys,
      key'.nodeId = key.nodeId ∧ key'.keyId = key.keyId ∧ key'.state = .active ∧
      (call.operation = .maintenance → key' = key) := by
  obtain ⟨node, hnode, hmember⟩ := active_of_live hkey hactive
  have hstep : Keyring.Step env (Registry.run env {} calls) call node
      ((Registry.run env {} calls).db.keyring key.nodeId)
      ((Registry.step env (Registry.run env {} calls) call).db.keyring key.nodeId) :=
    step_keyring env (Registry.run env {} calls) call key.nodeId node hnode
  have hmem := mem_keyring.mpr ⟨hkey, rfl⟩
  have hsame := Db.nodeId_of_getNodeRow hnode
  generalize hafter : (Registry.step env (Registry.run env {} calls) call).db.keyring key.nodeId =
    after at hstep
  generalize (Registry.run env {} calls).db.keyring key.nodeId = before at hstep hmem
  have hfound {key' : NodeKeyRow} (hkey' : key' ∈ after.nodeKeys) :
      key' ∈ (Registry.step env (Registry.run env {} calls) call).db.nodeKeys := by
    rw [← hafter] at hkey'
    exact (mem_keyring.mp hkey').1
  cases hstep with
  | kept => exact ⟨key, hfound hmem, rfl, rfl, hactive, fun _ => rfl⟩
  | route routeKeys hstate => exact ⟨key, hfound hmem, rfl, rfl, hactive, fun _ => rfl⟩
  | rotate old new hrotation =>
    obtain ⟨req, body, db, hcall, -⟩ := hrotation.request
    have hnot : call.operation ≠ .maintenance := by simp [hcall]
    by_cases hold : key.keyId = old.keyId
    · exact ⟨_, hfound (List.mem_append_left _ (mem_updateWhere.mpr
        (.inr ⟨key, hmem, decide_eq_true hold, rfl⟩))), rfl, rfl, hactive, fun h => absurd h hnot⟩
    · exact ⟨key, hfound (List.mem_append_left _ (mem_updateWhere.mpr
        (.inl ⟨hmem, decide_eq_false hold⟩))), rfl, rfl, hactive, fun h => absurd h hnot⟩
  | restore historical new routeKeys hrestoration htombstoned =>
    rw [hmember] at htombstoned
    cases htombstoned
  | delete hdeletes hstate =>
    obtain ⟨req, hcall, hreq⟩ := hdeletes
    rw [hsame] at hreq
    cases hresult : deleteNode call.clock (Registry.run env {} calls) req with
    | error fault =>
      refine ⟨key, ?_, rfl, rfl, hactive, fun _ => rfl⟩
      simpa [Registry.step, hcall, hresult, commitState] using hkey
    | ok result =>
      rcases deleteNode_ok hresult with ⟨-, hreplay⟩ | ⟨_, _, _, -, -, -, hfirst, -⟩
      · refine ⟨key, ?_, rfl, rfl, hactive, fun _ => rfl⟩
        simpa [Registry.step, hcall, hresult, commitState, hreplay] using hkey
      · exact absurd ⟨req, result, hcall, hreq, hresult, hfirst⟩ herases
  | expire f g n hcall hf hg =>
    rcases hf key with heq | ⟨ended, hended, hid, hstate, hpassed, -⟩
    · exact ⟨key, hfound (List.mem_map.mpr ⟨key, hmem, heq⟩), rfl, rfl, hactive, fun _ => rfl⟩
    · rw [NodeKeyRow.isKey, decide_eq_true_eq] at hid
      refine absurd ⟨hcall, ended, ?_, hid⟩ hexpires
      exact List.mem_filter.mpr ⟨hended, decide_eq_true ⟨hstate, hpassed⟩⟩

/-- A call that closes no connection of a credential leaves it active. -/
theorem live_step (h : Live (Registry.run env {} calls).db nodeId keyId)
    (herases : ¬Erases (Registry.run env {} calls) call nodeId)
    (hexpires : ¬Expires (Registry.run env {} calls) call nodeId keyId) :
    Live (Registry.step env (Registry.run env {} calls) call).db nodeId keyId := by
  obtain ⟨key, hkey, rfl, rfl, hactive⟩ := h
  obtain ⟨key', hkey', hnode, hid, hactive', -⟩ := live_step_key hkey hactive herases hexpires
  exact ⟨key', hkey', hnode, hid, hactive'⟩

/-- A deletion answers with the node that it was asked for. -/
theorem nodeId_of_deleteNode {clock : Clock} {s s' : RegistryState} {req : DeleteRequest}
    {result : DeleteResult} (h : deleteNode clock s req = .ok (result, s'))
    (hreq : req.nodeId = some nodeId) : nodeId = result.nodeId := by
  obtain ⟨moved, hmoved, h⟩ := bind_eq_ok.mp h
  obtain ⟨requestId, -, h⟩ := bind_eq_ok.mp h
  obtain ⟨reason, -, h⟩ := bind_eq_ok.mp h
  obtain rfl : nodeId = moved := Option.some.inj (hreq.symm.trans (requireString_eq_ok.mp hmoved).1)
  split_ifs at h
  · cases h
  · split at h
    · cases h
    · split at h
      · split_ifs at h
        · exact congrArg DeleteResult.nodeId (Prod.mk.inj (Except.ok.inj h)).1
        · cases h
      · split_ifs at h
        · cases h
        · exact congrArg DeleteResult.nodeId (Prod.mk.inj (Except.ok.inj h)).1

/-! ### Connections -/

namespace Server

variable {Flows : Type*} {settings : ServerSettings Flows} {s : Server Flows}

/-- A session or a channel is open that was authenticated with the key of the node. -/
def Connected (h : Hub Flows) (nodeId keyId : String) : Prop :=
  (∃ id, (h.session id).closed = false ∧ (h.session id).nodeId = nodeId ∧
      (h.session id).keyId = keyId) ∨
    ∃ c, (h.world.channel c).closed = false ∧ (h.world.channel c).nodeId = nodeId ∧
      (h.world.channel c).keyId = keyId

theorem connected_of_held {P : String → String → Prop} {h : Hub Flows} (hheld : Hub.Held P h)
    (hconnected : Connected h nodeId keyId) : P nodeId keyId := by
  rcases hconnected with ⟨id, hopen, rfl, rfl⟩ | ⟨c, hopen, rfl, rfl⟩
  · exact (hheld.session id hopen).1
  · exact hheld.channel c hopen

/-- What every run keeps: the registry is one that its calls lead to, and every connection has an
active key. -/
structure Sound (settings : ServerSettings Flows) (s : Server Flows) : Prop where
  registry : ∃ calls, s.registry = Registry.run settings.env {} calls
  held : Hub.Held (Live s.registry.db) s.hub

theorem sound_initial (settings : ServerSettings Flows) : Sound settings (initial settings) :=
  ⟨⟨[], rfl⟩, Hub.held_initial _ _ _⟩

/-- The hooks of the maintenance leave no connection of a credential that it revoked. -/
theorem held_closeRevoked {P : String → String → Prop} {h : Hub Flows} (hheld : Hub.Held P h)
    (hasleep : h.world.Asleep) (revoked : List RevokedCredential) :
    Hub.Held (fun nodeId keyId => P nodeId keyId ∧
        ∀ entry ∈ revoked, ¬(nodeId = entry.nodeId ∧ keyId = entry.keyId))
      (closeRevoked settings h revoked) := by
  induction revoked generalizing h P with
  | nil => exact hheld.mono fun _ _ hp => ⟨hp, fun _ hentry => (List.not_mem_nil hentry).elim⟩
  | cons entry rest ih =>
    obtain ⟨hclosed, hasleep'⟩ := @Hub.Held.onNodeCredentialRevoked _ settings.closeFlow _ _ hheld
      hasleep entry.nodeId entry.keyId entry.reason
    refine (ih hclosed hasleep').mono fun nodeId keyId hp => ⟨hp.1.1, ?_⟩
    intro other hother
    rcases List.mem_cons.mp hother with rfl | hrest
    · exact hp.1.2
    · exact hp.2 other hrest

/-- After the hooks of a call, no connection is open with a credential that the call took away. -/
theorem Sound.held_afterCall (h : Sound settings s) (hquiet : s.hub.world.quiet = true)
    (call : Call) :
    Hub.Held (fun nodeId keyId => Live s.registry.db nodeId keyId ∧
        ¬Erases s.registry call nodeId ∧ ¬Expires s.registry call nodeId keyId)
      (afterCall settings s call) := by
  have hasleep := h.held.ordered.world.queue.asleep hquiet
  obtain ⟨operation, clock, entropy⟩ := call
  have hother (hdelete : ∀ req, operation ≠ .deleteNode req)
      (hmaintenance : operation ≠ .maintenance) :
      Hub.Held (fun nodeId keyId => Live s.registry.db nodeId keyId ∧
        ¬Erases s.registry ⟨operation, clock, entropy⟩ nodeId ∧
        ¬Expires s.registry ⟨operation, clock, entropy⟩ nodeId keyId) s.hub := by
    refine h.held.mono fun nodeId keyId hlive => ⟨hlive, ?_, fun h => hmaintenance h.1⟩
    rintro ⟨req, result, hcall, -⟩
    exact hdelete req hcall
  cases operation with
  | deleteNode req =>
    have hexpires (nodeId keyId : String) :
        ¬Expires s.registry ⟨.deleteNode req, clock, entropy⟩ nodeId keyId :=
      fun hexpires => by cases hexpires.1
    have herases {nodeId : String}
        (herases : Erases s.registry ⟨.deleteNode req, clock, entropy⟩ nodeId) :
        ∃ result, req.nodeId = some nodeId ∧ deleteNode clock s.registry req = .ok result ∧
          result.1.idempotentReplay = false := by
      obtain ⟨req', result, hcall, hreq, hresult, hfirst⟩ := herases
      obtain rfl : req = req' := by simpa using hcall
      exact ⟨result, hreq, hresult, hfirst⟩
    simp only [afterCall]
    cases hresult : deleteNode clock s.registry req with
    | error fault =>
      refine h.held.mono fun nodeId keyId hlive => ⟨hlive, fun h => ?_, hexpires nodeId keyId⟩
      obtain ⟨result, -, hok, -⟩ := herases h
      rw [hresult] at hok
      cases hok
    | ok result =>
      obtain ⟨result, after⟩ := result
      dsimp only
      split_ifs with hreplay
      · refine h.held.mono fun nodeId keyId hlive => ⟨hlive, fun h => ?_, hexpires nodeId keyId⟩
        obtain ⟨result', -, hok, hfirst⟩ := herases h
        rw [hresult] at hok
        obtain rfl := Except.ok.inj hok
        rw [hreplay] at hfirst
        cases hfirst
      · refine (h.held.onNodeDeleted hquiet result.nodeId _).mono fun nodeId keyId hp =>
          ⟨hp.1, fun h => hp.2 ?_, hexpires nodeId keyId⟩
        obtain ⟨result', hreq, hok, -⟩ := herases h
        exact nodeId_of_deleteNode hresult hreq
  | maintenance =>
    refine (held_closeRevoked h.held hasleep _).mono fun nodeId keyId hp => ⟨hp.1, ?_, ?_⟩
    · rintro ⟨req, result, hcall, -⟩
      cases hcall
    · rintro ⟨-, ended, hended, rfl, rfl⟩
      exact hp.2 _ (List.mem_map.mpr ⟨ended, hended, rfl⟩) ⟨rfl, rfl⟩
  | restart => exact Hub.held_initial _ _ _
  | _ => exact hother (fun _ => nofun) nofun

theorem Sound.serve (h : Sound settings s) (hquiet : s.hub.world.quiet = true) (call : Call) :
    Sound settings ⟨Registry.step settings.env s.registry call, afterCall settings s call⟩ := by
  have hafter := h.held_afterCall hquiet call
  obtain ⟨calls, hcalls⟩ := h.registry
  refine ⟨⟨calls ++ [call], ?_⟩, hafter.mono fun nodeId keyId hp => ?_⟩
  · rw [run_append, ← hcalls]
    rfl
  · rw [hcalls] at hp ⊢
    exact live_step hp.1 hp.2.1 hp.2.2

/-- What is authenticated is signed with an active key. -/
theorem live_of_authenticateMachine {env : Env} {clock : Clock} {db db' : Db}
    {req : MachineRequest} {node : NodeRow} {key : NodeKeyRow}
    (h : authenticateMachine env clock db req = .ok (node, key, db')) :
    Live db node.nodeId key.keyId := by
  obtain ⟨fields, -, hchecked, -⟩ := authenticateMachine_ok h
  have hnode : node.nodeId = fields.nodeId := Db.nodeId_of_getNodeRow hchecked.node_eq
  obtain ⟨hmem, hid⟩ := Db.mem_of_getKeyRow hchecked.key_eq
  exact ⟨key, hmem, hid.1.trans hnode.symm, rfl, hchecked.accepted.1⟩

theorem held_upgradeHub {P : String → String → Prop} {h : Hub Flows} (hheld : Hub.Held P h)
    (hasleep : h.world.Asleep) (upgrade : ReverseUpgrade) (hp : P nodeId keyId) :
    Hub.Held P (upgradeHub settings h upgrade nodeId keyId) := by
  rw [upgradeHub]
  split
  · exact hheld.registerUpgrade hasleep hp upgrade.head
  · split
    · exact hheld
    · exact hheld.channelUpgrade hp _

theorem Sound.handleReverseMachineUpgrade (h : Sound settings s)
    (hquiet : s.hub.world.quiet = true) (upgrade : ReverseUpgrade) (clock : Clock)
    (entropy : Entropy) :
    Sound settings (handleReverseMachineUpgrade settings s upgrade clock entropy) := by
  let call : Call := ⟨.machine (upgrade.request settings.env) .nothing, clock, entropy⟩
  obtain ⟨calls, hcalls⟩ := h.registry
  have hkept (nodeId keyId : String) (hlive : Live s.registry.db nodeId keyId) :
      Live (Registry.step settings.env s.registry call).db nodeId keyId := by
    rw [hcalls] at hlive ⊢
    refine live_step hlive ?_ fun hexpires => by cases hexpires.1
    rintro ⟨req, result, hcall, -⟩
    cases hcall
  refine ⟨⟨calls ++ [call], ?_⟩, ?_⟩
  · rw [run_append, ← hcalls]
    rfl
  · have hheld : Hub.Held (Live (Registry.step settings.env s.registry call).db) s.hub :=
      h.held.mono hkept
    rw [Server.handleReverseMachineUpgrade]
    dsimp only
    split
    · exact hheld
    · rename_i node key db hauth
      exact held_upgradeHub hheld (h.held.ordered.world.queue.asleep hquiet) upgrade
        (hkept _ _ (live_of_authenticateMachine hauth))

/-- One event keeps every connection to an active key. -/
theorem Sound.step (h : Sound settings s) (event : ServerEvent Flows) :
    Sound settings (step settings s event) := by
  cases event with
  | call call =>
    rw [Server.step]
    split_ifs with hquiet
    · exact h.serve hquiet call
    · exact h
  | reverseUpgrade upgrade clock entropy =>
    rw [Server.step]
    split_ifs with hquiet
    · exact h.handleReverseMachineUpgrade hquiet upgrade clock entropy
    · exact h
  | connection event =>
    rw [Server.step]
    split_ifs with hquiet
    · refine ⟨h.registry, h.held.session_step (h.held.ordered.world.queue.asleep hquiet) ?_⟩
      cases event <;> exact fun _ _ _ => nofun
    · exact h
  | disconnect nodeId =>
    rw [Server.step]
    split_ifs with hquiet
    · exact ⟨h.registry, (h.held.onNodeDeleted hquiet.1 nodeId _).mono fun _ _ hp => hp.1⟩
    · exact h
  | acquireChannel nodeId sessionId now =>
    exact ⟨h.registry, h.held.acquireChannel nodeId sessionId now⟩
  | channel event => exact ⟨h.registry, h.held.channel_step event⟩

theorem run_sound (settings : ServerSettings Flows) (events : List (ServerEvent Flows)) :
    Sound settings (run settings (initial settings) events) :=
  runFrom_invariant (fun _ event h _ => Sound.step h event) (sound_initial settings)
    (eachStep_true events)

/-! ### What is promised -/

/-- The node is an active member and the key one of its active ones. -/
def Authorizes (db : Db) (nodeId keyId : String) : Prop :=
  ∃ node key, db.getNodeRow nodeId = some node ∧ node.state = .active ∧
    key ∈ db.nodeKeys ∧ key.nodeId = nodeId ∧ key.keyId = keyId ∧ key.state = .active

/-- The server once a call has been served. -/
def Serves (settings : ServerSettings Flows) (events before : List (ServerEvent Flows))
    (call : Call) : Prop :=
  events = before ++ [.call call] ∧ (run settings (initial settings) before).hub.world.quiet = true

/-- What is promised of a run. -/
structure Authorized (settings : ServerSettings Flows) (events : List (ServerEvent Flows)) :
    Prop where
  credential : ∀ nodeId keyId,
    Connected (run settings (initial settings) events).hub nodeId keyId →
      Authorizes (run settings (initial settings) events).registry.db nodeId keyId
  session : ∀ c, ((run settings (initial settings) events).hub.world.channel c).closed = false →
    ∃ info, (run settings (initial settings) events).hub.getSessionInfo
        ((run settings (initial settings) events).hub.world.channel c).nodeId =
      some (((run settings (initial settings) events).hub.world.channel c).sessionId, info)
  deleted : ∀ before call, Serves settings events before call → ∀ nodeId,
    Erases (run settings (initial settings) before).registry call nodeId →
      ∀ keyId, ¬Connected (run settings (initial settings) events).hub nodeId keyId
  ended : ∀ before call, Serves settings events before call → call.operation = .maintenance →
    ∀ nodeId keyId, Connected (run settings (initial settings) events).hub nodeId keyId →
      ∃ key ∈ (run settings (initial settings) events).registry.db.nodeKeys,
        key.nodeId = nodeId ∧ key.keyId = keyId ∧ key.AcceptedAt (call.clock 1)

theorem Sound.authorizes (h : Sound settings s) (hconnected : Connected s.hub nodeId keyId) :
    Authorizes s.registry.db nodeId keyId := by
  obtain ⟨key, hkey, hnode, hid, hactive⟩ := connected_of_held h.held hconnected
  obtain ⟨calls, hcalls⟩ := h.registry
  rw [hcalls] at hkey ⊢
  obtain ⟨node, hfound, hmember⟩ := active_of_live hkey hactive
  rw [hnode] at hfound
  exact ⟨node, key, hfound, hmember, hkey, hnode, hid, hactive⟩

theorem run_of_serves {events before : List (ServerEvent Flows)} {call : Call}
    (h : Serves settings events before call) :
    run settings (initial settings) events =
      ⟨Registry.step settings.env (run settings (initial settings) before).registry call,
        afterCall settings (run settings (initial settings) before) call⟩ := by
  obtain ⟨rfl, hquiet⟩ := h
  rw [run, runFrom_append]
  show step settings (run settings (initial settings) before) (.call call) = _
  rw [step, if_pos hquiet]

/-- A key that the maintenance keeps is accepted at its reading of the clock. -/
theorem acceptedAt_of_not_expires {s : RegistryState} {key : NodeKeyRow}
    (hkey : key ∈ s.db.nodeKeys) (hactive : key.state = .active) (hcall : call.operation = .maintenance)
    (hexpires : ¬Expires s call key.nodeId key.keyId) : key.AcceptedAt (call.clock 1) := by
  refine ⟨hactive, fun revokeAfter hend => ?_⟩
  by_contra hpassed
  refine hexpires ⟨hcall, key, List.mem_filter.mpr ⟨hkey, decide_eq_true ⟨hactive, ?_⟩⟩, rfl, rfl⟩
  rw [hend, overlapEnded, Option.any_some, decide_eq_true_eq]
  exact not_lt.mp hpassed

end Server

open Server

/-- In every run of the server, with calls of the registry, upgrades and connections in any order,
each open reverse session and data channel belongs to an active node and was authenticated with
a key of it that is still active. A deletion leaves no connection of the node, and a maintenance
run none whose key is past its overlap. -/
theorem connections_authorized {Flows : Type*} (settings : ServerSettings Flows)
    (events : List (ServerEvent Flows)) : Authorized settings events := by
  have hsound := run_sound settings events
  constructor
  · exact fun nodeId keyId hconnected => hsound.authorizes hconnected
  · exact fun c hopen => hsound.held.ordered.channelBinding.channel c hopen
  · intro before call hserves nodeId herases keyId hconnected
    rw [run_of_serves hserves] at hconnected
    have hheld := (run_sound settings before).held_afterCall hserves.2 call
    exact (connected_of_held hheld hconnected).2.1 herases
  · intro before call hserves hcall nodeId keyId hconnected
    rw [run_of_serves hserves] at hconnected ⊢
    have hheld := (run_sound settings before).held_afterCall hserves.2 call
    obtain ⟨⟨key, hkey, rfl, rfl, hactive⟩, herases, hexpires⟩ := connected_of_held hheld hconnected
    have haccepted := acceptedAt_of_not_expires hkey hactive hcall hexpires
    obtain ⟨calls, hcalls⟩ := (run_sound settings before).registry
    rw [hcalls] at hkey herases hexpires ⊢
    obtain ⟨key', hkey', -, -, -, hsame⟩ := live_step_key hkey hactive herases hexpires
    rw [hsame hcall] at hkey'
    exact ⟨key, hkey', rfl, rfl, haccepted⟩

end DshOrbit.HubServer
