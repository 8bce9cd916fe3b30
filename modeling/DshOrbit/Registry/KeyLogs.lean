import DshOrbit.Registry.NodeKeys
import DshOrbit.Registry.Tombstones
import DshOrbit.Registry.Tokens

/-!
# The keys of a node in order

The registry keeps every key a node ever had, in the order in which they were
added. A key is added when the node joins, rotates or re-enrolls; the last one is
the one that an active node may use without an end, and the one that a tombstoned
node has to prove.

## Main definitions

- `Db.keyLog`, `Db.keyIds` — the keys of a node in order
- `Supersedes` — a call that adds a key to those of a node
- `LatestOpen` — the last key of an active node has no end

## Main results

- `step_keyring_map` — a call adds at most one key, and changes nothing lasting of the others
- `run_latestOpen`
-/

namespace DshOrbit.Registry

open DshOrbit.Lib DshOrbit.Protocol

variable {env : Env} {clock : Clock} {Rotates : NodeKeyRow → Prop} {Purges : Prop}
  {members : List (String × NodeState)} {keys : List NodeKeyRow}

/-! ### Owned keys -/

theorem KeysOwned.append (h : KeysOwned members keys) {members' : List (String × NodeState)}
    {key : NodeKeyRow} (hnew : ∀ other ∈ keys, other.id ≠ key.id)
    (hnodup : (members'.map (·.1)).Nodup) (hjoined : key.nodeId ∈ members'.map (·.1))
    (hmembers : ∀ nodeId ∈ members.map (·.1), nodeId ∈ members'.map (·.1)) :
    KeysOwned members' (keys ++ [key]) where
  members_nodup := hnodup
  keys_nodup := by
    rw [List.map_append, List.nodup_append]
    refine ⟨h.keys_nodup, by simp, ?_⟩
    intro a ha b hb
    obtain ⟨other, hother, rfl⟩ := List.mem_map.mp ha
    obtain rfl : b = key.id := by simpa using hb
    exact hnew other hother
  key_member other hother := by
    rcases List.mem_append.mp hother with hmem | hmem
    · exact hmembers _ (h.key_member other hmem)
    · rw [List.mem_singleton.mp hmem]
      exact hjoined

theorem change_keysOwned (l l' : Ledger) (h : Ledger.Change env clock Rotates Purges l l')
    (hl : KeysOwned l.members l.nodeKeys) : KeysOwned l'.members l'.nodeKeys := by
  cases h with
  | enter use hnew =>
    refine hl.append use.key_new ?_ (by simp [TokenUse.admitted]) (fun nodeId hnode => ?_)
    · rw [TokenUse.admitted, List.map_append, List.nodup_append]
      refine ⟨hl.members_nodup, by simp, ?_⟩
      intro a ha b hb
      obtain ⟨member, hmember, rfl⟩ := List.mem_map.mp ha
      obtain rfl : b = use.key.nodeId := by simpa using hb
      exact hnew member hmember
    · rw [TokenUse.admitted, List.map_append]
      exact List.mem_append_left _ hnode
  | restore use hmember historicalKeyId =>
    have hfst := @map_fst_moved l.members use.key.nodeId .active
    have happend : KeysOwned (use.restored historicalKeyId).members (l.nodeKeys ++ [use.key]) := by
      refine hl.append use.key_new (hfst.symm ▸ hl.members_nodup) ?_ fun nodeId hnode => ?_
      · rw [TokenUse.restored, hfst]
        exact List.mem_map_of_mem hmember
      · rw [TokenUse.restored, hfst]
        exact hnode
    refine happend.map fun key _ => ?_
    split_ifs <;> rfl
  | rotate key new hkey haccepted hmember hrotates hnode hnew =>
    have hset : KeysOwned l.members (updateWhere (NodeKeyRow.isKey key.nodeId key.keyId)
        (fun row => { row with revokeAfter := some (clock 4 + env.config.rotationOverlapMs) })
        l.nodeKeys) := by
      refine hl.map fun other _ => ?_
      split_ifs <;> rfl
    refine hset.append (fun other hother => ?_) hl.members_nodup ?_ fun _ hmem => hmem
    · rcases mem_updateWhere.mp hother with ⟨hmem, -⟩ | ⟨old, hold, -, rfl⟩
      · exact hnew other hmem
      · exact hnew old hold
    · rw [hnode]
      exact List.mem_map_of_mem hmember
  | tombstone nodeId now =>
    have hfst := @map_fst_moved l.members nodeId .tombstoned
    have hdeleted : KeysOwned l.members (updateWhere
        (fun row : NodeKeyRow => row.nodeId = nodeId ∧ row.state = .active)
        (NodeKeyRow.deleted now) l.nodeKeys) := by
      refine hl.map fun key _ => ?_
      split_ifs <;> rfl
    exact ⟨hfst.symm ▸ hl.members_nodup, hdeleted.keys_nodup, hfst.symm ▸ hdeleted.key_member⟩
  | expireNodeKeys f now hf =>
    refine hl.map fun key hkey => ?_
    rcases hf key with heq | ⟨_, _, _, _, _, revokedAt, heq⟩ <;> rw [heq]
    rfl
  | _ => exact hl

theorem run_keysOwned (env : Env) (calls : List Call) :
    KeysOwned (run env {} calls).db.ledger.members (run env {} calls).db.nodeKeys :=
  run_invariant (I := fun l => KeysOwned l.members l.nodeKeys) (fun _ => change_keysOwned) calls
    keysSound_nil.toKeysOwned

/-! ### The last key -/

def lastKey (keys : List NodeKeyRow) (nodeId : String) : Option NodeKeyRow :=
  (keys.filter fun key => key.nodeId = nodeId).getLast?

theorem lastKey_append_self {key : NodeKeyRow} {nodeId : String} (h : key.nodeId = nodeId) :
    lastKey (keys ++ [key]) nodeId = some key := by
  simp [lastKey, List.filter_append, h]

theorem lastKey_append_other {key : NodeKeyRow} {nodeId : String} (h : key.nodeId ≠ nodeId) :
    lastKey (keys ++ [key]) nodeId = lastKey keys nodeId := by
  simp [lastKey, List.filter_append, h]

theorem lastKey_map {f : NodeKeyRow → NodeKeyRow} (hf : ∀ key, (f key).nodeId = key.nodeId)
    (nodeId : String) : lastKey (keys.map f) nodeId = (lastKey keys nodeId).map f := by
  simp only [lastKey, List.filter_map, Function.comp_def, hf, List.getLast?_map]

theorem mem_of_lastKey {key : NodeKeyRow} {nodeId : String} (h : lastKey keys nodeId = some key) :
    key ∈ keys ∧ key.nodeId = nodeId := by
  have hmem := List.mem_filter.mp (List.mem_of_getLast? h)
  exact ⟨hmem.1, of_decide_eq_true hmem.2⟩

/-- The last key of an active node is open. -/
def LatestOpen (l : Ledger) : Prop :=
  ∀ nodeId, (nodeId, .active) ∈ l.members →
    ∃ key, lastKey l.nodeKeys nodeId = some key ∧ key.isOpen nodeId = true

theorem lastKey_updateWhere {p : NodeKeyRow → Bool} {f : NodeKeyRow → NodeKeyRow}
    (hf : ∀ key, (f key).nodeId = key.nodeId) (nodeId : String) :
    lastKey (updateWhere p f keys) nodeId =
      (lastKey keys nodeId).map fun key => if p key then f key else key := by
  refine lastKey_map (fun key => ?_) nodeId
  split_ifs
  · exact hf key
  · rfl

/-- An update of other rows leaves the last key of a node as it is. -/
theorem lastKey_updateWhere_other {p : NodeKeyRow → Bool} {f : NodeKeyRow → NodeKeyRow}
    (hf : ∀ key, (f key).nodeId = key.nodeId) {nodeId : String}
    (hp : ∀ key, key.nodeId = nodeId → p key = false) :
    lastKey (updateWhere p f keys) nodeId = lastKey keys nodeId := by
  rw [lastKey_updateWhere hf]
  cases hlast : lastKey keys nodeId with
  | none => rfl
  | some key => simp [hp key (mem_of_lastKey hlast).2]

theorem change_latestOpen (l l' : Ledger) (h : Ledger.Change env clock Rotates Purges l l')
    (howned : KeysOwned l.members l.nodeKeys) (hl : LatestOpen l) : LatestOpen l' := by
  cases h with
  | enter use hnew =>
    intro nodeId hmember
    by_cases hnode : use.key.nodeId = nodeId
    · refine ⟨use.key, lastKey_append_self hnode, ?_⟩
      simp [NodeKeyRow.isOpen, hnode, use.key_state, use.key_revokeAfter]
    · have hold : (nodeId, NodeState.active) ∈ l.members := by
        simpa [TokenUse.admitted, Ne.symm hnode] using hmember
      rw [TokenUse.admitted, lastKey_append_other hnode]
      exact hl nodeId hold
  | restore use hmember historicalKeyId =>
    intro nodeId hactive
    rw [TokenUse.restored, lastKey_updateWhere (by intro row; rfl)]
    by_cases hnode : use.key.nodeId = nodeId
    · rw [lastKey_append_self hnode]
      refine ⟨_, rfl, ?_⟩
      dsimp only
      split_ifs <;> simp [NodeKeyRow.isOpen, hnode, use.key_state, use.key_revokeAfter]
    · obtain ⟨key, hlast, hopen⟩ := hl nodeId ((mem_moved (Ne.symm hnode)).mp hactive)
      rw [lastKey_append_other hnode, hlast]
      refine ⟨_, rfl, ?_⟩
      dsimp only
      split_ifs
      · exact hopen
      · exact hopen
  | rotate key new hkey haccepted hmember hrotates hnode hnew hstate hrevokeAfter =>
    intro nodeId hactive
    by_cases hmoved : new.nodeId = nodeId
    · refine ⟨new, lastKey_append_self hmoved, ?_⟩
      simp [NodeKeyRow.isOpen, hmoved, hstate, hrevokeAfter]
    · have hother : ∀ other : NodeKeyRow, other.nodeId = nodeId →
          other.isKey key.nodeId key.keyId = false := by
        rintro other rfl
        have hne : other.nodeId ≠ key.nodeId := fun heq => hmoved (hnode.trans heq.symm)
        simp [NodeKeyRow.isKey, hne]
      rw [lastKey_append_other hmoved, lastKey_updateWhere_other (by intro row; rfl) hother]
      exact hl nodeId hactive
  | tombstone moved now =>
    intro nodeId hactive
    rcases mem_updateWhere.mp hactive with ⟨hmember, hkept⟩ | ⟨_, _, _, heq⟩
    · have hother : ∀ other : NodeKeyRow, other.nodeId = nodeId →
          decide (other.nodeId = moved ∧ other.state = .active) = false := by
        rintro other rfl
        have hne : other.nodeId ≠ moved := of_decide_eq_false hkept
        simp [hne]
      rw [lastKey_updateWhere_other (by intro row; rfl) hother]
      exact hl nodeId hmember
    · cases congrArg Prod.snd heq
  | expireNodeKeys f now hf =>
    intro nodeId hactive
    obtain ⟨key, hlast, hopen⟩ := hl nodeId hactive
    have hkeeps : ∀ key, (f key).nodeId = key.nodeId := by
      intro key
      rcases hf key with heq | ⟨_, _, _, _, _, revokedAt, heq⟩ <;> rw [heq]
      rfl
    have hsame : f key = key := by
      rcases expired_cases howned hf (mem_of_lastKey hlast).1 with heq | ⟨hend, -⟩
      · exact heq
      · exact absurd (of_decide_eq_true hopen).2.2 hend
    refine ⟨key, ?_, hopen⟩
    rw [lastKey_map hkeeps, hlast, Option.map_some, hsame]
  | _ => exact hl

theorem run_latestOpen (env : Env) (calls : List Call) : LatestOpen (run env {} calls).db.ledger := by
  have h := @run_invariant env (fun l => KeysOwned l.members l.nodeKeys ∧ LatestOpen l)
    (fun _ l l' hchange hl =>
      ⟨change_keysOwned l l' hchange hl.1, change_latestOpen l l' hchange hl.1 hl.2⟩) {} calls
    ⟨keysSound_nil.toKeysOwned, fun _ h => (List.not_mem_nil h).elim⟩
  exact h.2

/-! ### The log of a node -/

/-- The keys of a node with the instants at which they were added, in that order. -/
def Db.keyLog (db : Db) (nodeId : String) : List (String × ℤ) :=
  (db.keyring nodeId).nodeKeys.map fun key => (key.keyId, key.createdAt)

def Db.keyIds (db : Db) (nodeId : String) : List String := (db.keyLog nodeId).map (·.1)

/-- The call proves the possession of `key` and adds the key `new` to those of the node. -/
inductive Supersedes (env : Env) (s : RegistryState) (call : Call) (node : NodeRow)
    (key new : NodeKeyRow) : Prop
  | rotation (hactive : node.state = .active) (h : Rotation env s call node key new)
  | restoration (htombstoned : node.state = .tombstoned) (h : Restoration env s call node key new)

variable {s : RegistryState} {call : Call} {nodeId : String} {db : Db}

theorem mem_keyIds {keyId : String} :
    keyId ∈ db.keyIds nodeId ↔ ∃ key ∈ db.nodeKeys, key.nodeId = nodeId ∧ key.keyId = keyId := by
  simp [Db.keyIds, Db.keyLog, Db.keyring, Ledger.keyring, Db.ledger, and_assoc]

theorem Rotation.active {node : NodeRow} {key new : NodeKeyRow}
    (h : Rotation env s call node key new) : node.state = .active := by
  obtain ⟨req, body, db1, -, hauth, -⟩ := h.request
  obtain ⟨fields, -, hchecked, -⟩ := authenticateMachine_ok hauth
  exact hchecked.active

/-- What is read of a key and never changes. -/
def Lasting {α : Type*} (f : NodeKeyRow → α) : Prop :=
  ∀ key key' : NodeKeyRow, key.keyId = key'.keyId → key.publicKey = key'.publicKey →
    key.createdAt = key'.createdAt → f key = f key'

theorem Lasting.map {α : Type*} {f : NodeKeyRow → α} (hf : Lasting f) {rows : List NodeKeyRow}
    {g : NodeKeyRow → NodeKeyRow} (hg : ∀ key, (g key).keyId = key.keyId ∧
      (g key).publicKey = key.publicKey ∧ (g key).createdAt = key.createdAt) :
    (rows.map g).map f = rows.map f := by
  rw [List.map_map]
  apply List.map_congr_left
  intro key _
  obtain ⟨hkeyId, hpublicKey, hcreatedAt⟩ := hg key
  exact hf _ _ hkeyId hpublicKey hcreatedAt

/-- The keys of a member after a call: as they were, or with one more. -/
theorem step_keyring_map {α : Type*} {f : NodeKeyRow → α} (hf : Lasting f) {node : NodeRow}
    (hnode : s.db.getNodeRow nodeId = some node) :
    ((step env s call).db.keyring nodeId).nodeKeys.map f =
        (s.db.keyring nodeId).nodeKeys.map f ∨
      ∃ key new, Supersedes env s call node key new ∧
        ((step env s call).db.keyring nodeId).nodeKeys.map f =
          (s.db.keyring nodeId).nodeKeys.map f ++ [f new] := by
  have hstep := step_keyring env s call nodeId node hnode
  generalize (step env s call).db.keyring nodeId = k' at hstep ⊢
  cases hstep with
  | kept => exact .inl rfl
  | route => exact .inl rfl
  | rotate key new hrotation =>
    refine .inr ⟨key, new, .rotation hrotation.active hrotation, ?_⟩
    rw [Keyring.rotated, List.map_append, updateWhere, hf.map]
    · rfl
    · intro row
      split_ifs <;> exact ⟨rfl, rfl, rfl⟩
  | restore historical new routeKeys hrestoration htombstoned =>
    refine .inr ⟨historical, new, .restoration htombstoned hrestoration, ?_⟩
    rw [Keyring.restored, updateWhere, hf.map, List.map_append]
    · rfl
    · intro row
      split_ifs <;> exact ⟨rfl, rfl, rfl⟩
  | delete =>
    refine .inl (hf.map fun row => ?_)
    split_ifs <;> exact ⟨rfl, rfl, rfl⟩
  | expire f' g n hcall hf' =>
    refine .inl (hf.map fun row => ?_)
    rcases hf' row with heq | ⟨_, _, _, _, _, revokedAt, heq⟩ <;> rw [heq] <;> exact ⟨rfl, rfl, rfl⟩

/-- The key that a re-enrollment proves is the historical one. -/
theorem historicalKey_of_checkPossession {req : ReenrollRequest} {fields : ReenrollFields}
    {key : NodeKeyRow} (h : checkPossession env db req fields = .ok key) :
    historicalKey db fields.nodeId = some key := by
  unfold checkPossession at h
  split at h
  case h_1 => cases h
  case h_2 node hnode =>
    split_ifs at h
    · cases h
    · split at h
      case h_1 => cases h
      case h_2 historical hhistorical =>
        obtain ⟨_, -, h⟩ := bind_eq_ok.mp h
        split_ifs at h
        · cases h
        · obtain ⟨verified, -, h⟩ := bind_eq_ok.mp h
          split_ifs at h
          · cases h
          · obtain rfl := Except.ok.inj h
            exact hhistorical

theorem mem_of_historicalKey {key : NodeKeyRow} (h : historicalKey db nodeId = some key) :
    key ∈ db.nodeKeys ∧ key.nodeId = nodeId ∧ key.state = .revoked := by
  have hmem := List.mem_of_head? h
  simpa [and_assoc] using hmem

/-- The key that is proved is one of the node, and the one that is added is not. -/
theorem Supersedes.keyIds {node : NodeRow} {key new : NodeKeyRow}
    (h : Supersedes env s call node key new) :
    key.keyId ∈ s.db.keyIds node.nodeId ∧ new.keyId ∉ s.db.keyIds node.nodeId := by
  cases h with
  | rotation hactive h =>
    obtain ⟨req, body, db1, -, hauth, -⟩ := h.request
    obtain ⟨fields, -, hchecked, -⟩ := authenticateMachine_ok hauth
    have hnodeId := Db.nodeId_of_getNodeRow hchecked.node_eq
    obtain ⟨hkey, hkeyNode, -⟩ := Db.mem_of_getKeyRow hchecked.key_eq
    refine ⟨mem_keyIds.mpr ⟨key, hkey, hkeyNode.trans hnodeId.symm, rfl⟩, fun hmem => ?_⟩
    obtain ⟨other, hother, hnode, hid⟩ := mem_keyIds.mp hmem
    exact h.fresh other hother (Prod.ext hnode hid)
  | restoration htombstoned h =>
    obtain ⟨req, result, db', -, hreq, -, hpossession, -⟩ := h.request
    obtain ⟨hkey, hkeyNode, -⟩ := mem_of_historicalKey (historicalKey_of_checkPossession hpossession)
    have hnodeId : req.fields.nodeId = node.nodeId := by simp [ReenrollRequest.fields, hreq]
    refine ⟨mem_keyIds.mpr ⟨key, hkey, hkeyNode.trans hnodeId, rfl⟩, fun hmem => ?_⟩
    obtain ⟨other, hother, hnode, hid⟩ := mem_keyIds.mp hmem
    exact h.fresh other hother (Prod.ext hnode hid)

/-- A node is restored by a call that adds a key to it. -/
theorem superseded_of_restored {node node' : NodeRow} {calls : List Call}
    (hnode : (run env {} calls).db.getNodeRow nodeId = some node)
    (hstate : node.state = .tombstoned)
    (hnode' : (step env (run env {} calls) call).db.getNodeRow nodeId = some node')
    (hstate' : node'.state = .active) :
    ∃ key new, Supersedes env (run env {} calls) call node key new := by
  by_cases hrestores : Restores env (run env {} calls) call nodeId
  · obtain ⟨req, result, db', hcall, hreq, hreenroll, -⟩ := hrestores
    have hstep : (step env (run env {} calls) call).db = db' := by
      rw [step, hcall]
      simp [TokenRequest.submit, hreenroll, commit, Except.map]
    rcases reenroll_restores hreenroll with ⟨hsame, -⟩ | ⟨entry, historical, newKeyId, hnodeId, hentry,
      hconsumed, hpossession, hderived, hrestore⟩
    · rw [hstep, hsame, hnode] at hnode'
      obtain rfl := Option.some.inj hnode'
      rw [hstate] at hstate'
      cases hstate'
    · have hfields : req.fields.nodeId = nodeId := by simp [ReenrollRequest.fields, hreq]
      rw [← hfields] at hnode
      obtain ⟨-, new, -, hrestoration, -⟩ := restoration_of_restoreNode hcall hreenroll hnodeId hentry
        hconsumed hpossession hderived hrestore hnode
      exact ⟨historical, new, .restoration hstate hrestoration⟩
  · obtain ⟨hkept, -⟩ := step_tombstone env calls call hnode hstate hrestores
    obtain rfl := Option.some.inj (hkept.symm.trans hnode')
    rw [hstate] at hstate'
    cases hstate'

/-! ### Calls without a token -/

/-- The same members, in whatever states, and no further result. -/
structure Ledger.Settled (l l' : Ledger) : Prop where
  ids : l'.members.map (·.1) = l.members.map (·.1)
  results : ∀ row ∈ l'.results, row ∈ l.results

theorem Ledger.Settled.of_eq {l l' : Ledger} (hmembers : l'.members = l.members)
    (hresults : l'.results = l.results) : Ledger.Settled l l' :=
  ⟨by rw [hmembers], fun _ hrow => hresults ▸ hrow⟩

theorem Ledger.Settled.of_ledger {l l' : Ledger} (h : l' = l) : Ledger.Settled l l' :=
  .of_eq (congrArg Ledger.members h) (congrArg Ledger.results h)

theorem Ledger.Settled.trans {l l' l'' : Ledger} (h : Ledger.Settled l l')
    (h' : Ledger.Settled l' l'') : Ledger.Settled l l'' :=
  ⟨h'.ids.trans h.ids, fun row hrow => h.results row (h'.results row hrow)⟩

theorem settled_commit {attempt : Attempt Db}
    (h : ∀ db', attempt = .ok db' → Ledger.Settled db.ledger db'.ledger) :
    Ledger.Settled db.ledger (commit db attempt).ledger := by
  cases attempt with
  | error fault => exact .of_ledger rfl
  | ok db' => exact h db' rfl

theorem settled_ensureHubRouteKey {entropy : Entropy} {createdAt auditedAt : ℤ}
    {row : HubRouteKeyRow} {db' : Db}
    (h : db.ensureHubRouteKey env entropy createdAt auditedAt nodeId = .ok (row, db')) :
    Ledger.Settled db.ledger db'.ledger := by
  rcases ensureHubRouteKey_ok h with ⟨-, rfl⟩ | ⟨-, -, -, hledger⟩
  · exact .of_ledger rfl
  · rw [hledger]
    exact .of_eq rfl rfl

theorem settled_heartbeat {entropy : Entropy} {node : NodeRow} {rawBody : Option Json}
    {response : HeartbeatResponse} {db' : Db}
    (h : heartbeatAuthenticated env entropy clock db node rawBody = .ok (response, db')) :
    Ledger.Settled db.ledger db'.ledger := by
  obtain ⟨body, -, h⟩ := bind_eq_ok.mp h
  obtain ⟨runtime, -, h⟩ := bind_eq_ok.mp h
  obtain ⟨⟨row, ensured⟩, hensure, h⟩ := bind_eq_ok.mp h
  obtain ⟨-, rfl⟩ := Prod.mk.inj (Except.ok.inj h)
  refine Ledger.Settled.trans ?_ (settled_ensureHubRouteKey hensure)
  rw [← ledger_recordHeartbeat env clock db node runtime]
  unfold recordAcknowledgement
  split
  · exact .of_ledger rfl
  · rw [ledger_acknowledgeHubRouteKeys]
    exact .of_eq rfl rfl

theorem settled_rotateCredential {node : NodeRow} {key : NodeKeyRow} {rawBody : Option Json}
    {response : RotationResponse} {db' : Db}
    (h : rotateCredentialAuthenticated env clock db node key rawBody = .ok (response, db')) :
    Ledger.Settled db.ledger db'.ledger := by
  obtain ⟨body, -, h⟩ := bind_eq_ok.mp h
  obtain ⟨newPublicKey, -, h⟩ := bind_eq_ok.mp h
  obtain ⟨newKeyId, -, h⟩ := bind_eq_ok.mp h
  split_ifs at h
  · cases h
  · obtain ⟨inserted, hinsert, h⟩ := bind_eq_ok.mp h
    obtain ⟨-, rfl⟩ := Prod.mk.inj (Except.ok.inj h)
    obtain ⟨-, rfl⟩ := Db.insertNodeKey_ok hinsert
    exact .of_eq rfl rfl

theorem settled_serveMachine {entropy : Entropy} {req : MachineRequest} {business : Business} :
    Ledger.Settled db.ledger (serveMachine env entropy clock db req business).ledger := by
  unfold serveMachine
  split
  case h_1 => exact .of_ledger rfl
  case h_2 node key db1 hauth =>
    obtain ⟨fields, -, -, -, hdb1⟩ := authenticateMachine_ok hauth
    have hreserved : Ledger.Settled db.ledger db1.ledger := by
      rw [hdb1]
      exact .of_eq rfl rfl
    refine hreserved.trans (settled_commit fun db' hperform => ?_)
    cases business with
    | nothing =>
      obtain rfl := Except.ok.inj hperform
      exact .of_ledger rfl
    | heartbeat rawBody =>
      obtain ⟨⟨response, _⟩, hbeat, rfl⟩ := map_eq_ok.mp hperform
      exact settled_heartbeat hbeat
    | uploadReport rawBody =>
      obtain ⟨⟨response, _⟩, hupload, rfl⟩ := map_eq_ok.mp hperform
      exact .of_ledger (ledger_uploadReport hupload)
    | rotateCredential rawBody =>
      obtain ⟨⟨response, _⟩, hrotate, rfl⟩ := map_eq_ok.mp hperform
      exact settled_rotateCredential hrotate

theorem Ledger.Settled.of_nodeKeys {l l' : Ledger} {nodeKeys : List NodeKeyRow}
    (h : l' = { l with nodeKeys }) : Ledger.Settled l l' := by
  rw [h]
  exact .of_eq rfl rfl

theorem Ledger.Settled.of_routeKeys {l l' : Ledger} {hubRouteKeys : List HubRouteKeyRow}
    (h : l' = { l with hubRouteKeys }) : Ledger.Settled l l' := by
  rw [h]
  exact .of_eq rfl rfl

theorem settled_expireAndPurge (clock : Clock) (db : Db) :
    Ledger.Settled db.ledger (expireAndPurge clock db).1.ledger := by
  obtain ⟨f, -, hnode⟩ := forEachRow_expireNodeKey (endedNodeKeys db (clock 1))
    (db, (clock.drop 1).drop 1)
  rw [expireAndPurge]
  set expired := expireNodeKeys (db, clock.drop 1) with hexpired
  obtain ⟨g, -, hroute⟩ :=
    forEachRow_expireRouteKey (endedRouteKeys expired.1 (expired.2 0)) (expired.1, expired.2.drop 1)
  have hexpired' : Ledger.Settled db.ledger expired.1.ledger := .of_nodeKeys hnode
  have hrouted : Ledger.Settled expired.1.ledger (expireRouteKeys expired).1.ledger :=
    .of_routeKeys hroute
  obtain ⟨hids, hresults⟩ := hexpired'.trans hrouted
  exact ⟨hids, fun row hrow => hresults row (mem_deleteWhere.mp hrow).1⟩

theorem settled_maintenance (config : Config) (clock : Clock) (db : Db) :
    Ledger.Settled db.ledger (maintenance config clock db).2.ledger := by
  rw [ledger_maintenance]
  exact settled_expireAndPurge clock db

theorem settled_rotateHubRouteKey {entropy : Entropy} {actor moved : Option String}
    {result : Db.RotateHubRouteKeyResult} {db' : Db}
    (h : db.rotateHubRouteKey env entropy clock actor moved = .ok (result, db')) :
    Ledger.Settled db.ledger db'.ledger := by
  obtain ⟨_, -, h⟩ := bind_eq_ok.mp h
  obtain ⟨_, -, h⟩ := bind_eq_ok.mp h
  split at h
  case h_1 => cases h
  case h_2 =>
    split_ifs at h
    · cases h
    · dsimp only at h
      split at h
      case h_1 => cases h
      case h_2 =>
        split_ifs at h
        · cases h
        · obtain ⟨⟨row, inserted⟩, hprovision, h⟩ := bind_eq_ok.mp h
          obtain ⟨-, rfl⟩ := Prod.mk.inj (Except.ok.inj h)
          obtain ⟨keyId, -, hprovision⟩ := bind_eq_ok.mp hprovision
          obtain ⟨provisioned, hinsert, hprovision⟩ := bind_eq_ok.mp hprovision
          obtain ⟨-, rfl⟩ := Prod.mk.inj (Except.ok.inj hprovision)
          obtain ⟨-, rfl⟩ := Db.insertHubRouteKey_ok hinsert
          exact .of_eq rfl rfl

theorem settled_mintEnrollmentToken {entropy : Entropy} {req : MintRequest} {minted : MintedToken}
    {db' : Db} (h : mintEnrollmentToken env entropy clock db req = .ok (minted, db')) :
    Ledger.Settled db.ledger db'.ledger := by
  unfold mintEnrollmentToken at h
  split_ifs at h
  · cases h
  · obtain ⟨_, -, h⟩ := bind_eq_ok.mp h
    obtain ⟨inserted, hinsert, h⟩ := bind_eq_ok.mp h
    obtain ⟨-, rfl⟩ := Prod.mk.inj (Except.ok.inj h)
    obtain ⟨-, rfl⟩ := Db.insertToken_ok hinsert
    exact .of_eq rfl rfl

theorem settled_deleteNode {req : DeleteRequest} (clock : Clock) (s : RegistryState) :
    Ledger.Settled s.db.ledger (commitState s (deleteNode clock s req)).db.ledger := by
  cases h : deleteNode clock s req with
  | error fault => exact .of_ledger rfl
  | ok result =>
    rcases deleteNode_ok h with ⟨-, hsame⟩ | ⟨node, reason, requestId, -, -, -, -, hdeleted⟩
    · rw [commitState, hsame]
      exact .of_ledger rfl
    · rw [commitState, hdeleted]
      change Ledger.Settled _ (tombstoneNode clock s.db node req.actor requestId reason).ledger
      rw [ledger_tombstoneNode]
      exact ⟨map_fst_moved _ _, fun _ hrow => hrow⟩

/-- A call that uses no token brings no node and no result. -/
theorem step_settled (h : ∀ req, call.operation ≠ .useToken req) :
    Ledger.Settled s.db.ledger (step env s call).db.ledger := by
  obtain ⟨operation, clock, entropy⟩ := call
  cases operation with
  | useToken req => exact absurd rfl (h req)
  | mintEnrollmentToken req =>
    refine settled_commit fun db' h => ?_
    obtain ⟨⟨minted, _⟩, hmint, rfl⟩ := map_eq_ok.mp h
    exact settled_mintEnrollmentToken hmint
  | machine req business => exact settled_serveMachine
  | deleteNode req => exact settled_deleteNode clock s
  | setRouteTarget actor moved routeTarget => exact .of_ledger ledger_setRouteTarget
  | setRouteMode actor moved routeMode => exact .of_ledger ledger_setRouteMode
  | removeRouteTarget actor moved => exact .of_ledger ledger_removeRouteTarget
  | rotateHubRouteKey actor moved =>
    refine settled_commit fun db' h => ?_
    obtain ⟨⟨result, _⟩, hrotate, rfl⟩ := map_eq_ok.mp h
    exact settled_rotateHubRouteKey hrotate
  | probeNode probed => exact .of_ledger (ledger_probeNode ..)
  | recordProbeResult probed answer context => exact .of_ledger (ledger_recordProbeResult ..)
  | bootstrapSession principal =>
    refine settled_commit fun db' h => .of_ledger ?_
    obtain ⟨⟨row, _⟩, hsession, rfl⟩ := map_eq_ok.mp h
    exact ledger_bootstrapSession hsession
  | validateSession sessionId => exact .of_ledger ledger_validateSession
  | endSession sessionId actor => exact .of_ledger ledger_endSession
  | recordAudit actor action detail => exact .of_ledger rfl
  | maintenance =>
    rw [step]
    dsimp only
    exact settled_maintenance env.config clock s.db
  | restart =>
    rw [step]
    exact .of_ledger (ledger_reconcileNodeCapabilities clock s.db)

end DshOrbit.Registry
