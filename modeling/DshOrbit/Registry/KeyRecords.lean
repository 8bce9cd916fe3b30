import DshOrbit.Registry.KeyLogs

/-!
# What the registry keeps of the keys of a node

Every key of a node stays on record with its public half, and the last one on record is
the one that counts: it is what an active node signs with. The result of a re-enrollment
that is on record names a key that is on record.

## Main definitions

- `Db.keyRecords`, `Db.lastRecord` — the keys of a node with their public halves
- `Hosts` — a registry that has run from the start and knows a node
- `RestoredKeys` — recorded re-enrollments name keys on record

## Main results

- `step_keyRecords`
- `accepted_lastRecord` — the last key of an active node is accepted at every instant
- `run_restoredKeys`
-/

namespace DshOrbit.Registry

open DshOrbit.Lib DshOrbit.Protocol

variable {env : Env} {s : RegistryState} {call : Call} {nodeId : String} {db : Db}

/-! ### Records -/

def Db.keyRecords (db : Db) (nodeId : String) : List (String × String) :=
  (db.keyring nodeId).nodeKeys.map fun key => (key.keyId, key.publicKey)

def Db.lastRecord (db : Db) (nodeId : String) : Option (String × String) :=
  (db.keyRecords nodeId).getLast?

theorem keyIds_eq : db.keyIds nodeId = (db.keyRecords nodeId).map (·.1) := by
  simp only [Db.keyIds, Db.keyLog, Db.keyRecords, List.map_map, Function.comp_def]

theorem lastRecord_eq :
    db.lastRecord nodeId =
      (lastKey db.nodeKeys nodeId).map fun key => (key.keyId, key.publicKey) := by
  rw [Db.lastRecord, Db.keyRecords, List.getLast?_map]
  rfl

/-- The records of a member after a call: as they were, or with one more key. -/
theorem step_keyRecords {node : NodeRow} (hnode : s.db.getNodeRow nodeId = some node) :
    (step env s call).db.keyRecords nodeId = s.db.keyRecords nodeId ∨
      ∃ key new, Supersedes env s call node key new ∧
        (step env s call).db.keyRecords nodeId =
          s.db.keyRecords nodeId ++ [(new.keyId, new.publicKey)] :=
  step_keyring_map (fun _ _ hkeyId hpublicKey _ => Prod.ext hkeyId hpublicKey) hnode

/-! ### Members -/

theorem change_memberIds {clock : Clock} {Rotates : NodeKeyRow → Prop} {Purges : Prop}
    {l l' : Ledger} (h : Ledger.Change env clock Rotates Purges l l')
    (hl : nodeId ∈ l.members.map (·.1)) : nodeId ∈ l'.members.map (·.1) := by
  cases h with
  | enter use =>
    rw [TokenUse.admitted, List.map_append]
    exact List.mem_append_left _ hl
  | restore use =>
    rw [TokenUse.restored, map_fst_moved]
    exact hl
  | tombstone =>
    rw [map_fst_moved]
    exact hl
  | _ => exact hl

/-- A registry that has run from the start, with the node among its members. -/
structure Hosts (env : Env) (nodeId : String) (s : RegistryState) : Prop where
  reachable : ∃ calls, s = run env {} calls
  member : nodeId ∈ s.db.ledger.members.map (·.1)

theorem Hosts.step (h : Hosts env nodeId s) (call : Call) :
    Hosts env nodeId (Registry.step env s call) where
  reachable := by
    obtain ⟨calls, rfl⟩ := h.reachable
    exact ⟨calls ++ [call], by rw [run_append]; rfl⟩
  member :=
    (step_changes_any s call).invariant (fun _ _ hchange => change_memberIds hchange) h.member

theorem Hosts.row (h : Hosts env nodeId s) : ∃ node, s.db.getNodeRow nodeId = some node := by
  obtain ⟨calls, rfl⟩ := h.reachable
  obtain ⟨⟨_, state⟩, hmember, rfl⟩ := List.mem_map.mp h.member
  obtain ⟨node, hnode, -⟩ :=
    Db.getNodeRow_of_member (run_keysOwned env calls).members_nodup hmember
  exact ⟨node, hnode⟩

/-- The last key of an active node is accepted, whatever the clock says. -/
theorem accepted_lastRecord (h : Hosts env nodeId s) {node : NodeRow}
    (hnode : s.db.getNodeRow nodeId = some node) (hactive : node.state = .active)
    {record : String × String} (hlast : s.db.lastRecord nodeId = some record) :
    ∃ key ∈ s.db.nodeKeys, key.nodeId = nodeId ∧ (key.keyId, key.publicKey) = record ∧
      ∀ now, key.AcceptedAt now := by
  obtain ⟨calls, rfl⟩ := h.reachable
  have hmember := Db.member_of_getNodeRow hnode
  rw [hactive] at hmember
  obtain ⟨key, hkey, hopen⟩ := run_latestOpen env calls nodeId hmember
  change lastKey (run env {} calls).db.nodeKeys nodeId = some key at hkey
  obtain ⟨hmem, howner⟩ := mem_of_lastKey hkey
  rw [lastRecord_eq, hkey] at hlast
  obtain ⟨-, hstate, hend⟩ := of_decide_eq_true hopen
  refine ⟨key, hmem, howner, Option.some.inj hlast, fun now => ⟨hstate, ?_⟩⟩
  intro revokeAfter hrevokeAfter
  rw [hend] at hrevokeAfter
  cases hrevokeAfter

/-! ### Results of re-enrollments -/

/-- Every recorded re-enrollment names a key of its node. -/
def RestoredKeys (db : Db) : Prop :=
  ∀ row ∈ db.results, row.kind = .reenroll → row.result.keyId ∈ db.keyIds row.result.nodeId

theorem restoreNode_result {entropy : Entropy} {clock : Clock} {entry : TokenRow}
    {fields : ReenrollFields} {actor newKeyId : String} {historical : NodeKeyRow}
    {result : EnrollmentResult} {db' : Db}
    (h : restoreNode env entropy clock db entry fields actor historical newKeyId =
      .ok (result, db')) : result.nodeId = fields.nodeId ∧ result.keyId = newKeyId := by
  obtain ⟨_, -, h⟩ := bind_eq_ok.mp h
  obtain ⟨_, -, h⟩ := bind_eq_ok.mp h
  obtain ⟨_, -, h⟩ := bind_eq_ok.mp h
  obtain ⟨_, -, h⟩ := bind_eq_ok.mp h
  obtain ⟨hresult, -⟩ := Prod.mk.inj (Except.ok.inj h)
  rw [← hresult]
  exact ⟨rfl, rfl⟩

/-- A key that is on record stays on record. -/
theorem keyIds_step (env : Env) (calls : List Call) (call : Call) {keyId : String}
    (hkeyId : keyId ∈ (run env {} calls).db.keyIds nodeId) :
    keyId ∈ (step env (run env {} calls) call).db.keyIds nodeId := by
  obtain ⟨key, hkey, hnodeId, -⟩ := mem_keyIds.mp hkeyId
  have hmember := (run_keysOwned env calls).key_member key hkey
  rw [hnodeId] at hmember
  obtain ⟨node, hnode⟩ := Hosts.row ⟨⟨calls, rfl⟩, hmember⟩
  rw [keyIds_eq] at hkeyId ⊢
  rcases @step_keyRecords env _ call _ _ hnode with hsame | ⟨_, new, -, hadded⟩
  · rw [hsame]
    exact hkeyId
  · rw [hadded, List.map_append]
    exact List.mem_append_left _ hkeyId

/-- The key that an accepted re-enrollment names is on record after it. -/
theorem restoredKey {req : ReenrollRequest} {result : EnrollmentResult} {db' : Db}
    {entropy : Entropy} {clock : Clock} (hkeys : RestoredKeys db)
    (h : reenroll env entropy clock db req = .ok (result, db')) :
    result.keyId ∈ db'.keyIds result.nodeId := by
  rcases reenroll_restores h with ⟨rfl, -⟩ | ⟨entry, historical, newKeyId, -, -, -, -, -, hrestore⟩
  · obtain ⟨entry, -, -, haccepted⟩ : ∃ entry,
        db'.getToken (tokenDigestOf env (req.token.getD "")) = some entry ∧
        TokenRequest.Fits entry (.reenroll req) ∧
        Accepted env clock (fun _ => True) True db' db' (.reenroll req) entry result :=
      reenroll_ok h
    cases haccepted with
    | recorded row hrow htoken hresult hdb =>
      have hfound : row.idempotencyKey = (TokenRequest.reenroll req).idempotencyKey env ∧
          row.kind = (TokenRequest.reenroll req).kind := by
        simpa using List.find?_some hrow
      rw [← hresult]
      exact hkeys row (List.mem_of_find?_eq_some hrow) hfound.2
    | first hunconsumed hnone l use hfirst hchanges =>
      have hlength := congrArg List.length hfirst.results
      rw [hfirst.results_before, List.length_append, List.length_singleton] at hlength
      omega
  · obtain ⟨hresultNode, hkeyId⟩ := restoreNode_result hrestore
    obtain ⟨new, hnew, -, routeKeys, hkeyring⟩ := keyring_restoreNode hrestore
    rw [hresultNode, keyIds_eq, Db.keyRecords, hkeyring, Keyring.restored, updateWhere,
      List.map_map, List.map_map, List.map_append, List.mem_append]
    refine .inr ?_
    rw [hnew, hkeyId]
    simp only [Function.comp_apply, List.map_cons, List.map_nil, List.mem_singleton]
    split_ifs <;> rfl

theorem step_restoredKeys (env : Env) (calls : List Call) (call : Call)
    (hkeys : RestoredKeys (run env {} calls).db) :
    RestoredKeys (step env (run env {} calls) call).db := by
  set s := run env {} calls with hs
  have hkept : ∀ row ∈ s.db.results, row.kind = .reenroll →
      row.result.keyId ∈ (step env s call).db.keyIds row.result.nodeId := by
    intro row hrow hkind
    exact keyIds_step env calls call (hkeys row hrow hkind)
  by_cases htoken : ∃ req, call.operation = .useToken req
  · obtain ⟨req, hcall⟩ := htoken
    have hstep : (step env s call).db =
        commit s.db ((req.submit env call.entropy call.clock s.db).map (·.2)) := by
      rw [step, hcall]
    cases hsubmit : req.submit env call.entropy call.clock s.db with
    | error fault =>
      rw [hstep, hsubmit]
      exact hkeys
    | ok submitted =>
      obtain ⟨result, db'⟩ := submitted
      have hdb : (step env s call).db = db' := by rw [hstep, hsubmit]; rfl
      obtain ⟨entry, -, -, haccepted⟩ : ∃ entry, s.db.getToken (req.tokenDigest env) = some entry ∧
          req.Fits entry ∧ Accepted env call.clock (fun _ => True) True s.db db' req entry result :=
        submit_ok hsubmit
      intro row hrow hkind
      rw [hdb] at hrow
      cases haccepted with
      | recorded _ _ _ _ hsame =>
        rw [hsame] at hrow
        exact hkept row hrow hkind
      | first hunconsumed hnone l use hfirst hchanges =>
        rw [hfirst.results, hfirst.results_before] at hrow
        rcases List.mem_append.mp hrow with hold | hnew
        · exact hkept row hold hkind
        · rw [List.mem_singleton.mp hnew, hfirst.result_eq] at hkind ⊢
          rw [hdb]
          cases req with
          | enroll req => cases hkind
          | pair req => cases hkind
          | reenroll req => exact restoredKey hkeys hsubmit
  · have hsettled := @step_settled env s call fun req hcall => htoken ⟨req, hcall⟩
    intro row hrow hkind
    exact hkept row (hsettled.results row hrow) hkind

theorem run_restoredKeys (env : Env) (calls : List Call) : RestoredKeys (run env {} calls).db := by
  induction calls using List.reverseRecOn with
  | nil => exact fun _ h => (List.not_mem_nil h).elim
  | append_singleton calls call ih =>
    rw [run_append]
    exact step_restoredKeys env calls call ih

end DshOrbit.Registry
