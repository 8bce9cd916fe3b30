import DshOrbit.Registry.Changes

/-!
# Steps as changes

Each operation of the registry, read as changes of the ledger: one lemma for each,
and from them one for a whole step.

## Main results

- `admitNode_ok`, `restoreNode_ok` — what a first use of a token writes
- `authenticateMachine_ok` — what an authenticated request has passed
- `step_changes` — a step is a sequence of changes
- `run_invariant` — what every change keeps holds after every run
-/

namespace DshOrbit.Registry

open DshOrbit.Lib DshOrbit.Protocol

variable {env : Env} {entropy : Entropy} {clock : Clock} {db db' : Db}
  {Rotates : NodeKeyRow → Prop} {Purges : Prop}

/-! ### Route keys -/

theorem provisionHubRouteKey_ok {createdAt : ℤ} {nodeId : String} {row : HubRouteKeyRow}
    (hsettled : ∀ other ∈ db.hubRouteKeys, other.nodeId = nodeId →
      other.state = .active ∨ other.state = .revoked)
    (h : db.provisionHubRouteKey env entropy createdAt nodeId = .ok (row, db')) :
    row.nodeId = nodeId ∧ Provisionable env db.hubRouteKeys row ∧
      db' = { db with hubRouteKeys := db.hubRouteKeys ++ [row] } := by
  obtain ⟨keyId, hkey, h⟩ := bind_eq_ok.mp h
  obtain ⟨inserted, hinsert, h⟩ := bind_eq_ok.mp h
  obtain ⟨rfl, rfl⟩ := Prod.mk.inj (Except.ok.inj h)
  obtain ⟨hnew, hdb⟩ := Db.insertHubRouteKey_ok hinsert
  have hderived := orThrow_eq_ok.mp hkey
  exact ⟨rfl, ⟨hnew, rfl, rfl, entropy.keyPair.publicKey_wellFormed, hderived, hsettled⟩, hdb⟩

/-- A node without an unrevoked key gets a provisioned one. -/
theorem ensureHubRouteKey_ok {createdAt auditedAt : ℤ} {nodeId : String} {row : HubRouteKeyRow}
    (h : db.ensureHubRouteKey env entropy createdAt auditedAt nodeId = .ok (row, db')) :
    (∃ rest, db.unrevokedRouteKeys nodeId = row :: rest) ∧ db' = db ∨
      db.unrevokedRouteKeys nodeId = [] ∧ row.nodeId = nodeId ∧
        Provisionable env db.hubRouteKeys row ∧
        db'.ledger = { db.ledger with hubRouteKeys := db.hubRouteKeys ++ [row] } := by
  unfold Db.ensureHubRouteKey at h
  split at h
  case h_1 existing rest hkeys =>
    obtain ⟨rfl, rfl⟩ := Prod.mk.inj (Except.ok.inj h)
    exact .inl ⟨⟨rest, hkeys⟩, rfl⟩
  case h_2 hnone =>
    obtain ⟨⟨row, inserted⟩, hprovision, h⟩ := bind_eq_ok.mp h
    obtain ⟨rfl, rfl⟩ := Prod.mk.inj (Except.ok.inj h)
    have hsettled : ∀ other ∈ db.hubRouteKeys, other.nodeId = nodeId →
        other.state = .active ∨ other.state = .revoked := by
      intro other hother hsame
      by_contra hunrevoked
      have : other ∈ db.unrevokedRouteKeys nodeId :=
        Db.mem_unrevokedRouteKeys.mpr ⟨hother, hsame, fun hrevoked => hunrevoked (.inr hrevoked)⟩
      rw [hnone] at this
      cases this
    obtain ⟨hnode, hrow, rfl⟩ := provisionHubRouteKey_ok hsettled hprovision
    exact .inr ⟨hnone, hnode, hrow, rfl⟩

theorem changes_ensureHubRouteKey {createdAt auditedAt : ℤ} {nodeId : String}
    {row : HubRouteKeyRow} (hmember : (nodeId, .active) ∈ db.ledger.members)
    (h : db.ensureHubRouteKey env entropy createdAt auditedAt nodeId = .ok (row, db')) :
    Ledger.Changes env clock Rotates Purges db.ledger db'.ledger := by
  rcases ensureHubRouteKey_ok h with ⟨-, rfl⟩ | ⟨-, rfl, hrow, hledger⟩
  · exact .refl
  · rw [hledger]
    exact .single (.provision row hmember hrow)

theorem changes_acknowledgeHubRouteKeys {activatedAt overlapFrom auditedAt : ℤ} {nodeId : String}
    {ids : List Json} :
    Ledger.Changes env clock Rotates Purges db.ledger
      (db.acknowledgeHubRouteKeys env activatedAt overlapFrom auditedAt nodeId ids).ledger := by
  unfold Db.acknowledgeHubRouteKeys
  split
  case h_1 => exact .refl
  case h_2 key hkeys =>
    split_ifs with hack
    · have hmem : ∀ {other}, other ∈ db.unrevokedRouteKeys nodeId ↔ other = key := by simp [hkeys]
      obtain ⟨hkey, rfl, -⟩ := Db.mem_unrevokedRouteKeys.mp (hmem.mpr rfl)
      refine .single (.activate key activatedAt hkey hack.1 ?_)
      intro other hother hsame hunrevoked
      exact hmem.mp (Db.mem_unrevokedRouteKeys.mpr ⟨hother, hsame, hunrevoked⟩)
    · exact .refl
  case h_3 =>
    split
    case h_1 activeKey provisionedKey hactive hprovisioned =>
      split_ifs
      · obtain ⟨hold, rfl, -⟩ := Db.mem_unrevokedRouteKeys.mp (List.mem_of_find?_eq_some hactive)
        obtain ⟨hnew, hnode, -⟩ :=
          Db.mem_unrevokedRouteKeys.mp (List.mem_of_find?_eq_some hprovisioned)
        exact .single (.succeed activeKey provisionedKey activatedAt overlapFrom hold hnew hnode
          (by simpa using List.find?_some hactive) (by simpa using List.find?_some hprovisioned))
      · exact .refl
    case h_2 => exact .refl

theorem changes_rotateHubRouteKey {actor nodeId : Option String}
    {result : Db.RotateHubRouteKeyResult}
    (h : db.rotateHubRouteKey env entropy clock actor nodeId = .ok (result, db')) :
    Ledger.Changes env clock Rotates Purges db.ledger db'.ledger := by
  obtain ⟨nodeId, -, h⟩ := bind_eq_ok.mp h
  obtain ⟨actor, -, h⟩ := bind_eq_ok.mp h
  split at h
  case h_1 => cases h
  case h_2 node hnode =>
    split_ifs at h with hactive
    · cases h
    · dsimp only at h
      split at h
      case h_1 => cases h
      case h_2 current hcurrent =>
        split_ifs at h with hbusy
        · cases h
        · obtain ⟨⟨row, inserted⟩, hprovision, h⟩ := bind_eq_ok.mp h
          obtain ⟨-, rfl⟩ := Prod.mk.inj (Except.ok.inj h)
          have hsettled : ∀ other ∈ db.hubRouteKeys, other.nodeId = nodeId →
              other.state = .active ∨ other.state = .revoked := by
            intro other hother hsame
            by_contra hunsettled
            obtain ⟨hna, hnr⟩ := not_or.mp hunsettled
            refine hbusy (List.any_eq_true.mpr ⟨other,
              Db.mem_unrevokedRouteKeys.mpr ⟨hother, hsame, hnr⟩, ?_⟩)
            cases hs : other.state <;> simp_all
          obtain ⟨rfl, hrow, rfl⟩ := provisionHubRouteKey_ok hsettled hprovision
          have hmember := Db.member_of_getNodeRow hnode
          rw [not_not.mp hactive] at hmember
          exact .single (.provision row hmember hrow)

/-! ### Tokens -/

theorem matchesHex_tokenDigestOf (env : Env) (token : String) :
    matchesHex 64 (tokenDigestOf env token) = true := by
  have := matchesHex_toHex (env.crypto.sha256 (utf8Bytes token))
  rwa [env.crypto.length_sha256] at this

theorem changes_mintEnrollmentToken {req : MintRequest} {minted : MintedToken}
    (h : mintEnrollmentToken env entropy clock db req = .ok (minted, db')) :
    Ledger.Changes env clock Rotates Purges db.ledger db'.ledger := by
  unfold mintEnrollmentToken at h
  split_ifs at h
  · cases h
  · obtain ⟨_, -, h⟩ := bind_eq_ok.mp h
    obtain ⟨inserted, hinsert, h⟩ := bind_eq_ok.mp h
    obtain ⟨-, rfl⟩ := Prod.mk.inj (Except.ok.inj h)
    obtain ⟨hnew, rfl⟩ := Db.insertToken_ok hinsert
    exact .single (.mint _ hnew rfl (matchesHex_tokenDigestOf env _))

/-- What the first use of a token leaves: the token consumed and its result recorded,
with a node of the result that is active. -/
structure FirstUse (db db' : Db) {l : Ledger} (use : TokenUse l) (entry : TokenRow)
    (content : String) (kind : Purpose) (stamp : ℤ) (result : EnrollmentResult) : Prop where
  tokens_before : l.tokens = db.tokens
  results_before : l.results = db.results
  entry_eq : use.entry = entry
  result_eq : use.result =
    ⟨content, entry.tokenDigest, use.result.requestId, kind, result.nodeId, result, stamp⟩
  key_nodeId : use.key.nodeId = result.nodeId
  member : (result.nodeId, .active) ∈ db'.ledger.members
  oneNode : OneNode db.ledger.members db'.ledger.members db.nodeKeys db'.nodeKeys result.nodeId
  tokens : db'.tokens = use.tokens
  results : db'.results = l.results ++ [use.result]

theorem provisionRouteKey_ok {admission : Admission} {createdAt auditedAt : ℤ} {nodeId : String}
    (h : admission.provisionRouteKey env entropy db createdAt auditedAt nodeId = .ok db') :
    db'.ledger = db.ledger ∨ ∃ row, row.nodeId = nodeId ∧ Provisionable env db.hubRouteKeys row ∧
      db'.ledger = { db.ledger with hubRouteKeys := db.hubRouteKeys ++ [row] } := by
  unfold Admission.provisionRouteKey at h
  split_ifs at h
  · obtain ⟨⟨row, _⟩, hensure, rfl⟩ := map_eq_ok.mp h
    rcases ensureHubRouteKey_ok hensure with ⟨-, rfl⟩ | ⟨-, hnode, hrow, hledger⟩
    · exact .inl rfl
    · exact .inr ⟨row, hnode, hrow, hledger⟩
  · exact .inl (congrArg Db.ledger (Except.ok.inj h).symm)

theorem admitNode_ok {entry : TokenRow} {fields : EnrollFields} {actor keyId : String}
    {admission : Admission} {result : EnrollmentResult} (hentry : entry ∈ db.tokens)
    (hunconsumed : entry.consumedAt = none)
    (h : admitNode env entropy clock db entry fields actor keyId admission = .ok (result, db')) :
    ∃ use : TokenUse db.ledger,
      FirstUse db db' use entry (enrollContent entry.tokenDigest fields) admission.kind (clock 1)
        result ∧
        Ledger.Changes env clock Rotates Purges db.ledger db'.ledger := by
  obtain ⟨db1, hnode, h⟩ := bind_eq_ok.mp h
  obtain ⟨hnodes, hdb1⟩ := Db.insertNode_ok hnode
  obtain ⟨db2, hkey, h⟩ := bind_eq_ok.mp h
  obtain ⟨hkeys, hdb2⟩ := Db.insertNodeKey_ok hkey
  obtain ⟨db3, hroute, h⟩ := bind_eq_ok.mp h
  obtain ⟨db4, hresult, h⟩ := bind_eq_ok.mp h
  obtain ⟨hresults, hdb4⟩ := Db.insertResult_ok hresult
  obtain ⟨rfl, hdb'⟩ := Prod.mk.inj (Except.ok.inj h)
  rw [hdb1] at hkeys
  have hledger' : db'.ledger = db4.ledger := by rw [← hdb', Db.ledger_recordAudit]
  have hledger2 : db2.ledger = { db2.ledger with results := db.results } := by rw [hdb2, hdb1]; rfl
  have hroute := provisionRouteKey_ok hroute
  have hresults3 : db3.results = db.results := by
    rcases hroute with hroute | ⟨row, -, -, hroute⟩
    · exact congrArg Ledger.results (hroute.trans hledger2)
    · exact (congrArg Ledger.results hroute).trans (congrArg Ledger.results hledger2)
  rw [hresults3] at hresults hdb4
  let use : TokenUse db.ledger :=
    { entry
      key :=
        { nodeId := "node_" ++ entropy.randomHex 0 16
          keyId
          publicKey := fields.publicKey
          createdAt := clock 1 }
      result := _
      entry_mem := hentry
      unconsumed := hunconsumed
      key_new := hkeys
      key_state := rfl
      key_revokeAfter := rfl
      result_new := hresults
      result_tokenDigest := rfl
      result_key := ⟨":" ++ fields.requestId ++ ":" ++ fields.publicKey,
        by simp [enrollContent, String.append_assoc]⟩ }
  have hadmitted : { db2.ledger with results := db.results ++ [use.result] } = use.admitted := by
    rw [hdb2, hdb1]
    simp [Db.ledger, NodeRow.member, Db.consumeToken, TokenUse.admitted, TokenUse.tokens, use]
  have hadmission : Ledger.Change env clock Rotates Purges db.ledger use.admitted := by
    refine .enter use fun member hmember => ?_
    obtain ⟨node, hmem, rfl⟩ := List.mem_map.mp hmember
    exact hnodes node hmem
  have hmember : (use.key.nodeId, .active) ∈ use.admitted.members := by simp [TokenUse.admitted]
  rcases hroute with hroute | ⟨row, hnode, hrow, hroute⟩
  · have hfinal : db'.ledger = use.admitted := by
      rw [hledger', hdb4, ← hadmitted, ← hroute]
      rfl
    refine ⟨use, ⟨rfl, rfl, rfl, rfl, rfl, ?_, ?_, congrArg Ledger.tokens hfinal,
      congrArg Ledger.results hfinal⟩, ?_⟩
    · rw [hfinal]
      exact hmember
    · rw [hfinal, show db'.nodeKeys = use.admitted.nodeKeys from congrArg Ledger.nodeKeys hfinal]
      exact use.oneNode_admitted
    · rw [hfinal]
      exact .single hadmission
  · have hroutes : db2.hubRouteKeys = db.hubRouteKeys := by rw [hdb2, hdb1]; rfl
    rw [hroutes] at hrow hroute
    have hfinal : db'.ledger =
        { use.admitted with hubRouteKeys := db.hubRouteKeys ++ [row] } := by
      rw [hledger', hdb4, ← hadmitted]
      have : ({ db3 with results := db.results ++ [use.result] } : Db).ledger =
          { db3.ledger with results := db.results ++ [use.result] } := rfl
      rw [this, hroute]
    refine ⟨use, ⟨rfl, rfl, rfl, rfl, rfl, ?_, ?_, congrArg Ledger.tokens hfinal,
      congrArg Ledger.results hfinal⟩, ?_⟩
    · rw [hfinal]
      exact hmember
    · rw [hfinal, show db'.nodeKeys = use.admitted.nodeKeys from congrArg Ledger.nodeKeys hfinal]
      exact use.oneNode_admitted
    · rw [hfinal]
      exact .tail (.single hadmission) (.provision row (hnode ▸ hmember) hrow)

theorem reserveNonceRow_ok {nodeId nonce : String} {createdAt : ℤ}
    (h : reserveNonceRow db nodeId nonce createdAt = .ok db') :
    (∀ other ∈ db.nonces, (other.nodeId, other.nonce) ≠ (nodeId, nonce)) ∧
      db' = { db with nonces := db.nonces ++ [⟨nodeId, nonce, createdAt⟩] } := by
  unfold reserveNonceRow at h
  split at h
  case h_1 inserted hinsert =>
    rw [← Except.ok.inj h]
    exact Db.insertNonce_ok hinsert
  case h_2 => cases h

theorem restoreNode_ok {entry : TokenRow} {fields : ReenrollFields} {actor newKeyId : String}
    {historical : NodeKeyRow} {result : EnrollmentResult} (hentry : entry ∈ db.tokens)
    (hunconsumed : entry.consumedAt = none)
    (htombstoned : (fields.nodeId, .tombstoned) ∈ db.ledger.members)
    (h : restoreNode env entropy clock db entry fields actor historical newKeyId =
      .ok (result, db')) :
    ∃ (l : Ledger) (use : TokenUse l),
      FirstUse db db' use entry (reenrollContent entry.tokenDigest fields) .reenroll (clock 3)
        result ∧
        Ledger.Changes env clock Rotates Purges db.ledger db'.ledger := by
  obtain ⟨db1, hnonce, h⟩ := bind_eq_ok.mp h
  obtain ⟨hnonces, hdb1⟩ := reserveNonceRow_ok hnonce
  obtain ⟨db2, hresult, h⟩ := bind_eq_ok.mp h
  obtain ⟨hresults, hdb2⟩ := Db.insertResult_ok hresult
  obtain ⟨db3, hkey, h⟩ := bind_eq_ok.mp h
  obtain ⟨hkeys, hdb3⟩ := Db.insertNodeKey_ok hkey
  obtain ⟨⟨row, db4⟩, hensure, h⟩ := bind_eq_ok.mp h
  obtain ⟨rfl, hdb'⟩ := Prod.mk.inj (Except.ok.inj h)
  have hreserve : Ledger.Change env clock Rotates Purges db.ledger db1.ledger := by
    rw [hdb1]
    exact .reserve ⟨fields.nodeId, fields.nonce, clock 2⟩ hnonces
  have hmember1 : (fields.nodeId, .tombstoned) ∈ db1.ledger.members := by rw [hdb1]; exact htombstoned
  have hentry1 : entry ∈ db1.ledger.tokens := by rw [hdb1]; exact hentry
  have hresults1 : db1.results = db.results := by rw [hdb1]
  have htokens1 : db1.tokens = db.tokens := by rw [hdb1]
  have hmembers1 : db1.ledger.members = db.ledger.members := by rw [hdb1]; rfl
  have hkeys1 : db1.nodeKeys = db.nodeKeys := by rw [hdb1]
  rw [hdb2] at hkeys
  let use : TokenUse db1.ledger :=
    { entry
      key :=
        { nodeId := fields.nodeId
          keyId := newKeyId
          publicKey := fields.newPublicKey
          createdAt := clock 3 }
      result := _
      entry_mem := hentry1
      unconsumed := hunconsumed
      key_new := hkeys
      key_state := rfl
      key_revokeAfter := rfl
      result_new := hresults
      result_tokenDigest := rfl
      result_key := ⟨":" ++ fields.requestId ++ ":" ++ fields.nodeId ++ ":" ++ fields.newPublicKey,
        by simp [reenrollContent, String.append_assoc]⟩ }
  have hledger3 : db3.ledger = { db1.ledger with
      nodeKeys := db1.nodeKeys ++ [use.key]
      tokens := use.tokens
      results := db1.results ++ [use.result] } := by
    rw [hdb3, hdb2]
    rfl
  have hledger3' := db3.ledger_updateNode_state fields.nodeId (resetNode (clock 3)) .active
    fun _ => ⟨rfl, rfl⟩
  have hledger' : db'.ledger = { db4.ledger with
      nodeKeys := updateWhere (NodeKeyRow.isKey fields.nodeId historical.keyId)
        (fun row => { row with revocationReason := some "reenroll-possession" })
        db4.ledger.nodeKeys } := by
    rw [← hdb', Db.ledger_recordEvent, Db.ledger_recordAudit]
    rfl
  have hmember : (use.key.nodeId, .active) ∈ (use.restored historical.keyId).members :=
    mem_updateWhere.mpr (.inr ⟨_, hmember1, by simp [use], rfl⟩)
  have hrestore : Ledger.Change env clock Rotates Purges db1.ledger (use.restored historical.keyId) :=
    .restore use hmember1 historical.keyId
  rcases ensureHubRouteKey_ok hensure with ⟨-, rfl⟩ | ⟨-, hnode, hrow, hroute⟩
  · have hfinal : db'.ledger = use.restored historical.keyId := by
      rw [hledger', hledger3', hledger3]
      rfl
    refine ⟨_, use, ⟨htokens1, hresults1, rfl, rfl, rfl, ?_, ?_, congrArg Ledger.tokens hfinal,
      congrArg Ledger.results hfinal⟩, ?_⟩
    · rw [hfinal]
      exact hmember
    · rw [hfinal, show db'.nodeKeys = (use.restored historical.keyId).nodeKeys from
        congrArg Ledger.nodeKeys hfinal, ← hmembers1, ← hkeys1]
      exact use.oneNode_restored historical.keyId
    · rw [hfinal]
      exact .tail (.single hreserve) hrestore
  · have hroutes : (db3.updateNode fields.nodeId (resetNode (clock 3))).hubRouteKeys =
        db1.hubRouteKeys := by rw [hdb3, hdb2]; rfl
    rw [hroutes] at hrow hroute
    have hfinal : db'.ledger =
        { use.restored historical.keyId with hubRouteKeys := db1.hubRouteKeys ++ [row] } := by
      rw [hledger', hroute, hledger3', hledger3]
      rfl
    refine ⟨_, use, ⟨htokens1, hresults1, rfl, rfl, rfl, ?_, ?_, congrArg Ledger.tokens hfinal,
      congrArg Ledger.results hfinal⟩, ?_⟩
    · rw [hfinal]
      exact hmember
    · rw [hfinal, show db'.nodeKeys = (use.restored historical.keyId).nodeKeys from
        congrArg Ledger.nodeKeys hfinal, ← hmembers1, ← hkeys1]
      exact use.oneNode_restored historical.keyId
    · rw [hfinal]
      exact .tail (.tail (.single hreserve) hrestore)
        (.provision row (hnode ▸ hmember) hrow)

/-! ### Token requests -/

namespace TokenRequest

def kind : TokenRequest → Purpose
  | .enroll _ => .enroll
  | .pair _ => .pair
  | .reenroll _ => .reenroll

def token : TokenRequest → Option String
  | .enroll req => req.token
  | .pair req => req.token
  | .reenroll req => req.token

/-- The digest under which the token of a request is stored. -/
def tokenDigest (env : Env) (req : TokenRequest) : String := tokenDigestOf env (req.token.getD "")

/-- The content that a result is recorded under. -/
def idempotencyKey (env : Env) : TokenRequest → String
  | .enroll req => enrollContent (tokenDigestOf env (req.token.getD "")) req.fields
  | .pair req => enrollContent (tokenDigestOf env (req.token.getD "")) req.fields
  | .reenroll req => reenrollContent (tokenDigestOf env (req.token.getD "")) req.fields

/-- The purpose and the binding that a request needs of its token. -/
def Fits (entry : TokenRow) : TokenRequest → Prop
  | .enroll _ => entry.purpose = .enroll
  | .pair _ => entry.purpose = .pair ∧ entry.boundNodeId = none
  | .reenroll req => entry.purpose = .reenroll ∧ entry.boundNodeId = some (req.nodeId.getD "")

/-- The reading of the clock that dates the first use of a token. -/
def stamp (clock : Clock) : TokenRequest → ℤ
  | .enroll _ => clock 1
  | .pair _ => clock 1
  | .reenroll _ => clock 3

end TokenRequest

theorem getToken_some {digest : String} {entry : TokenRow} (h : db.getToken digest = some entry) :
    entry ∈ db.tokens ∧ entry.tokenDigest = digest :=
  ⟨List.mem_of_find?_eq_some h, by simpa using List.find?_some h⟩

theorem replayOrDeny_ok {entry : TokenRow} {kind : Purpose} {content : String}
    {result : EnrollmentResult} (h : replayOrDeny db entry kind content = .ok result) :
    ∃ recorded, db.getResult content kind = some recorded ∧
      recorded.tokenDigest = entry.tokenDigest ∧ recorded.result = result := by
  unfold replayOrDeny at h
  split at h
  case h_1 recorded hrecorded =>
    split_ifs at h with hdigest
    · exact ⟨recorded, hrecorded, hdigest, Except.ok.inj h⟩
    · cases h
  case h_2 => cases h

/-- What an accepted token request did: it found a result on record, and the database
is unchanged, or it was the first use of its token. -/
inductive Accepted (env : Env) (clock : Clock) (Rotates : NodeKeyRow → Prop) (Purges : Prop)
    (db db' : Db)    (req : TokenRequest) (entry : TokenRow) (result : EnrollmentResult) : Prop
  | recorded (row : ResultRow)
      (hrow : db.getResult (req.idempotencyKey env) req.kind = some row)
      (htoken : entry.consumedAt.isSome = true → row.tokenDigest = entry.tokenDigest)
      (hresult : row.result = result) (hdb : db' = db)
  | first (hunconsumed : entry.consumedAt = none)
      (hnone : db.getResult (req.idempotencyKey env) req.kind = none)
      (l : Ledger) (use : TokenUse l)
      (hfirst : FirstUse db db' use entry (req.idempotencyKey env) req.kind (req.stamp clock) result)
      (hchanges : Ledger.Changes env clock Rotates Purges db.ledger db'.ledger)

theorem enroll_ok {req : EnrollRequest} {result : EnrollmentResult}
    (h : enroll env entropy clock db req = .ok (result, db')) :
    ∃ entry, db.getToken (tokenDigestOf env (req.token.getD "")) = some entry ∧
      TokenRequest.Fits entry (.enroll req) ∧
        Accepted env clock Rotates Purges db db' (.enroll req) entry result := by
  obtain ⟨fields, hfields, h⟩ := bind_eq_ok.mp h
  obtain ⟨rfl, -⟩ := checkEnrollFields_eq_ok.mp hfields
  split at h
  case h_1 => cases h
  case h_2 entry hentry =>
    obtain ⟨hmem, hdigest⟩ := getToken_some hentry
    have hcontent : enrollContent entry.tokenDigest req.fields =
        (TokenRequest.enroll req).idempotencyKey env := by rw [hdigest]; rfl
    dsimp only at h
    split_ifs at h with hpurpose hconsumed hexpired
    · cases h
    · obtain ⟨_, hreplay, h⟩ := bind_eq_ok.mp h
      obtain ⟨rfl, rfl⟩ := Prod.mk.inj (Except.ok.inj h)
      obtain ⟨row, hrow, htoken, hresult⟩ := replayOrDeny_ok hreplay
      rw [hcontent] at hrow
      exact ⟨entry, hentry, not_not.mp hpurpose, .recorded row hrow (fun _ => htoken) hresult rfl⟩
    · cases h
    · obtain ⟨keyId, -, h⟩ := bind_eq_ok.mp h
      rw [Option.not_isSome_iff_eq_none] at hconsumed
      split at h
      case h_1 row hrow =>
        obtain ⟨rfl, rfl⟩ := Prod.mk.inj (Except.ok.inj h)
        rw [hcontent] at hrow
        exact ⟨entry, hentry, not_not.mp hpurpose, .recorded row hrow (fun h => by simp [hconsumed] at h) rfl rfl⟩
      case h_2 hnone =>
        obtain ⟨use, hfirst, hchanges⟩ := admitNode_ok hmem hconsumed h
        rw [hcontent] at hfirst hnone
        exact ⟨entry, hentry, not_not.mp hpurpose, .first hconsumed hnone _ use hfirst hchanges⟩

/-- The first use of an unexpired token admits a node. -/
theorem enroll_eq_admitNode {req : EnrollRequest} {entry : TokenRow} {keyId : String}
    (hfields : req.fields.WellFormed)
    (htoken : db.getToken (tokenDigestOf env req.fields.token) = some entry)
    (hpurpose : entry.purpose = .enroll) (hunconsumed : entry.consumedAt = none)
    (hexpiry : clock 0 < entry.expiresAt)
    (hkeyId : deriveKeyId env.crypto req.fields.publicKey = .ok keyId)
    (hnone : db.getResult (enrollContent entry.tokenDigest req.fields) .enroll = none) :
    enroll env entropy clock db req =
      admitNode env entropy clock db entry req.fields req.actor keyId enrollAdmission := by
  have hcheck : checkEnrollFields req "enrollmentRequestId" = .ok req.fields :=
    checkEnrollFields_eq_ok.mpr ⟨rfl, hfields⟩
  simp only [enroll, hcheck, bind, Except.bind, htoken, hpurpose, ne_eq, not_true, if_false,
    hunconsumed, Option.isSome_none, Bool.false_eq_true, not_le.mpr hexpiry, hkeyId, orThrow, hnone]

theorem pair_ok {req : EnrollRequest} {result : EnrollmentResult}
    (h : pair env entropy clock db req = .ok (result, db')) :
    ∃ entry, db.getToken (tokenDigestOf env (req.token.getD "")) = some entry ∧
      TokenRequest.Fits entry (.pair req) ∧
        Accepted env clock Rotates Purges db db' (.pair req) entry result := by
  obtain ⟨fields, hfields, h⟩ := bind_eq_ok.mp h
  obtain ⟨rfl, -⟩ := checkEnrollFields_eq_ok.mp hfields
  split at h
  case h_1 => cases h
  case h_2 hubBaseUrl _ =>
    split at h
    case h_1 => cases h
    case h_2 entry hentry =>
      obtain ⟨hmem, hdigest⟩ := getToken_some hentry
      have hcontent : enrollContent entry.tokenDigest req.fields =
          (TokenRequest.pair req).idempotencyKey env := by rw [hdigest]; rfl
      dsimp only at h
      split_ifs at h with hpurpose hbound hconsumed hexpired
      · cases h
      · cases h
      · obtain ⟨_, hreplay, h⟩ := bind_eq_ok.mp h
        obtain ⟨rfl, rfl⟩ := Prod.mk.inj (Except.ok.inj h)
        obtain ⟨row, hrow, htoken, hresult⟩ := replayOrDeny_ok hreplay
        rw [hcontent] at hrow
        exact ⟨entry, hentry, ⟨not_not.mp hpurpose, by simpa using hbound⟩, .recorded row hrow (fun _ => htoken) hresult rfl⟩
      · cases h
      · rw [Option.not_isSome_iff_eq_none] at hconsumed
        split at h
        case h_1 row hrow =>
          obtain ⟨rfl, rfl⟩ := Prod.mk.inj (Except.ok.inj h)
          rw [hcontent] at hrow
          exact ⟨entry, hentry, ⟨not_not.mp hpurpose, by simpa using hbound⟩, .recorded row hrow (fun h => by simp [hconsumed] at h) rfl rfl⟩
        case h_2 hnone =>
          obtain ⟨keyId, -, h⟩ := bind_eq_ok.mp h
          split_ifs at h with hidentity
          · cases h
          · obtain ⟨use, hfirst, hchanges⟩ := admitNode_ok hmem hconsumed h
            rw [hcontent] at hfirst hnone
            exact ⟨entry, hentry, ⟨not_not.mp hpurpose, by simpa using hbound⟩,
              .first hconsumed hnone _ use hfirst hchanges⟩

theorem checkPossession_ok {req : ReenrollRequest} {fields : ReenrollFields} {key : NodeKeyRow}
    (h : checkPossession env db req fields = .ok key) :
    (fields.nodeId, .tombstoned) ∈ db.ledger.members := by
  unfold checkPossession at h
  split at h
  case h_1 => cases h
  case h_2 node hnode =>
    split_ifs at h with hstate
    · cases h
    · have := Db.member_of_getNodeRow hnode
      rwa [not_not.mp hstate] at this

theorem reenroll_ok {req : ReenrollRequest} {result : EnrollmentResult}
    (h : reenroll env entropy clock db req = .ok (result, db')) :
    ∃ entry, db.getToken (tokenDigestOf env (req.token.getD "")) = some entry ∧
      TokenRequest.Fits entry (.reenroll req) ∧
        Accepted env clock Rotates Purges db db' (.reenroll req) entry result := by
  obtain ⟨fields, hfields, h⟩ := bind_eq_ok.mp h
  obtain ⟨rfl, -⟩ := checkReenrollFields_ok hfields
  split at h
  case h_1 => cases h
  case h_2 entry hentry =>
    obtain ⟨hmem, hdigest⟩ := getToken_some hentry
    have hcontent : reenrollContent entry.tokenDigest req.fields =
        (TokenRequest.reenroll req).idempotencyKey env := by rw [hdigest]; rfl
    dsimp only at h
    split_ifs at h with hpurpose hbound hconsumed hexpired
    · cases h
    · cases h
    · obtain ⟨_, hreplay, h⟩ := bind_eq_ok.mp h
      obtain ⟨rfl, rfl⟩ := Prod.mk.inj (Except.ok.inj h)
      obtain ⟨row, hrow, htoken, hresult⟩ := replayOrDeny_ok hreplay
      rw [hcontent] at hrow
      exact ⟨entry, hentry, ⟨not_not.mp hpurpose, not_not.mp hbound⟩, .recorded row hrow (fun _ => htoken) hresult rfl⟩
    · cases h
    · obtain ⟨historical, hpossession, h⟩ := bind_eq_ok.mp h
      rw [Option.not_isSome_iff_eq_none] at hconsumed
      split at h
      case h_1 row hrow =>
        obtain ⟨rfl, rfl⟩ := Prod.mk.inj (Except.ok.inj h)
        rw [hcontent] at hrow
        exact ⟨entry, hentry, ⟨not_not.mp hpurpose, not_not.mp hbound⟩, .recorded row hrow (fun h => by simp [hconsumed] at h) rfl rfl⟩
      case h_2 hnone =>
        obtain ⟨newKeyId, -, h⟩ := bind_eq_ok.mp h
        obtain ⟨l, use, hfirst, hchanges⟩ :=
          restoreNode_ok hmem hconsumed (checkPossession_ok hpossession) h
        rw [hcontent] at hfirst hnone
        exact ⟨entry, hentry, ⟨not_not.mp hpurpose, not_not.mp hbound⟩, .first hconsumed hnone l use hfirst hchanges⟩

/-- An accepted token request found a token of its purpose. -/
theorem submit_ok {req : TokenRequest} {result : EnrollmentResult}
    (h : req.submit env entropy clock db = .ok (result, db')) :
    ∃ entry, db.getToken (req.tokenDigest env) = some entry ∧ req.Fits entry ∧
      Accepted env clock Rotates Purges db db' req entry result := by
  cases req with
  | enroll req => exact enroll_ok h
  | pair req => exact pair_ok h
  | reenroll req => exact reenroll_ok h

theorem changes_submit {req : TokenRequest} {result : EnrollmentResult}
    (h : req.submit env entropy clock db = .ok (result, db')) :
    Ledger.Changes env clock Rotates Purges db.ledger db'.ledger := by
  obtain ⟨entry, -, -, haccepted⟩ := submit_ok h
  cases haccepted with
  | recorded row hrow htoken hresult hdb => rw [hdb]
  | first hunconsumed hnone l use hfirst hchanges => exact hchanges

/-! ### Machine requests -/

/-- What the check of a machine request establishes. -/
structure Checked (clock : Clock) (db : Db) (fields : MachineFields) (node : NodeRow)
    (key : NodeKeyRow) : Prop where
  skew : InMachineSkew (clock 0) fields.timestamp
  node_eq : db.getNodeRow fields.nodeId = some node
  active : node.state = .active
  key_eq : db.getKeyRow fields.nodeId fields.keyId = some key
  accepted : key.AcceptedAt (clock 1)

theorem checkMachineRequest_ok {req : MachineRequest} {fields : MachineFields} {node : NodeRow}
    {key : NodeKeyRow} (h : checkMachineRequest env clock db req = .ok (fields, node, key)) :
    checkMachineFields req = .ok fields ∧ Checked clock db fields node key := by
  obtain ⟨fields', hfields, h⟩ := bind_eq_ok.mp h
  split_ifs at h with hskew
  · split at h
    case h_1 => cases h
    case h_2 node' hnode =>
      split_ifs at h with hactive
      · cases h
      · split at h
        case h_1 => cases h
        case h_2 key' hkey =>
          split_ifs at h with haccepted
          · obtain ⟨verified, -, h⟩ := bind_eq_ok.mp h
            split_ifs at h
            · cases h
            · obtain ⟨rfl, rfl, rfl⟩ : fields' = fields ∧ node' = node ∧ key' = key := by
                simpa using h
              exact ⟨hfields, hskew, hnode, not_not.mp hactive, hkey, haccepted⟩
          · cases h
  · cases h

/-- The signing string of a request whose fields were checked. -/
def MachineRequest.signingString (req : MachineRequest) (fields : MachineFields) : String :=
  buildSigningString
    { label := machineV1Label
      method := req.method
      path := req.path
      timestamp := req.timestamp.getD "undefined"
      nonce := fields.nonce
      bodyHash := req.bodyHash
      nodeId := fields.nodeId }

theorem checkMachineRequest_of_checked {req : MachineRequest} {fields : MachineFields}
    {node : NodeRow} {key : NodeKeyRow} (hfields : checkMachineFields req = .ok fields)
    (hchecked : Checked clock db fields node key)
    (hverified : verifySigningString env.crypto key.publicKey (req.signingString fields)
      fields.signature = .ok true) :
    checkMachineRequest env clock db req = .ok (fields, node, key) := by
  refine bind_eq_ok.mpr ⟨fields, hfields, ?_⟩
  rw [MachineRequest.signingString] at hverified
  simp only [hchecked.skew, not_true, if_false, hchecked.node_eq, hchecked.active, ne_eq,
    hchecked.key_eq, hchecked.accepted, hverified, orThrow]
  rfl

namespace Checked

variable {fields : MachineFields} {node : NodeRow} {key : NodeKeyRow}

theorem member (h : Checked clock db fields node key) :
    (node.nodeId, .active) ∈ db.ledger.members := by
  have := Db.member_of_getNodeRow h.node_eq
  rwa [h.active, ← Db.nodeId_of_getNodeRow h.node_eq] at this

theorem key_mem (h : Checked clock db fields node key) :
    key ∈ db.nodeKeys ∧ key.nodeId = node.nodeId ∧ key.keyId = fields.keyId := by
  obtain ⟨hmem, hnode, hkeyId⟩ := Db.mem_of_getKeyRow h.key_eq
  exact ⟨hmem, hnode.trans (Db.nodeId_of_getNodeRow h.node_eq).symm, hkeyId⟩

end Checked

theorem authenticateMachine_ok {req : MachineRequest} {node : NodeRow} {key : NodeKeyRow}
    (h : authenticateMachine env clock db req = .ok (node, key, db')) :
    ∃ fields, checkMachineFields req = .ok fields ∧ Checked clock db fields node key ∧
      (∀ other ∈ db.nonces, (other.nodeId, other.nonce) ≠ (fields.nodeId, fields.nonce)) ∧
      db' = { db with nonces := db.nonces ++ [⟨fields.nodeId, fields.nonce, clock 2⟩] } := by
  obtain ⟨⟨fields, node', key'⟩, hcheck, h⟩ := bind_eq_ok.mp h
  obtain ⟨reserved, hreserve, h⟩ := bind_eq_ok.mp h
  obtain ⟨rfl, rfl, rfl⟩ : node' = node ∧ key' = key ∧ reserved = db' := by simpa using h
  obtain ⟨hfields, hchecked⟩ := checkMachineRequest_ok hcheck
  obtain ⟨hnew, hdb⟩ := reserveNonceRow_ok hreserve
  exact ⟨fields, hfields, hchecked, hnew, hdb⟩

theorem authenticateMachine_of_check {req : MachineRequest} {fields : MachineFields} {node : NodeRow}
    {key : NodeKeyRow} (hcheck : checkMachineRequest env clock db req = .ok (fields, node, key))
    (hnew : ∀ other ∈ db.nonces, (other.nodeId, other.nonce) ≠ (fields.nodeId, fields.nonce)) :
    authenticateMachine env clock db req = .ok (node, key,
      { db with nonces := db.nonces ++ [⟨fields.nodeId, fields.nonce, clock 2⟩] }) := by
  have hinsert : insertUnique (fun row : NonceRow => (row.nodeId, row.nonce))
      ⟨fields.nodeId, fields.nonce, clock 2⟩ db.nonces = _ :=
    insertUnique_eq_some.mpr ⟨hnew, rfl⟩
  refine bind_eq_ok.mpr ⟨_, hcheck, bind_eq_ok.mpr ⟨_, ?_, rfl⟩⟩
  simp only [reserveNonceRow, Db.insertNonce, hinsert]

theorem ledger_acknowledgeHubRouteKeys {activatedAt overlapFrom auditedAt : ℤ} {nodeId : String}
    {ids : List Json} :
    (db.acknowledgeHubRouteKeys env activatedAt overlapFrom auditedAt nodeId ids).ledger =
      { db.ledger with
        hubRouteKeys := (db.acknowledgeHubRouteKeys env activatedAt overlapFrom auditedAt nodeId
          ids).hubRouteKeys } := by
  unfold Db.acknowledgeHubRouteKeys
  split
  · rfl
  · split_ifs <;> rfl
  · split
    · split_ifs <;> rfl
    · rfl

theorem changes_recordAcknowledgement (db : Db) (nodeId : String) (ids : Option Json) :
    Ledger.Changes env clock Rotates Purges db.ledger
        (recordAcknowledgement env clock db nodeId ids).ledger ∧
      (recordAcknowledgement env clock db nodeId ids).ledger.members = db.ledger.members := by
  unfold recordAcknowledgement
  split
  · exact ⟨.refl, rfl⟩
  · exact ⟨changes_acknowledgeHubRouteKeys, by rw [ledger_acknowledgeHubRouteKeys]⟩

theorem changes_heartbeat {node : NodeRow} {rawBody : Option Json} {response : HeartbeatResponse}
    (hmember : (node.nodeId, .active) ∈ db.ledger.members)
    (h : heartbeatAuthenticated env entropy clock db node rawBody = .ok (response, db')) :
    Ledger.Changes env clock Rotates Purges db.ledger db'.ledger := by
  obtain ⟨body, -, h⟩ := bind_eq_ok.mp h
  obtain ⟨runtime, -, h⟩ := bind_eq_ok.mp h
  obtain ⟨⟨row, ensured⟩, hensure, h⟩ := bind_eq_ok.mp h
  obtain ⟨-, rfl⟩ := Prod.mk.inj (Except.ok.inj h)
  rw [← ledger_recordHeartbeat env clock db node runtime] at hmember ⊢
  obtain ⟨hchanges, hmembers⟩ := changes_recordAcknowledgement
    (recordHeartbeat env clock db node runtime) node.nodeId (body.field "acceptedHubRouteKeyIds")
  exact hchanges.trans (changes_ensureHubRouteKey (hmembers ▸ hmember) hensure)

theorem ledger_uploadReport {node : NodeRow} {rawBody : Option Json} {response : UploadResponse}
    (h : uploadReportAuthenticated env clock db node rawBody = .ok (response, db')) :
    db'.ledger = db.ledger := by
  obtain ⟨input, -, h⟩ := bind_eq_ok.mp h
  split at h
  case h_1 => cases h
  case h_2 report _ =>
    obtain ⟨_, -, h⟩ := bind_eq_ok.mp h
    obtain ⟨-, rfl⟩ := Prod.mk.inj (Except.ok.inj h)
    refine (Db.ledger_updateNode _ _ _ ?_).trans ?_
    · exact fun _ => ⟨rfl, rfl⟩
    · rw [Db.ledger_transitionDimension, Db.ledger_transitionDimension, Db.ledger_insertEvent]
      rfl

/-- Whether a rotation body names a key that the node does not have. -/
def NamesNewKey (env : Env) (db : Db) (nodeId : String) (rawBody : Option Json) : Prop :=
  ∃ body newPublicKey newKeyId, rawBody = some body ∧ rotationPublicKey body = .ok newPublicKey ∧
    deriveKeyId env.crypto newPublicKey = .ok newKeyId ∧ db.getKeyRow nodeId newKeyId = none

theorem rotateCredential_ok {node : NodeRow} {key : NodeKeyRow} {rawBody : Option Json}
    {response : RotationResponse}
    (h : rotateCredentialAuthenticated env clock db node key rawBody = .ok (response, db')) :
    NamesNewKey env db node.nodeId rawBody ∧ ∃ new : NodeKeyRow, new.nodeId = node.nodeId ∧
      (∀ other ∈ db.nodeKeys, (other.nodeId, other.keyId) ≠ (new.nodeId, new.keyId)) ∧
      new.state = .active ∧ new.revokeAfter = none ∧
      response = ⟨key.keyId, new.keyId, clock 4 + env.config.rotationOverlapMs⟩ ∧
      db'.ledger = { db.ledger with
        nodeKeys := updateWhere (NodeKeyRow.isKey node.nodeId key.keyId)
          (fun row => { row with revokeAfter := some (clock 4 + env.config.rotationOverlapMs) })
          db.nodeKeys ++ [new] } := by
  obtain ⟨body, hbody, h⟩ := bind_eq_ok.mp h
  obtain ⟨newPublicKey, hpublicKey, h⟩ := bind_eq_ok.mp h
  obtain ⟨newKeyId, hkeyId, h⟩ := bind_eq_ok.mp h
  have hraw := parseJsonBody_eq_ok.mp hbody
  have hderived := orThrow_eq_ok.mp hkeyId
  split_ifs at h with hsame
  · cases h
  · obtain ⟨inserted, hinsert, h⟩ := bind_eq_ok.mp h
    obtain ⟨rfl, rfl⟩ := Prod.mk.inj (Except.ok.inj h)
    obtain ⟨hnew, rfl⟩ := Db.insertNodeKey_ok hinsert
    -- the update of the signing key leaves node and key ids as they are
    have hfresh : ∀ other ∈ db.nodeKeys, (other.nodeId, other.keyId) ≠ (node.nodeId, newKeyId) := by
      intro other hother heq
      refine hnew _ (mem_updateWhere_of_mem hother) ?_
      split_ifs <;> exact heq
    refine ⟨⟨body, newPublicKey, newKeyId, hraw, hpublicKey, hderived, ?_⟩,
      ⟨_, newKeyId, newPublicKey, .active, clock 3, none, none, none⟩, rfl, hfresh, rfl, rfl, rfl,
      rfl⟩
    exact List.find?_eq_none.mpr fun other hother => by simpa using hfresh other hother

/-- A rotation that its call authenticates, signed with the key, that names a new key. -/
def RotationSignedWith (env : Env) (db : Db) (call : Call) (key : NodeKeyRow) : Prop :=
  ∃ req rawBody node db', call.operation = .machine req (.rotateCredential rawBody) ∧
    authenticateMachine env call.clock db req = .ok (node, key, db') ∧
    NamesNewKey env db node.nodeId rawBody

theorem changes_perform {req : MachineRequest} {business : Business} {node : NodeRow}
    {key : NodeKeyRow} {db1 : Db}
    (hrotates : ∀ rawBody, business = .rotateCredential rawBody →
      NamesNewKey env db node.nodeId rawBody → Rotates key)
    (hauth : authenticateMachine env clock db req = .ok (node, key, db1))
    (h : business.perform env entropy clock db1 node key = .ok db') :
    Ledger.Changes env clock Rotates Purges db1.ledger db'.ledger := by
  obtain ⟨fields, -, hchecked, -, hdb1⟩ := authenticateMachine_ok hauth
  have hmember : (node.nodeId, .active) ∈ db1.ledger.members := by
    rw [hdb1]
    exact hchecked.member
  cases business with
  | nothing => rw [Except.ok.inj h]
  | heartbeat rawBody =>
    obtain ⟨⟨response, _⟩, hbeat, rfl⟩ := map_eq_ok.mp h
    exact changes_heartbeat hmember hbeat
  | uploadReport rawBody =>
    obtain ⟨⟨response, _⟩, hupload, rfl⟩ := map_eq_ok.mp h
    rw [ledger_uploadReport hupload]
  | rotateCredential rawBody =>
    obtain ⟨⟨response, _⟩, hrotate, rfl⟩ := map_eq_ok.mp h
    obtain ⟨hnames, new, hnode, hnew, hstate, hrevokeAfter, -, hledger⟩ :=
      rotateCredential_ok hrotate
    have hnames' : NamesNewKey env db node.nodeId rawBody := by
      rw [hdb1] at hnames
      exact hnames
    obtain ⟨hkey, hkeyNode, -⟩ := hchecked.key_mem
    have hkey1 : key ∈ db1.nodeKeys := by
      rw [hdb1]
      exact hkey
    rw [hledger, ← hkeyNode]
    exact .single (.rotate key new hkey1 hchecked.accepted (hkeyNode ▸ hmember)
      (hrotates rawBody rfl hnames') (hnode.trans hkeyNode.symm) hnew hstate hrevokeAfter)

theorem changes_serveMachine {req : MachineRequest} {business : Business}
    (hrotates : ∀ rawBody node key db1, business = .rotateCredential rawBody →
      authenticateMachine env clock db req = .ok (node, key, db1) →
      NamesNewKey env db node.nodeId rawBody → Rotates key) :
    Ledger.Changes env clock Rotates Purges db.ledger
      (serveMachine env entropy clock db req business).ledger := by
  unfold serveMachine
  split
  case h_1 => exact .refl
  case h_2 node key db1 hauth =>
    obtain ⟨fields, -, -, hnew, hdb1⟩ := authenticateMachine_ok hauth
    have hreserve : Ledger.Changes env clock Rotates Purges db.ledger db1.ledger := by
      rw [hdb1]
      exact .single (.reserve ⟨fields.nodeId, fields.nonce, clock 2⟩ hnew)
    cases hperform : business.perform env entropy clock db1 node key with
    | error fault => exact hreserve
    | ok db' =>
      exact hreserve.trans (changes_perform
        (fun rawBody hbusiness => hrotates rawBody node key db1 hbusiness hauth) hauth hperform)

/-! ### Deletion and the route of a node -/

theorem ledger_tombstoneNode (node : NodeRow) (actor requestId reason : String) :
    (tombstoneNode clock db node actor requestId reason).ledger = { db.ledger with
      members := updateWhere (fun member => member.1 = node.nodeId)
        (fun member => (member.1, .tombstoned)) db.ledger.members
      nodeKeys := updateWhere (fun row => row.nodeId = node.nodeId ∧ row.state = .active)
        (NodeKeyRow.deleted (clock 0)) db.nodeKeys
      hubRouteKeys := updateWhere (fun row => row.nodeId = node.nodeId ∧ row.state ≠ .revoked)
        (HubRouteKeyRow.deleted (clock 0)) db.hubRouteKeys } := by
  have hnode := db.ledger_updateNode_state node.nodeId
    (fun row => { row with
      state := .tombstoned
      tombstonedAt := some (clock 0)
      tombstoneReason := some reason
      authenticated := .revoked }) .tombstoned fun _ => ⟨rfl, rfl⟩
  have hmembers := congrArg Ledger.members hnode
  unfold tombstoneNode
  simp only [Db.ledger_recordEvent, Db.ledger_recordAudit]
  split_ifs
  · rw [Db.ledger_setReachable]
    simp only [Db.ledger, Ledger.mk.injEq] at hmembers ⊢
    exact ⟨hmembers, rfl, rfl, rfl, rfl, rfl⟩
  · simp only [Db.ledger, Ledger.mk.injEq] at hmembers ⊢
    exact ⟨hmembers, rfl, rfl, rfl, rfl, rfl⟩

theorem changes_tombstoneNode (node : NodeRow) (actor requestId reason : String) :
    Ledger.Changes env clock Rotates Purges db.ledger
      (tombstoneNode clock db node actor requestId reason).ledger := by
  rw [ledger_tombstoneNode]
  exact .single (.tombstone node.nodeId (clock 0))

theorem changes_deleteNode {s : RegistryState} {req : DeleteRequest} :
    Ledger.Changes env clock Rotates Purges s.db.ledger
      (commitState s (deleteNode clock s req)).db.ledger := by
  cases h : deleteNode clock s req with
  | error fault => exact .refl
  | ok answer =>
    obtain ⟨nodeId, -, h⟩ := bind_eq_ok.mp h
    obtain ⟨requestId, -, h⟩ := bind_eq_ok.mp h
    obtain ⟨reason, -, h⟩ := bind_eq_ok.mp h
    split_ifs at h
    · cases h
    · split at h
      case h_1 => cases h
      case h_2 node _ =>
        split at h
        case h_1 =>
          split_ifs at h
          · rw [← Except.ok.inj h]
            exact .refl
          · cases h
        case h_2 =>
          split_ifs at h
          · cases h
          · rw [← Except.ok.inj h]
            exact changes_tombstoneNode node req.actor requestId reason

theorem ledger_abandonProbe (now : ℤ) (s : RegistryState) (node : NodeRow) (source : String) :
    (abandonProbe now s node source).db.ledger = s.db.ledger := by
  unfold abandonProbe
  dsimp only
  split_ifs
  · exact Db.ledger_setReachable ..
  · rfl

theorem ledger_probeNode (s : RegistryState) (nodeId : String) :
    (probeNode clock s nodeId).2.db.ledger = s.db.ledger := by
  unfold probeNode
  split
  · rfl
  · split_ifs
    · rfl
    · exact ledger_abandonProbe ..
    · split
      · exact ledger_abandonProbe ..
      · split
        · exact ledger_abandonProbe ..
        · rfl

theorem ledger_recordProbeResult (s : RegistryState) (nodeId : String) (success : Bool)
    (context : ProbeContext) :
    (recordProbeResult clock s nodeId success context).2.db.ledger = s.db.ledger := by
  unfold recordProbeResult
  split
  · rfl
  · dsimp only
    split_ifs <;> first | rfl | exact ledger_abandonProbe .. | exact Db.ledger_setReachable ..

theorem ledger_setRouteTarget {s : RegistryState} {actor nodeId : Option String} {target : Json} :
    (commitState s (setRouteTarget env clock s actor nodeId target)).db.ledger = s.db.ledger := by
  cases h : setRouteTarget env clock s actor nodeId target with
  | error fault => rfl
  | ok answer =>
    obtain ⟨nodeId, -, h⟩ := bind_eq_ok.mp h
    obtain ⟨actor, -, h⟩ := bind_eq_ok.mp h
    split at h
    case h_1 => cases h
    case h_2 node _ =>
      split_ifs at h
      · cases h
      · split at h
        case h_1 => cases h
        case h_2 origin _ =>
          rw [← Except.ok.inj h]
          refine (Db.ledger_setReachable ..).trans ?_
          cases s.db.getRouteTarget nodeId <;> rfl

theorem ledger_setRouteMode {s : RegistryState} {actor nodeId : Option String}
    {routeMode : Option RouteMode} :
    (commitState s (setRouteMode clock s actor nodeId routeMode)).db.ledger = s.db.ledger := by
  cases h : setRouteMode clock s actor nodeId routeMode with
  | error fault => rfl
  | ok answer =>
    obtain ⟨actor, -, h⟩ := bind_eq_ok.mp h
    obtain ⟨nodeId, -, h⟩ := bind_eq_ok.mp h
    split at h
    case h_1 => cases h
    case h_2 mode =>
      split at h
      case h_1 => cases h
      case h_2 node _ =>
        split_ifs at h
        · cases h
        · rw [← Except.ok.inj h]
          rfl
        · rw [← Except.ok.inj h]
          refine (Db.ledger_recordEvent ..).trans ((Db.ledger_recordAudit ..).trans
            ((Db.ledger_updateNode _ _ _ ?_).trans (Db.ledger_transitionDimension ..)))
          exact fun _ => ⟨rfl, rfl⟩
        · rw [← Except.ok.inj h]
          refine (Db.ledger_recordEvent ..).trans ((Db.ledger_recordAudit ..).trans
            (Db.ledger_updateNode _ _ _ ?_))
          exact fun _ => ⟨rfl, rfl⟩

theorem ledger_removeRouteTarget {s : RegistryState} {actor nodeId : Option String} :
    (commitState s (removeRouteTarget clock s actor nodeId)).db.ledger = s.db.ledger := by
  cases h : removeRouteTarget clock s actor nodeId with
  | error fault => rfl
  | ok answer =>
    obtain ⟨nodeId, -, h⟩ := bind_eq_ok.mp h
    obtain ⟨actor, -, h⟩ := bind_eq_ok.mp h
    split at h
    case h_1 => cases h
    case h_2 =>
      rw [← Except.ok.inj h]
      refine (Db.ledger_setReachable ..).trans ?_
      cases s.db.getRouteTarget nodeId <;> rfl

/-! ### Sessions -/

theorem ledger_bootstrapSession {principal : String} {row : SessionRow}
    (h : bootstrapSession entropy clock db principal = .ok (row, db')) : db'.ledger = db.ledger := by
  unfold bootstrapSession at h
  dsimp only at h
  split at h
  case h_1 => cases h
  case h_2 =>
    obtain ⟨-, rfl⟩ := Prod.mk.inj (Except.ok.inj h)
    rfl

theorem ledger_validateSession {sessionId : String} :
    (validateSession clock db sessionId).2.ledger = db.ledger := by
  unfold validateSession
  split
  · rfl
  · split_ifs <;> rfl

theorem ledger_endSession {sessionId actor : String} :
    (endSession clock db sessionId actor).2.ledger = db.ledger := by
  unfold endSession
  split <;> rfl

/-! ### Maintenance -/

/-- The loop over ended node keys revokes each of them and changes no other key. -/
theorem forEachRow_expireNodeKey (ended : List NodeKeyRow) (s : Db × Clock) :
    ∃ f : NodeKeyRow → NodeKeyRow,
      (∀ row, f row = row ∨ (∃ key ∈ ended, key.isKey row.nodeId row.keyId = true) ∧
        ∃ revokedAt, f row = row.expired revokedAt) ∧
      (forEachRow 1 expireNodeKey ended s).1.ledger =
        { s.1.ledger with nodeKeys := s.1.nodeKeys.map f } := by
  induction ended generalizing s with
  | nil => exact ⟨id, fun row => .inl rfl, by simp [forEachRow, Db.ledger]⟩
  | cons key rest ih =>
    obtain ⟨f, hf, hledger⟩ := ih (expireNodeKey s.2 s.1 key, s.2.drop 1)
    have hthen := updateWhere_then (g := NodeKeyRow.expired) (fun _ _ _ => rfl) hf
      (fun row => row.nodeId = key.nodeId ∧ row.keyId = key.keyId) (s.2 0)
    refine ⟨_, fun row => (hthen row).imp_right (And.imp_left ?_), hledger.trans ?_⟩
    · rintro (hrow | ⟨other, hother, hsame⟩)
      · obtain ⟨hnode, hkey⟩ := of_decide_eq_true hrow
        exact ⟨key, List.mem_cons_self, by simp [NodeKeyRow.isKey, hnode, hkey]⟩
      · exact ⟨other, List.mem_cons_of_mem key hother, hsame⟩
    · simp [expireNodeKey, Db.ledger, updateWhere, NodeKeyRow.expired]

/-- The same of the loop over ended route keys. -/
theorem forEachRow_expireRouteKey (ended : List HubRouteKeyRow) (s : Db × Clock) :
    ∃ f : HubRouteKeyRow → HubRouteKeyRow,
      (∀ row, f row = row ∨ (∃ key ∈ ended, key.isKey row.nodeId row.keyId = true) ∧
        ∃ revokedAt, f row = row.expired revokedAt) ∧
      (forEachRow 2 expireRouteKey ended s).1.ledger =
        { s.1.ledger with hubRouteKeys := s.1.hubRouteKeys.map f } := by
  induction ended generalizing s with
  | nil => exact ⟨id, fun row => .inl rfl, by simp [forEachRow, Db.ledger]⟩
  | cons key rest ih =>
    obtain ⟨f, hf, hledger⟩ := ih (expireRouteKey s.2 s.1 key, s.2.drop 2)
    have hthen := updateWhere_then (g := HubRouteKeyRow.expired) (fun _ _ _ => rfl) hf
      (fun row => row.nodeId = key.nodeId ∧ row.keyId = key.keyId) (s.2 0)
    refine ⟨_, fun row => (hthen row).imp_right (And.imp_left ?_), hledger.trans ?_⟩
    · rintro (hrow | ⟨other, hother, hsame⟩)
      · obtain ⟨hnode, hkey⟩ := of_decide_eq_true hrow
        exact ⟨key, List.mem_cons_self, by simp [HubRouteKeyRow.isKey, hnode, hkey]⟩
      · exact ⟨other, List.mem_cons_of_mem key hother, hsame⟩
    · simp [expireRouteKey, Db.ledger, Db.recordAudit, Db.updateHubRouteKey, updateWhere,
        HubRouteKeyRow.expired]

theorem changes_expireNodeKeys (s : Db × Clock) :
    Ledger.Changes env clock Rotates Purges s.1.ledger (expireNodeKeys s).1.ledger := by
  obtain ⟨f, hf, hledger⟩ :=
    forEachRow_expireNodeKey (endedNodeKeys s.1 (s.2 0)) (s.1, s.2.drop 1)
  rw [expireNodeKeys, hledger]
  refine .single (.expireNodeKeys f (s.2 0) fun row => (hf row).imp_right ?_)
  rintro ⟨⟨key, hkey, hsame⟩, hexpired⟩
  obtain ⟨hmem, hstate, hended⟩ : key ∈ s.1.nodeKeys ∧ key.state = .active ∧
      overlapEnded key.revokeAfter (s.2 0) = true := by
    simpa [endedNodeKeys] using hkey
  exact ⟨key, hmem, hsame, hstate, hended, hexpired⟩

theorem changes_expireRouteKeys (s : Db × Clock) :
    Ledger.Changes env clock Rotates Purges s.1.ledger (expireRouteKeys s).1.ledger := by
  obtain ⟨f, hf, hledger⟩ :=
    forEachRow_expireRouteKey (endedRouteKeys s.1 (s.2 0)) (s.1, s.2.drop 1)
  rw [expireRouteKeys, hledger]
  refine .single (.expireRouteKeys f (s.2 0) fun row => (hf row).imp_right ?_)
  rintro ⟨⟨key, hkey, hsame⟩, hexpired⟩
  obtain ⟨hmem, hstate, hended⟩ : key ∈ s.1.hubRouteKeys ∧ key.state = .rotating ∧
      overlapEnded key.revokeAfter (s.2 0) = true := by
    simpa [endedRouteKeys] using hkey
  exact ⟨key, hmem, hsame, hstate, hended, hexpired⟩

theorem changes_maintenance (config : Config) (hpurges : Purges) :
    Ledger.Changes env clock Rotates Purges db.ledger (maintenance config clock db).2.ledger := by
  rw [maintenance, ledger_ageRecords]
  have hnode : Ledger.Changes env clock Rotates Purges _ _ := changes_expireNodeKeys (db, clock.drop 1)
  have hroute : Ledger.Changes env clock Rotates Purges _ _ :=
    changes_expireRouteKeys (expireNodeKeys (db, clock.drop 1))
  exact (hnode.trans hroute).tail (.purge hpurges)

/-! ### Steps and runs -/

theorem ledger_commit {attempt : Attempt Db}
    (h : ∀ db', attempt = .ok db' → Ledger.Changes env clock Rotates Purges db.ledger db'.ledger) :
    Ledger.Changes env clock Rotates Purges db.ledger (commit db attempt).ledger := by
  cases attempt with
  | error fault => exact .refl
  | ok db' => exact h db' rfl

/-- Every step is a sequence of changes. -/
theorem step_changes {s : RegistryState} {call : Call}
    (hrotates : ∀ key, RotationSignedWith env s.db call key → Rotates key)
    (hpurges : call.operation = .maintenance → Purges) :
    Ledger.Changes env call.clock Rotates Purges s.db.ledger (step env s call).db.ledger := by
  obtain ⟨operation, clock, entropy⟩ := call
  cases operation with
  | mintEnrollmentToken req =>
    refine ledger_commit fun db' h => ?_
    obtain ⟨⟨minted, _⟩, hmint, rfl⟩ := map_eq_ok.mp h
    exact changes_mintEnrollmentToken hmint
  | useToken req =>
    refine ledger_commit fun db' h => ?_
    obtain ⟨⟨result, _⟩, hsubmit, rfl⟩ := map_eq_ok.mp h
    exact changes_submit hsubmit
  | machine req business =>
    refine changes_serveMachine fun rawBody node key db1 hbusiness hauth hnames => ?_
    subst hbusiness
    exact hrotates key ⟨req, rawBody, node, db1, rfl, hauth, hnames⟩
  | deleteNode req => exact changes_deleteNode
  | setRouteTarget actor nodeId routeTarget => rw [step, ledger_setRouteTarget]
  | setRouteMode actor nodeId routeMode => rw [step, ledger_setRouteMode]
  | removeRouteTarget actor nodeId => rw [step, ledger_removeRouteTarget]
  | rotateHubRouteKey actor nodeId =>
    refine ledger_commit fun db' h => ?_
    obtain ⟨⟨result, _⟩, hrotate, rfl⟩ := map_eq_ok.mp h
    exact changes_rotateHubRouteKey hrotate
  | probeNode nodeId => rw [step, ledger_probeNode]
  | recordProbeResult nodeId answer context => rw [step, ledger_recordProbeResult]
  | bootstrapSession principal =>
    refine ledger_commit fun db' h => ?_
    obtain ⟨⟨row, _⟩, hsession, rfl⟩ := map_eq_ok.mp h
    rw [ledger_bootstrapSession hsession]
  | validateSession sessionId => rw [step, ledger_validateSession]
  | endSession sessionId actor => rw [step, ledger_endSession]
  | recordAudit actor action detail => rw [step, Db.ledger_recordAudit]
  | maintenance =>
    rw [step]
    dsimp only
    exact changes_maintenance env.config (hpurges rfl)
  | restart => rw [step, ledger_reconcileNodeCapabilities]

/-- A step that is read without a condition on its rotations. -/
theorem step_changes_any (s : RegistryState) (call : Call) :
    Ledger.Changes env call.clock (fun _ => True) True s.db.ledger (step env s call).db.ledger :=
  step_changes (fun _ _ => trivial) fun _ => trivial

/-- What every change keeps holds after every run. -/
theorem run_invariant {I : Ledger → Prop}
    (hI : ∀ clock l l', Ledger.Change env clock (fun _ => True) True l l' → I l → I l')
    {s : RegistryState} (calls : List Call) (hs : I s.db.ledger) :
    I (run env s calls).db.ledger := by
  induction calls generalizing s with
  | nil => exact hs
  | cons call rest ih =>
    exact ih ((step_changes_any s call).invariant (hI call.clock) hs)

end DshOrbit.Registry
