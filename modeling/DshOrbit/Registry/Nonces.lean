import DshOrbit.Registry.Steps

/-!
# Nonces of machine requests

A machine request is accepted once. Its nonce is reserved with a time in
milliseconds and purged a day later; its timestamp, in seconds, is accepted
within thirty seconds of the clock. By the time the nonce is gone the timestamp
is long out of the window, at the boundary instants as well.

## Main definitions

- `Accepts` — a call accepts a machine request

## Main results

- `run_nonce` — a reserved nonce stays until a day has passed
- `machine_request_accepted_once`
-/

namespace DshOrbit.Registry

open DshOrbit.Lib DshOrbit.Protocol

variable {env : Env} {s : RegistryState}

/-- The call is a machine request that passes its authentication, with its nonce. -/
def Accepts (env : Env) (s : RegistryState) (call : Call) (req : MachineRequest) : Prop :=
  ∃ business node key db, call.operation = .machine req business ∧
    authenticateMachine env call.clock s.db req = .ok (node, key, db)

/-- The headers that a signed request is identified by. -/
def SameRequest (a b : MachineRequest) : Prop :=
  a.nodeId = b.nodeId ∧ a.nonce = b.nonce ∧ a.timestamp = b.timestamp

/-! ### The life of a reserved nonce -/

/-- Only a purge removes a nonce, and only once its retention has passed. -/
theorem change_nonce {clock : Clock} {Rotates : NodeKeyRow → Prop} {Purges : Prop} {l l' : Ledger}
    (h : Ledger.Change env clock Rotates Purges l l') {row : NonceRow}
    (hrow : row ∈ l.nonces ∨ row.createdAt ≤ clock 0 - nonceRetentionMs) :
    row ∈ l'.nonces ∨ row.createdAt ≤ clock 0 - nonceRetentionMs := by
  refine hrow.elim (fun hmem => ?_) .inr
  cases h with
  | reserve other => exact .inl (List.mem_append_left _ hmem)
  | purge =>
    by_cases hold : row.createdAt ≤ clock 0 - nonceRetentionMs
    · exact .inr hold
    · exact .inl (mem_deleteWhere.mpr ⟨hmem, by simpa using hold⟩)
  | _ => exact .inl hmem

theorem step_nonce (env : Env) {call : Call} {row : NonceRow} (h : row ∈ s.db.nonces) :
    row ∈ (step env s call).db.nonces ∨ row.createdAt ≤ call.clock 0 - nonceRetentionMs :=
  (step_changes_any s call).invariant (fun _ _ hchange => change_nonce hchange) (.inl h)

/-- After any run a reserved nonce is still there, or one of the calls came a day
after it. -/
theorem run_nonce (env : Env) (calls : List Call) {row : NonceRow} (h : row ∈ s.db.nonces) :
    row ∈ (run env s calls).db.nonces ∨
      ∃ call ∈ calls, row.createdAt ≤ call.clock 0 - nonceRetentionMs := by
  induction calls generalizing s with
  | nil => exact .inl h
  | cons call rest ih =>
    rcases step_nonce env h with hmem | hold
    · exact (ih hmem).imp_right fun ⟨other, hother, hold⟩ =>
        ⟨other, List.mem_cons_of_mem call hother, hold⟩
    · exact .inr ⟨call, List.mem_cons_self, hold⟩

/-! ### Acceptance -/

/-- An accepted request leaves its nonce in the table, whatever its operation does. -/
theorem nonce_of_accepts {call : Call} {req : MachineRequest}
    (hclock : call.clock 0 ≤ call.clock 2) (h : Accepts env s call req) :
    ∃ fields, checkMachineFields req = .ok fields ∧
      InMachineSkew (call.clock 0) fields.timestamp ∧
      ⟨fields.nodeId, fields.nonce, call.clock 2⟩ ∈ (step env s call).db.nonces := by
  obtain ⟨business, node, key, db, hoperation, hauth⟩ := h
  obtain ⟨fields, hfields, hchecked, -, hdb⟩ := authenticateMachine_ok hauth
  refine ⟨fields, hfields, hchecked.skew, ?_⟩
  have hreserved : (⟨fields.nodeId, fields.nonce, call.clock 2⟩ : NonceRow) ∈ db.nonces := by
    rw [hdb]
    simp
  simp only [step, hoperation, serveMachine, hauth]
  cases hperform : business.perform env call.entropy call.clock db node key with
  | error fault => exact hreserved
  | ok db' =>
    have hchanges : Ledger.Changes env call.clock (fun _ => True) True db.ledger db'.ledger :=
      changes_perform (fun _ _ _ => trivial) hauth hperform
    rcases hchanges.invariant (fun _ _ hchange => change_nonce hchange) (.inl hreserved) with
      hmem | hold
    · exact hmem
    · simp only [nonceRetentionMs] at hold
      omega

/-- A nonce in the table refuses every request that carries it. -/
theorem not_accepts_of_nonce {call : Call} {req : MachineRequest} {row : NonceRow}
    (hrow : row ∈ s.db.nonces) (hnode : row.nodeId = req.nodeId.getD "")
    (hnonce : row.nonce = req.nonce.getD "") : ¬Accepts env s call req := by
  rintro ⟨business, node, key, db, -, hauth⟩
  obtain ⟨fields, hfields, -, hnew, -⟩ := authenticateMachine_ok hauth
  obtain ⟨hnode', hnonce', -⟩ := checkMachineFields_ok hfields
  exact hnew row hrow (by rw [hnode, hnonce, hnode', hnonce'])

/-- A day after a timestamp was in the window, it is out of it. -/
theorem not_inMachineSkew_of_retention {now stamp later timestamp : ℤ}
    (hskew : InMachineSkew now timestamp) (hstamp : now ≤ stamp)
    (hlater : stamp ≤ later - nonceRetentionMs) : ¬InMachineSkew later timestamp := by
  simp only [InMachineSkew, signatureSkewSeconds, nonceRetentionMs, abs_le] at hskew hlater ⊢
  omega

/-- A machine request is accepted at most once in any run, and once its nonce has been
purged its timestamp is outside the accepted skew. -/
theorem machine_request_accepted_once (env : Env) (s : RegistryState) (before between : List Call)
    (first second : Call) (req again : MachineRequest)
    (hordered : Ordered (before ++ first :: (between ++ [second])))
    (haccepts : Accepts env (run env s before) first req) (hsame : SameRequest req again) :
    ¬Accepts env (run env s (before ++ first :: between)) second again ∧
      ∀ timestamp, parseTimestamp req.timestamp = some timestamp →
        (∀ row ∈ (run env s (before ++ first :: between)).db.nonces,
          (row.nodeId, row.nonce) ≠ (req.nodeId.getD "", req.nonce.getD "")) →
        ∀ now, (∀ call ∈ between, ∀ n, call.clock n ≤ now) → ¬InMachineSkew now timestamp := by
  have hmonotone : Monotone first.clock := hordered.1 first (by simp)
  obtain ⟨fields, hfields, hskew, hreserved⟩ :=
    nonce_of_accepts (hmonotone (Nat.zero_le 2)) haccepts
  obtain ⟨hnode, hnonce, htimestamp⟩ := checkMachineFields_ok hfields
  have hrun : run env s (before ++ first :: between) =
      run env (step env (run env s before) first) between := run_append env s before _
  rw [hrun]
  rcases run_nonce env between hreserved with hmem | ⟨purge, hpurge, hold⟩
  · -- the nonce is still in the table
    refine ⟨not_accepts_of_nonce hmem (hnode.trans (congrArg (·.getD "") hsame.1))
      (hnonce.trans (congrArg (·.getD "") hsame.2.1)), fun timestamp _ hgone => ?_⟩
    exact absurd (Prod.ext hnode hnonce) (hgone _ hmem)
  · have hout : ∀ now, purge.clock 0 ≤ now → ¬InMachineSkew now fields.timestamp :=
      fun now hnow => not_inMachineSkew_of_retention hskew (hmonotone (Nat.zero_le 2))
        (hold.trans (by simpa using hnow))
    constructor
    · rintro ⟨business, node, key, db, -, hauth⟩
      obtain ⟨fields', hfields', hchecked, -, -⟩ := authenticateMachine_ok hauth
      have heq : fields'.timestamp = fields.timestamp := by
        have := (checkMachineFields_ok hfields').2.2
        rw [← hsame.2.2, htimestamp] at this
        exact (Option.some.inj this).symm
      refine hout (second.clock 0) ?_ (heq ▸ hchecked.skew)
      have hordered' : Ordered ((before ++ first :: between) ++ [second]) := by
        simpa using hordered
      exact hordered'.le (by simp [hpurge]) (by simp) 0 0
    · intro timestamp hparsed _ now hnow
      have heq : fields.timestamp = timestamp := Option.some.inj (htimestamp.symm.trans hparsed)
      exact heq ▸ hout now (hnow purge hpurge 0)

/-! ### A registry with one node -/

def samplePublicKey : String := "8a88e3dd7409f195fd52db2d3cba5d72ca6709bf1d94121bf3748801b40f6f5c"

def sampleKeyId : String := "34750f98bd59fcfc946da45aaabe933b"

def sampleNodeId : String := "node_4e4e4e4e4e4e4e4e4e4e4e4e4e4e4e4e"

/-- SHA-256 on the inputs of the sample, told apart by their first bytes: two enrollment
tokens, three public keys of the node and two of the Hub. -/
def sampleSha256 : List UInt8 → List UInt8
  | 0x37 :: 0x30 :: _ =>
    fromHex "cd9fd3bd6b3c42459948fa49a5a4012a8c7f59697453f5893b9593d382ea8137".toList
  | 0x37 :: 0x31 :: _ =>
    fromHex "cad0e26a5865c86de0622b0e0229b0f49eec472a773717ee18fbe0277cad14cd".toList
  | 0x8a :: _ => fromHex "34750f98bd59fcfc946da45aaabe933be154a4b5094e1c4abf42866505f3c97e".toList
  | 0x81 :: _ => fromHex "6a3803d5f059902a1c6dafbc9ba4729212f7caac08634cc3ae76b27529f03827".toList
  | 0xed :: _ => fromHex "b62e867fa2f33afe62d5d6b1642e1621d543307846b2a57b897e710919b76709".toList
  | 0xd0 :: _ => fromHex "10ba682c8ad13513971e8b56881aab8bd702bb807796eca81932c735a94d6e6d".toList
  | 0x20 :: _ => fromHex "b0066359d64f97eb279947feeb083a96343d5f5a0a2c9cf82842f6f4749ff534".toList
  | _ => List.replicate 32 0

/-- Every signature of the sample is one that Ed25519 accepts. -/
def sampleCrypto : Crypto where
  sha256 := sampleSha256
  length_sha256 data := by
    unfold sampleSha256
    split <;>
      first
        | exact (congrArg (fun chars => (fromHex chars).length) String.toList_ofList).trans rfl
        | rfl
  verify _ _ _ := true

def sampleConfig : Config where
  heartbeatCadenceSeconds := 60
  rotationOverlapHours := 24
  hubRouteOverlapDays := 30
  routeDomain := "dsh.example.com"
  pairingHubBaseUrl := none
  rotationOverlap_min := by decide
  rotationOverlap_max := by decide
  hubRouteOverlap_min := by decide
  hubRouteOverlap_max := by decide

def sampleEnv : Env where
  config := sampleConfig
  crypto := sampleCrypto
  createCompatibilityReport _ := .error "compatibility report must be an object"
  validateRouteTargetOrigin _ := .error "route target must be a string"

theorem isPublicKey_sample : isPublicKey samplePublicKey = true :=
  (matchesHex_ofList 64 _).trans rfl

theorem isNodeId_sample : isNodeId sampleNodeId = true := (isNodeId_ofList _).trans rfl

theorem deriveKeyId_of_isPublicKey {crypto : Crypto} {publicKey : String}
    (h : isPublicKey publicKey = true) :
    deriveKeyId crypto publicKey =
      .ok (String.ofList ((sha256Hex crypto (fromHex publicKey.toList)).toList.take 32)) := by
  simp only [deriveKeyId, rawPublicKey, h]
  rfl

theorem deriveKeyId_sample : deriveKeyId sampleCrypto samplePublicKey = .ok sampleKeyId := by
  have hraw : ∃ rest, fromHex samplePublicKey.toList = 0x8a :: rest :=
    ⟨_, (congrArg fromHex String.toList_ofList).trans rfl⟩
  obtain ⟨rest, hraw⟩ := hraw
  have hdigest : sampleCrypto.sha256 (0x8a :: rest) = _ := congrArg fromHex String.toList_ofList
  rw [deriveKeyId_of_isPublicKey isPublicKey_sample, hraw, sha256Hex, hdigest, toHex,
    String.toList_ofList]
  rfl

/-- The random values of a call: one byte throughout, and a key pair of the Hub. -/
def sampleEntropy (byte : UInt8) : Entropy where
  randomBytes _ byteLength := List.replicate byteLength byte
  length_randomBytes _ _ := List.length_replicate
  keyPair :=
    { publicKeyHex := "d04ab232742bb4ab3a1368bd4615e4e6d0224ab71a016baf8520a332c9778737"
      privateKeyHex := "1111111111111111111111111111111111111111111111111111111111111111"
      publicKey_wellFormed := (matchesHex_ofList 64 _).trans rfl }

/-! ### Its enrollment -/

def sampleToken : String := "70707070707070707070707070707070"

def sampleMint : Call :=
  { operation := .mintEnrollmentToken
      { actor := "operator", purpose := .enroll, boundNodeId := none }
    clock := fun _ => 1700000000000
    entropy := sampleEntropy 0x70 }

def sampleTokenRow : TokenRow :=
  { tokenId := "etok_7070707070707070"
    tokenDigest := tokenDigestOf sampleEnv sampleToken
    purpose := .enroll
    boundNodeId := none
    createdAt := 1700000000000
    expiresAt := 1700000000000 + tokenTtlSecondsDefault * 1000 }

def mintedDb : Db :=
  ({ tokens := [sampleTokenRow] } : Db).recordAudit 1700000000000 "operator" "hub.tokens.create"
    (.obj [("tokenId", .str sampleTokenRow.tokenId), ("purpose", .str "enroll"),
      ("boundNodeId", .null), ("expiresAt", .str (toIsoString sampleTokenRow.expiresAt))])

theorem step_sampleMint : step sampleEnv {} sampleMint = ⟨mintedDb, []⟩ := rfl

def sampleEnrollRequest : EnrollRequest :=
  { token := some sampleToken
    requestId := some "d0d0d0d0d0d0d0d0d0d0d0d0d0d0d0d0"
    publicKey := some samplePublicKey }

def sampleEnroll : Call :=
  { operation := .useToken (.enroll sampleEnrollRequest)
    clock := fun _ => 1700000000000
    entropy := sampleEntropy 0x4e }

/-- A node that enrolled with the sample key. -/
def sampleNode : NodeRow :=
  { nodeId := sampleNodeId, mintedAt := 1700000000000, authenticated := .ok }

def sampleNodeKey : NodeKeyRow :=
  { nodeId := sampleNodeId
    keyId := sampleKeyId
    publicKey := samplePublicKey
    createdAt := 1700000000000 }

def enrolledResult : EnrollmentResult :=
  { nodeId := sampleNodeId
    keyId := sampleKeyId
    tokenId := sampleTokenRow.tokenId
    heartbeatCadenceSeconds := 60 }

def enrolledDb : Db :=
  ({ nodes := [sampleNode]
     nodeKeys := [sampleNodeKey]
     tokens := [{ sampleTokenRow with
       consumedAt := some 1700000000000
       consumedBy := some sampleNodeId }]
     results := [⟨enrollContent sampleTokenRow.tokenDigest sampleEnrollRequest.fields,
       sampleTokenRow.tokenDigest, "d0d0d0d0d0d0d0d0d0d0d0d0d0d0d0d0", .enroll, sampleNodeId,
       enrolledResult, 1700000000000⟩]
     audit := mintedDb.audit
     nextAuditId := 2 } : Db).recordAudit 1700000000000 ("system:" ++ sampleNodeId)
    "node.enrolled" (.obj [("nodeId", .str sampleNodeId), ("keyId", .str sampleKeyId),
      ("tokenId", .str sampleTokenRow.tokenId)])

theorem enroll_sample :
    enroll sampleEnv (sampleEntropy 0x4e) (fun _ => 1700000000000) mintedDb sampleEnrollRequest =
      .ok (enrolledResult, enrolledDb) := by
  have hfields : sampleEnrollRequest.fields.WellFormed :=
    ⟨(matchesHex_ofList 32 _).trans rfl, (matchesHex_ofList 32 _).trans rfl, isPublicKey_sample⟩
  have htoken : mintedDb.getToken (tokenDigestOf sampleEnv sampleEnrollRequest.fields.token) =
      some sampleTokenRow := by
    simp [Db.getToken, mintedDb, sampleTokenRow, Db.recordAudit, EnrollRequest.fields,
      sampleEnrollRequest]
  have hexpiry : (1700000000000 : ℤ) < sampleTokenRow.expiresAt := by decide
  rw [enroll_eq_admitNode hfields htoken rfl rfl hexpiry deriveKeyId_sample rfl]
  rfl

theorem step_sampleEnroll : step sampleEnv ⟨mintedDb, []⟩ sampleEnroll = ⟨enrolledDb, []⟩ := by
  simp only [step, sampleEnroll, TokenRequest.submit, enroll_sample]
  rfl

/-- The calls that enroll the node. -/
def sampleEnrollment : List Call := [sampleMint, sampleEnroll]

theorem run_sampleEnrollment : run sampleEnv {} sampleEnrollment = ⟨enrolledDb, []⟩ := by
  rw [run, sampleEnrollment, runFrom_cons, step_sampleMint, runFrom_cons, step_sampleEnroll]
  rfl

/-! ### Its requests -/

/-- A request that the sample key signs, with its timestamp as text. -/
def sampleRequest (path bodyHash timestamp nonce signature : String) : MachineRequest :=
  { nodeId := some sampleNodeId
    keyId := some sampleKeyId
    method := "POST"
    path
    timestamp := some timestamp
    nonce := some nonce
    bodyHash
    signature := some signature }

theorem parseTimestamp_sample : parseTimestamp (some "1700000000") = some 1700000000 := by
  decide +kernel

theorem checkMachineFields_sample {path bodyHash timestampText nonce signature : String}
    {timestamp : ℤ} (htimestamp : parseTimestamp (some timestampText) = some timestamp)
    (hnonce : matchesHex 32 nonce = true) (hsignature : matchesHex 128 signature = true) :
    checkMachineFields (sampleRequest path bodyHash timestampText nonce signature) =
      .ok ⟨sampleNodeId, sampleKeyId, timestamp, nonce, signature⟩ := by
  have hkey : matchesHex 32 sampleKeyId = true := (matchesHex_ofList 32 _).trans rfl
  have hne : sampleNodeId ≠ "" := by simp [sampleNodeId]
  simp only [checkMachineFields, sampleRequest, requireString, requireWire, hne, if_false,
    ne_empty_of_matchesHex hkey, ne_empty_of_matchesHex hsignature, hnonce, hsignature, hkey, if_true,
    isNodeId_sample, Bool.not_true, Bool.false_eq_true, htimestamp, bind, Except.bind]
  rfl

/-- The sample key, where it is accepted, signs what the Hub accepts. -/
theorem checkMachineRequest_sample {clock : Clock} {db : Db} {node : NodeRow} {key : NodeKeyRow}
    {path bodyHash timestampText nonce signature : String} {timestamp : ℤ}
    (htimestamp : parseTimestamp (some timestampText) = some timestamp)
    (hnonce : matchesHex 32 nonce = true) (hsignature : matchesHex 128 signature = true)
    (hskew : InMachineSkew (clock 0) timestamp) (hnode : db.getNodeRow sampleNodeId = some node)
    (hactive : node.state = .active) (hkey : db.getKeyRow sampleNodeId sampleKeyId = some key)
    (hpublicKey : key.publicKey = samplePublicKey) (haccepted : key.AcceptedAt (clock 1)) :
    checkMachineRequest sampleEnv clock db
        (sampleRequest path bodyHash timestampText nonce signature) =
      .ok (⟨sampleNodeId, sampleKeyId, timestamp, nonce, signature⟩, node, key) := by
  refine checkMachineRequest_of_checked (checkMachineFields_sample htimestamp hnonce hsignature)
    ⟨hskew, hnode, hactive, hkey, haccepted⟩ ?_
  rw [hpublicKey]
  exact verifySigningString_eq isPublicKey_sample hsignature

def sampleHeartbeat : MachineRequest :=
  sampleRequest "/api/v1/heartbeat"
    "2430603becf0c27caeb17c8f20a173e7cfbe45d6d47f9ff6d625741b3e96fbf4" "1700000000"
    "b1b1b1b1b1b1b1b1b1b1b1b1b1b1b1b1"
    "ad04b97451fc5ecf26f19b7d2a099e2eefa4f3e9747e0c0d63112bb5ce7af6db64a3de537c9cca81501d94477867b6fcb4f87fe031a8a3e4308f683660125106"

def sampleHeartbeatCall : Call :=
  { operation := .machine sampleHeartbeat .nothing
    clock := fun _ => 1700000000000
    entropy := sampleEntropy 0 }

set_option maxRecDepth 2000 in
theorem accepts_sampleHeartbeat :
    Accepts sampleEnv (run sampleEnv {} sampleEnrollment) sampleHeartbeatCall sampleHeartbeat := by
  rw [run_sampleEnrollment]
  have hnode : enrolledDb.getNodeRow sampleNodeId = some sampleNode := by
    simp [Db.getNodeRow, enrolledDb, Db.recordAudit, sampleNode]
  have hkey : enrolledDb.getKeyRow sampleNodeId sampleKeyId = some sampleNodeKey := by
    simp [Db.getKeyRow, enrolledDb, Db.recordAudit, sampleNodeKey]
  have hcheck : checkMachineRequest sampleEnv sampleHeartbeatCall.clock enrolledDb sampleHeartbeat =
      .ok (_, sampleNode, sampleNodeKey) :=
    checkMachineRequest_sample parseTimestamp_sample ((matchesHex_ofList 32 _).trans rfl)
      ((matchesHex_ofList 128 _).trans rfl) (by decide) hnode rfl hkey rfl (by decide)
  exact ⟨.nothing, _, _, _, rfl, authenticateMachine_of_check hcheck (by simp [enrolledDb,
    Db.recordAudit])⟩

/-- The same heartbeat again: its first arrival used up the nonce. -/
theorem heartbeat_accepted_once :
    Accepts sampleEnv (run sampleEnv {} sampleEnrollment) sampleHeartbeatCall sampleHeartbeat ∧
      ¬Accepts sampleEnv (run sampleEnv {} (sampleEnrollment ++ [sampleHeartbeatCall]))
        sampleHeartbeatCall sampleHeartbeat := by
  have hordered : Ordered (sampleEnrollment ++ sampleHeartbeatCall :: ([] ++ [sampleHeartbeatCall])) := by
    constructor
    · simp [sampleEnrollment, sampleMint, sampleEnroll, sampleHeartbeatCall, monotone_const]
    · simp [sampleEnrollment, sampleMint, sampleEnroll, sampleHeartbeatCall]
  exact ⟨accepts_sampleHeartbeat, (machine_request_accepted_once sampleEnv {} sampleEnrollment []
    sampleHeartbeatCall sampleHeartbeatCall sampleHeartbeat sampleHeartbeat hordered
    accepts_sampleHeartbeat ⟨rfl, rfl, rfl⟩).1⟩

end DshOrbit.Registry
