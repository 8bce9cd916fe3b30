import DshOrbit.NodeClient.Operations
import DshOrbit.Registry.KeyRecords

/-!
# A node client and its Hub

The Hub of a node client is the registry: a request of the client is one of its calls
(`registry/server.mjs`), and so is what everybody else does. Its answer is read off the
same call; a fault is answered with its status, its code and its message.

## Main definitions

- `Serving`, `Ask.operation`, `Ask.reply` — how the Hub serves a request
- `hubService` — the registry as the server of the client
- `Foreign` — a call that is not made with a key of the node

## Main results

- `not_supersedes_of_foreign`
- `keyRecords_act` — calls of others leave the keys of the node as they are
- `keyRecords_serve` — what a served request adds to the keys of the node
-/

namespace DshOrbit.NodeClient

open DshOrbit.Lib DshOrbit.Protocol DshOrbit.Registry

/-! ### Serving -/

/-- What the Hub reads and draws for a request, and whether a limiter refuses it. -/
structure Serving where
  clock : Clock
  entropy : Entropy
  limited : Bool := false

/-- `sendError`. -/
def faultReply {α : Type} : Fault → Reply α
  | .denied status code message => .denied status code message
  | _ => .denied 500 "internal-error" "internal error"

def attemptReply {α : Type} : Attempt (α × Db) → Reply α
  | .ok (body, _) => .ok body
  | .error fault => faultReply fault

/-- The answer of a machine request; its limiter comes after its authentication. -/
def machineReply {α : Type} (env : Env) (serving : Serving) (db : Db) (req : MachineRequest)
    (limit : Option String) (perform : NodeRow → NodeKeyRow → Db → Attempt (α × Db)) : Reply α :=
  match authenticateMachine env serving.clock db req with
  | .error fault => faultReply fault
  | .ok (node, key, db) =>
    match limit with
    | some message =>
      if serving.limited then .denied 429 "rate-limited" message
      else attemptReply (perform node key db)
    | none => attemptReply (perform node key db)

/-- The answer of a request with a token; its limiter comes first. -/
def tokenReply (env : Env) (serving : Serving) (db : Db) (message : String) (req : TokenRequest) :
    Reply EnrollmentResult :=
  if serving.limited then .denied 429 "rate-limited" message
  else attemptReply (req.submit env serving.entropy serving.clock db)

def Ask.reply (env : Env) (db : Db) : (ask : Ask) → Serving → ask.Answer
  | .heartbeat req body, serving =>
    machineReply env serving db req (some "heartbeat rate limit exceeded") fun node _ db =>
      heartbeatAuthenticated env serving.entropy serving.clock db node (some body)
  | .uploadReport req body, serving =>
    machineReply env serving db req (some "report upload rate limit exceeded") fun node _ db =>
      uploadReportAuthenticated env serving.clock db node (some body)
  | .rotateCredential req body, serving =>
    machineReply env serving db req none fun node key db =>
      rotateCredentialAuthenticated env serving.clock db node key (some body)
  | .enroll req, serving =>
    tokenReply env serving db "enrollment attempts per token exceeded" (.enroll req)
  | .pair req, serving =>
    tokenReply env serving db "pairing attempts per token exceeded" (.pair req)
  | .reenroll req, serving =>
    tokenReply env serving db "re-enrollment attempts per token exceeded" (.reenroll req)

/-- What the registry is asked to do for a request; a token request over its limit does not
reach it. -/
def Ask.operation (limited : Bool) : Ask → Option Registry.Operation
  | .heartbeat req body =>
    some (.machine req (if limited then .nothing else .heartbeat (some body)))
  | .uploadReport req body =>
    some (.machine req (if limited then .nothing else .uploadReport (some body)))
  | .rotateCredential req body => some (.machine req (.rotateCredential (some body)))
  | .enroll req => if limited then none else some (.useToken (.enroll req))
  | .pair req => if limited then none else some (.useToken (.pair req))
  | .reenroll req => if limited then none else some (.useToken (.reenroll req))

def serveAsk (env : Env) (h : RegistryState) (ask : Ask) (serving : Serving) : RegistryState :=
  match ask.operation serving.limited with
  | some operation => Registry.step env h ⟨operation, serving.clock, serving.entropy⟩
  | none => h

/-- The registry as the server of a client; others use it too. -/
def hubService (env : Env) : Service RegistryState Ask Call Serving Ask.Answer where
  act := Registry.step env
  serve := serveAsk env
  reply h ask serving := ask.reply env h.db serving

/-! ### Calls of others -/

/-- The call does not prove a key of the node: a rotation in its name is not authenticated, and a
re-enrollment in its name fails its proof of possession. -/
def Foreign (env : Env) (nodeId : String) (h : RegistryState) (call : Call) : Prop :=
  match call.operation with
  | .machine req (.rotateCredential _) => req.nodeId = some nodeId →
      ∃ fault, authenticateMachine env call.clock h.db req = .error fault
  | .useToken (.reenroll req) => req.nodeId = some nodeId →
      ∃ fault, checkPossession env h.db req req.fields = .error fault
  | _ => True

variable {env : Env} {h : RegistryState} {serving : Serving} {nodeId : String} {db : Db}

theorem headers_of_checkMachineFields {req : MachineRequest} {fields : MachineFields}
    (h : checkMachineFields req = .ok fields) :
    req.nodeId = some fields.nodeId ∧ req.keyId = some fields.keyId := by
  obtain ⟨nodeId, hnodeId, h⟩ := bind_eq_ok.mp h
  obtain ⟨keyId, hkeyId, h⟩ := bind_eq_ok.mp h
  obtain ⟨signature, -, h⟩ := bind_eq_ok.mp h
  obtain ⟨_, -, h⟩ := bind_eq_ok.mp h
  obtain ⟨_, -, h⟩ := bind_eq_ok.mp h
  obtain ⟨_, -, h⟩ := bind_eq_ok.mp h
  split_ifs at h
  · cases h
  · split at h
    case h_1 => cases h
    case h_2 timestamp htimestamp =>
      obtain rfl := Except.ok.inj h
      exact ⟨(requireString_eq_ok.mp hnodeId).1, (requireString_eq_ok.mp hkeyId).1⟩

/-- A request that is authenticated names its node, and a key that the node has on record. -/
theorem headers_of_authenticateMachine {clock : Clock} {req : MachineRequest} {node : NodeRow}
    {key : NodeKeyRow} {db1 : Db}
    (h : authenticateMachine env clock db req = .ok (node, key, db1)) :
    req.nodeId = some node.nodeId ∧ ∃ keyId ∈ db.keyIds node.nodeId, req.keyId = some keyId := by
  obtain ⟨fields, hfields, hchecked, -⟩ := authenticateMachine_ok h
  obtain ⟨hnodeId, hkeyId⟩ := headers_of_checkMachineFields hfields
  rw [Db.nodeId_of_getNodeRow hchecked.node_eq]
  obtain ⟨hkey, howner, hid⟩ := Db.mem_of_getKeyRow hchecked.key_eq
  exact ⟨hnodeId, fields.keyId, mem_keyIds.mpr ⟨key, hkey, howner, hid⟩, hkeyId⟩

theorem not_supersedes_of_foreign {call : Call} {node : NodeRow} {key new : NodeKeyRow}
    (hnode : h.db.getNodeRow nodeId = some node) (hforeign : Foreign env nodeId h call) :
    ¬Supersedes env h call node key new := by
  have hid := Db.nodeId_of_getNodeRow hnode
  intro hsupersedes
  cases hsupersedes with
  | rotation hactive hrotation =>
    obtain ⟨req, body, db1, hcall, hauth, -⟩ := hrotation.request
    rw [Foreign, hcall] at hforeign
    obtain ⟨hnodeId, -⟩ := headers_of_authenticateMachine hauth
    obtain ⟨fault, hfault⟩ := hforeign (by rw [hnodeId, hid])
    rw [hfault] at hauth
    cases hauth
  | restoration htombstoned hrestoration =>
    obtain ⟨req, result, db', hcall, hnodeId, -, hpossession, -⟩ := hrestoration.request
    rw [Foreign, hcall] at hforeign
    obtain ⟨fault, hfault⟩ := hforeign (by rw [hnodeId, hid])
    rw [hfault] at hpossession
    cases hpossession

/-- Calls of others leave the keys of the node as they are. -/
theorem keyRecords_act (hhosts : Hosts env nodeId h) {call : Call}
    (hforeign : Foreign env nodeId h call) :
    (Registry.step env h call).db.keyRecords nodeId = h.db.keyRecords nodeId := by
  obtain ⟨node, hnode⟩ := hhosts.row
  rcases @step_keyRecords env _ call _ _ hnode with hsame | ⟨_, _, hsupersedes, -⟩
  · exact hsame
  · exact absurd hsupersedes (not_supersedes_of_foreign hnode hforeign)

/-! ### Served requests -/

/-- The public key that a request asks the Hub to take. -/
def Ask.newPublicKey : Ask → Option String
  | .rotateCredential _ body => (rotationPublicKey body).toOption
  | .reenroll req => some (req.newPublicKey.getD "")
  | _ => none

theorem hosts_serve (hhosts : Hosts env nodeId h) (ask : Ask) (serving : Serving) :
    Hosts env nodeId (serveAsk env h ask serving) := by
  unfold serveAsk
  split
  · exact hhosts.step _
  · exact hhosts

theorem newPublicKey_of_supersedes {ask : Ask} {operation : Registry.Operation} {node : NodeRow}
    {key new : NodeKeyRow} (hoperation : ask.operation serving.limited = some operation)
    (hsupersedes : Supersedes env h ⟨operation, serving.clock, serving.entropy⟩ node key new) :
    ask.newPublicKey = some new.publicKey ∧
      deriveKeyId env.crypto new.publicKey = .ok new.keyId := by
  cases hsupersedes with
  | rotation hactive hrotation =>
    refine ⟨?_, hrotation.keyId⟩
    obtain ⟨req, body, db1, hcall, -, hpublicKey⟩ := hrotation.request
    obtain rfl : operation = _ := hcall
    cases ask with
    | rotateCredential req' body' =>
      obtain ⟨-, hbody⟩ := Operation.machine.inj (Option.some.inj hoperation)
      obtain rfl := Option.some.inj (Business.rotateCredential.inj hbody)
      rw [Ask.newPublicKey, hpublicKey]
      rfl
    | heartbeat req' body' =>
      obtain ⟨-, hbody⟩ := Operation.machine.inj (Option.some.inj hoperation)
      split_ifs at hbody
    | uploadReport req' body' =>
      obtain ⟨-, hbody⟩ := Operation.machine.inj (Option.some.inj hoperation)
      split_ifs at hbody
    | _ =>
      rw [Ask.operation] at hoperation
      split_ifs at hoperation
      cases Option.some.inj hoperation
  | restoration htombstoned hrestoration =>
    refine ⟨?_, hrestoration.keyId⟩
    obtain ⟨req, result, db', hcall, -, hpublicKey, -⟩ := hrestoration.request
    obtain rfl : operation = _ := hcall
    cases ask with
    | reenroll req' =>
      rw [Ask.operation] at hoperation
      split_ifs at hoperation
      obtain rfl := TokenRequest.reenroll.inj (Operation.useToken.inj (Option.some.inj hoperation))
      rw [hpublicKey]
      rfl
    | enroll req' =>
      rw [Ask.operation] at hoperation
      split_ifs at hoperation
      cases Operation.useToken.inj (Option.some.inj hoperation)
    | pair req' =>
      rw [Ask.operation] at hoperation
      split_ifs at hoperation
      cases Operation.useToken.inj (Option.some.inj hoperation)
    | _ => cases Option.some.inj hoperation

/-- A served request adds to the keys of the node at most the one that it asks for. -/
theorem keyRecords_serve (hhosts : Hosts env nodeId h) (ask : Ask) (serving : Serving) :
    (serveAsk env h ask serving).db.keyRecords nodeId = h.db.keyRecords nodeId ∨
      ∃ keyId publicKey, ask.newPublicKey = some publicKey ∧
        deriveKeyId env.crypto publicKey = .ok keyId ∧
        (serveAsk env h ask serving).db.keyRecords nodeId =
          h.db.keyRecords nodeId ++ [(keyId, publicKey)] := by
  obtain ⟨node, hnode⟩ := hhosts.row
  unfold serveAsk
  split
  case h_1 operation hoperation =>
    rcases @step_keyRecords env _ ⟨operation, serving.clock, serving.entropy⟩ _ _ hnode with
      hsame | ⟨key, new, hsupersedes, hadded⟩
    · exact .inl hsame
    · obtain ⟨hpublicKey, hkeyId⟩ := newPublicKey_of_supersedes hoperation hsupersedes
      exact .inr ⟨new.keyId, new.publicKey, hpublicKey, hkeyId, hadded⟩
  case h_2 => exact .inl rfl

theorem keyRecords_quiet (hhosts : Hosts env nodeId h) {ask : Ask} (hask : ask.newPublicKey = none)
    (serving : Serving) :
    (serveAsk env h ask serving).db.keyRecords nodeId = h.db.keyRecords nodeId := by
  rcases keyRecords_serve hhosts ask serving with hsame | ⟨_, _, hnew, -⟩
  · exact hsame
  · rw [hask] at hnew
    cases hnew

/-! ### Answers -/

theorem faultReply_ne_ok {α : Type} {fault : Fault} {body : α} : faultReply fault ≠ .ok body := by
  cases fault <;> exact nofun

theorem attemptReply_eq_ok {α : Type} {attempt : Attempt (α × Db)} {body : α}
    (h : attemptReply attempt = .ok body) : ∃ db, attempt = .ok (body, db) := by
  cases attempt with
  | error fault => exact absurd h faultReply_ne_ok
  | ok result =>
    obtain rfl := Reply.ok.inj h
    exact ⟨result.2, rfl⟩

theorem machineReply_eq_ok {α : Type} {req : MachineRequest} {limit : Option String}
    {perform : NodeRow → NodeKeyRow → Db → Attempt (α × Db)} {body : α}
    (h : machineReply env serving db req limit perform = .ok body) :
    ∃ node key db1 db2, authenticateMachine env serving.clock db req = .ok (node, key, db1) ∧
      perform node key db1 = .ok (body, db2) := by
  unfold machineReply at h
  split at h
  case h_1 => exact absurd h faultReply_ne_ok
  case h_2 node key db1 hauth =>
    split at h
    case h_1 =>
      split_ifs at h
      obtain ⟨db2, hperform⟩ := attemptReply_eq_ok h
      exact ⟨node, key, db1, db2, hauth, hperform⟩
    case h_2 =>
      obtain ⟨db2, hperform⟩ := attemptReply_eq_ok h
      exact ⟨node, key, db1, db2, hauth, hperform⟩

/-- A heartbeat that is answered was signed with a key on record. -/
theorem keyId_of_heartbeat {req : MachineRequest} {body : Json} {response : HeartbeatResponse}
    {keyId : String} (hnodeId : req.nodeId = some nodeId) (hkeyId : req.keyId = some keyId)
    (h : Ask.reply env db (.heartbeat req body) serving = .ok response) :
    keyId ∈ db.keyIds nodeId := by
  rw [Ask.reply] at h
  obtain ⟨node, key, db1, db2, hauth, -⟩ := machineReply_eq_ok h
  obtain ⟨hnode, id, hid, hkey⟩ := headers_of_authenticateMachine hauth
  obtain rfl := Option.some.inj (hnodeId.symm.trans hnode)
  obtain rfl := Option.some.inj (hkeyId.symm.trans hkey)
  exact hid

/-- A rotation that is answered has put its key on record. -/
theorem keyId_of_rotation {req : MachineRequest} {body : Json} {response : RotationResponse}
    {keyId publicKey : String} (hnodeId : req.nodeId = some nodeId)
    (hpublicKey : rotationPublicKey body = .ok publicKey)
    (hkeyId : deriveKeyId env.crypto publicKey = .ok keyId)
    (hreply : Ask.reply env h.db (.rotateCredential req body) serving = .ok response) :
    keyId ∈ (serveAsk env h (.rotateCredential req body) serving).db.keyIds nodeId := by
  rw [Ask.reply] at hreply
  obtain ⟨node, key, db1, db2, hauth, hrotate⟩ := machineReply_eq_ok hreply
  obtain ⟨hnode, -⟩ := headers_of_authenticateMachine hauth
  obtain rfl := Option.some.inj (hnodeId.symm.trans hnode)
  obtain ⟨body', new, hbody, hpublicKey', hderived, hnew, -, hnodeKeys, -⟩ :=
    rotateCredential_inserts hrotate
  obtain rfl := Option.some.inj hbody
  obtain rfl := Except.ok.inj (hpublicKey.symm.trans hpublicKey')
  obtain rfl := Except.ok.inj (hkeyId.symm.trans hderived)
  have hdb : (serveAsk env h (.rotateCredential req body) serving).db = db2 := by
    simp only [serveAsk, Ask.operation, Registry.step, serveMachine, hauth, Business.perform,
      hrotate, Except.map, commit]
  rw [hdb]
  refine mem_keyIds.mpr ⟨new, ?_, by rw [hnew], rfl⟩
  rw [hnodeKeys]
  exact List.mem_append_right _ (List.mem_singleton.mpr rfl)

/-- A re-enrollment that is answered names a key on record. -/
theorem keyId_of_reenrollment (hreachable : ∃ calls, h = Registry.run env {} calls)
    {req : ReenrollRequest} {result : EnrollmentResult}
    (hreply : Ask.reply env h.db (.reenroll req) serving = .ok result) :
    result.keyId ∈ (serveAsk env h (.reenroll req) serving).db.keyIds result.nodeId := by
  rw [Ask.reply, tokenReply] at hreply
  split_ifs at hreply with hlimited
  obtain ⟨db', hsubmit⟩ := attemptReply_eq_ok hreply
  have hdb : (serveAsk env h (.reenroll req) serving).db = db' := by
    simp [serveAsk, Ask.operation, hlimited, Registry.step, hsubmit, Except.map, commit]
  obtain ⟨calls, rfl⟩ := hreachable
  rw [hdb]
  exact restoredKey (run_restoredKeys env calls) hsubmit

end DshOrbit.NodeClient
