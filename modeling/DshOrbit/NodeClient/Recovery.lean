import DshOrbit.NodeClient.Service

/-!
# The keys of a node client and its Hub

A client runs one operation at a time and may stop at every point; every request may get
lost, or its answer; and others use the registry in between. The last key that the Hub has
on record for the node is the one that counts, and the store of the client never lets go of
it: it is the main key, the new key of a pending rotation, or the key of a pending
re-enrollment. A key becomes the main one only after the Hub has it.

## Main definitions

- `NodeStore.keyPairs` — the key pairs whose private halves the store holds
- `Keeps` — what holds of the Hub and the store all along
- `keeping` — what the client counts on, and what it owes
- `Recoverable` — what is promised of a run

## Main results

- `Keeps.serve` — a served request of the client keeps it
- `sound_keeping` — so does every operation
- `keys_recoverable`
-/

namespace DshOrbit.NodeClient

open DshOrbit.Lib DshOrbit.Protocol DshOrbit.Registry

variable {settings : Settings} {draws : Draws} {env : Env} {nodeId : String} {h h' : RegistryState}
  {s s' : NodeStore}

/-! ### Keys of a store -/

/-- A key pair as the Hub has it on record. -/
def record (crypto : Crypto) (keys : KeyPair) : String × String :=
  (keyIdOf crypto keys, keys.publicKeyHex)

namespace NodeStore

/-- The new key pair of a rotation whose outcome is not known yet. -/
def rotatingKeys (s : NodeStore) : Option KeyPair := s.pendingRotation.map (·.newKeys)

/-- The key pair of a re-enrollment whose outcome is not known yet. -/
def restoringKeys (s : NodeStore) : Option KeyPair := s.pendingReenrollment.map (·.keys)

def keyPairs (s : NodeStore) : List KeyPair :=
  s.keys.toList ++ s.rotatingKeys.toList ++ s.restoringKeys.toList

/-- What the keys of a client depend on. -/
def identity (s : NodeStore) : Option String × Option KeyPair × PersistedState ×
    Option RotationMarker × Option PendingReenrollment :=
  (s.nodeId, s.keys, s.state, s.rotation, s.pendingReenrollment)

theorem fields_of_identity (h : s'.identity = s.identity) :
    s'.nodeId = s.nodeId ∧ s'.keys = s.keys ∧ s'.state = s.state ∧ s'.rotation = s.rotation ∧
      s'.pendingReenrollment = s.pendingReenrollment := by
  simpa [identity] using h

end NodeStore

theorem deriveKeyId_record (keys : KeyPair) {keyId : String}
    (h : deriveKeyId env.crypto keys.publicKeyHex = .ok keyId) :
    (keyId, keys.publicKeyHex) = record env.crypto keys := by
  rw [deriveKeyId_keyPair] at h
  rw [record, Except.ok.inj h]

/-! ### The Hub and the store -/

/-- The last key of the Hub is in the store; and a key that is pending is the last one as soon as
the Hub has it. -/
structure Keeps (env : Env) (nodeId : String) (h : RegistryState) (s : NodeStore) : Prop where
  hosts : Hosts env nodeId h
  bound : s.nodeId = some nodeId
  joined : s.state ≠ .unenrolled
  settled : s.state = .active → s.restoringKeys = none
  marked : ∀ rotation, s.pendingRotation = some rotation →
    rotation.newKeyId = keyIdOf env.crypto rotation.newKeys
  held : ∃ keys ∈ s.keyPairs, h.db.lastRecord nodeId = some (record env.crypto keys)
  restored : ∀ keys, s.restoringKeys = some keys → keyIdOf env.crypto keys ∈ h.db.keyIds nodeId →
    h.db.lastRecord nodeId = some (record env.crypto keys)
  rotated : ∀ keys, s.rotatingKeys = some keys → s.restoringKeys = none →
    keyIdOf env.crypto keys ∈ h.db.keyIds nodeId →
    h.db.lastRecord nodeId = some (record env.crypto keys)

namespace Keeps

theorem of_identity (hkeeps : Keeps env nodeId h s) (hs : s'.identity = s.identity) :
    Keeps env nodeId h s' := by
  obtain ⟨hnodeId, hkeys, hstate, hrotation, hreenrollment⟩ := NodeStore.fields_of_identity hs
  have hpending : s'.pendingRotation = s.pendingRotation := by
    rw [NodeStore.pendingRotation, hrotation, NodeStore.pendingRotation]
  have hrotating : s'.rotatingKeys = s.rotatingKeys := congrArg (Option.map _) hpending
  have hrestoring : s'.restoringKeys = s.restoringKeys := congrArg (Option.map _) hreenrollment
  have hpairs : s'.keyPairs = s.keyPairs := by
    rw [NodeStore.keyPairs, hkeys, hrotating, hrestoring, NodeStore.keyPairs]
  obtain ⟨hosts, bound, joined, settled, marked, held, restored, rotated⟩ := hkeeps
  refine ⟨hosts, hnodeId.trans bound, ?_, ?_, ?_, ?_, ?_, ?_⟩
  · rw [hstate]
    exact joined
  · rw [hstate, hrestoring]
    exact settled
  · rw [hpending]
    exact marked
  · rw [hpairs]
    exact held
  · rw [hrestoring]
    exact restored
  · rw [hrotating, hrestoring]
    exact rotated

/-- What the Hub has on record of the node is all that counts of it. -/
theorem of_keyRecords (hkeeps : Keeps env nodeId h s) (hhosts : Hosts env nodeId h')
    (hrecords : h'.db.keyRecords nodeId = h.db.keyRecords nodeId) : Keeps env nodeId h' s := by
  have hlast : h'.db.lastRecord nodeId = h.db.lastRecord nodeId := congrArg List.getLast? hrecords
  have hids : h'.db.keyIds nodeId = h.db.keyIds nodeId := by rw [keyIds_eq, hrecords, keyIds_eq]
  obtain ⟨-, bound, joined, settled, marked, held, restored, rotated⟩ := hkeeps
  refine ⟨hhosts, bound, joined, settled, marked, ?_, ?_, ?_⟩
  · rw [hlast]
    exact held
  · rw [hlast, hids]
    exact restored
  · rw [hlast, hids]
    exact rotated

/-- A served request keeps it, if the key that it asks the Hub to take is the pending one. -/
theorem serve (hkeeps : Keeps env nodeId h s) (ask : Ask) (serving : Serving)
    (hask : ∀ publicKey, ask.newPublicKey = some publicKey → ∃ keys : KeyPair,
      publicKey = keys.publicKeyHex ∧ (s.restoringKeys = some keys ∨
        s.restoringKeys = none ∧ s.rotatingKeys = some keys)) :
    Keeps env nodeId (serveAsk env h ask serving) s := by
  have hhosts := hosts_serve hkeeps.hosts ask serving
  rcases keyRecords_serve hkeeps.hosts ask serving with
    hsame | ⟨keyId, publicKey, hnew, hderived, hadded⟩
  · exact hkeeps.of_keyRecords hhosts hsame
  · obtain ⟨keys, rfl, hpending⟩ := hask publicKey hnew
    have hlast : (serveAsk env h ask serving).db.lastRecord nodeId =
        some (record env.crypto keys) := by
      rw [Db.lastRecord, hadded, deriveKeyId_record keys hderived, List.getLast?_concat]
    refine ⟨hhosts, hkeeps.bound, hkeeps.joined, hkeeps.settled, hkeeps.marked, ⟨keys, ?_, hlast⟩,
      ?_, ?_⟩
    · rcases hpending with hrestoring | ⟨-, hrotating⟩
      · simp [NodeStore.keyPairs, hrestoring]
      · simp [NodeStore.keyPairs, hrotating]
    · intro keys' hkeys' _
      rcases hpending with hrestoring | ⟨hnone, -⟩
      · obtain rfl := Option.some.inj (hrestoring.symm.trans hkeys')
        exact hlast
      · rw [hnone] at hkeys'
        cases hkeys'
    · intro keys' hkeys' hnone _
      rcases hpending with hrestoring | ⟨-, hrotating⟩
      · rw [hrestoring] at hnone
        cases hnone
      · obtain rfl := Option.some.inj (hrotating.symm.trans hkeys')
        exact hlast

/-- The store with the last key of the Hub as its main key, and nothing pending. -/
theorem promoted (hkeeps : Keeps env nodeId h s) {keys : KeyPair}
    (hlast : h.db.lastRecord nodeId = some (record env.crypto keys)) {store : NodeStore}
    (hbound : store.nodeId = s.nodeId) (hkeys : store.keys = some keys)
    (hjoined : store.state ≠ .unenrolled) (hrotation : store.pendingRotation = none)
    (hreenrollment : store.pendingReenrollment = none) : Keeps env nodeId h store where
  hosts := hkeeps.hosts
  bound := hbound.trans hkeeps.bound
  joined := hjoined
  settled _ := by rw [NodeStore.restoringKeys, hreenrollment]; rfl
  marked rotation hpending := by
    rw [hrotation] at hpending
    cases hpending
  held := ⟨keys, by simp [NodeStore.keyPairs, hkeys], hlast⟩
  restored keys' hkeys' := by
    rw [NodeStore.restoringKeys, hreenrollment] at hkeys'
    cases hkeys'
  rotated keys' hkeys' := by
    rw [NodeStore.rotatingKeys, hrotation] at hkeys'
    cases hkeys'

end Keeps

/-! ### What the client counts on -/

/-- An operation that may draw a key pair. -/
def Operation.drawsKeys : Operation → Bool
  | .enroll _ | .pair _ | .reenroll _ | .rotateCredential => true
  | _ => false

/-- Others do not prove a key of the node, a drawn key pair is new to the Hub, and only the Hub
answers with a 200. The client owes that a main key that it writes is the last one of the Hub. -/
def keeping (env : Env) (nodeId : String) :
    Rely RegistryState NodeStore Ask Call Serving Command Ask.Answer where
  inv := Keeps env nodeId
  acts h _ call := Foreign env nodeId h call
  begins h _ command := command.operation.drawsKeys = true →
    keyIdOf env.crypto command.draws.entropy.keyPair ∉ h.db.keyIds nodeId
  serves _ _ _ _ := True
  hears _ _ _ _ := True
  missing _ answer := ∀ body, answer ≠ .ok body
  persists h s candidate := candidate.keys = s.keys ∨
    ∃ keys, candidate.keys = some keys ∧ h.db.lastRecord nodeId = some (record env.crypto keys)
  asks _ _ _ := True

/-- A program of the client is safe, and ends in `Q`. -/
abbrev SafeProgram (env : Env) (nodeId : String) {α : Type}
    (Q : α → RegistryState → NodeStore → Prop) (program : Program α) (h : RegistryState)
    (s : NodeStore) : Prop :=
  program.Safe (hubService env) (keeping env nodeId) Q h s

theorem keyRecords_later (hhosts : Hosts env nodeId h)
    (hlater : (keeping env nodeId).Later (hubService env) s h h') :
    Hosts env nodeId h' ∧ h'.db.keyRecords nodeId = h.db.keyRecords nodeId := by
  induction hlater with
  | refl => exact ⟨hhosts, rfl⟩
  | tail _ hact ih =>
    obtain ⟨call, hforeign, rfl⟩ := hact
    obtain ⟨hhosts', hrecords⟩ := ih
    exact ⟨hhosts'.step call, (keyRecords_act hhosts' hforeign).trans hrecords⟩

theorem keyIds_congr (hrecords : h'.db.keyRecords nodeId = h.db.keyRecords nodeId) :
    h'.db.keyIds nodeId = h.db.keyIds nodeId := by
  rw [keyIds_eq, hrecords, keyIds_eq]

variable {α : Type} {Q : α → RegistryState → NodeStore → Prop} {ask : Ask}

/-- A request: nothing but the Hub answers with a 200, and what it takes is pending. -/
theorem safe_request {f : ask.Answer → Program α} (hkeeps : Keeps env nodeId h s)
    (hserve : ∀ h' serving, Keeps env nodeId h' s →
      Keeps env nodeId (serveAsk env h' ask serving) s)
    (hmissing : ∀ h' answer, Keeps env nodeId h' s → (∀ body, answer ≠ .ok body) →
      SafeProgram env nodeId Q (f answer) h' s)
    (hok : ∀ h' serving body, Keeps env nodeId h' s →
      h'.db.keyRecords nodeId = h.db.keyRecords nodeId → ask.reply env h'.db serving = .ok body →
      Keeps env nodeId (serveAsk env h' ask serving) s →
      SafeProgram env nodeId Q (f (.ok body)) (serveAsk env h' ask serving) s) :
    SafeProgram env nodeId Q (Task.request ask >>= f) h s := by
  intro h' hlater hinv
  refine ⟨trivial, fun answer hanswer => hmissing h' answer hinv hanswer, ?_⟩
  intro serving _
  have hserved := hserve h' serving hinv
  refine ⟨hserved, fun _ => ?_, fun answer hanswer => hmissing _ answer hserved hanswer⟩
  change SafeProgram env nodeId Q (f (ask.reply env h'.db serving)) (serveAsk env h' ask serving) s
  cases hreply : ask.reply env h'.db serving with
  | ok body =>
    exact hok h' serving body hinv (keyRecords_later hkeeps.hosts hlater).2 hreply hserved
  | denied status code message =>
    exact hmissing _ _ hserved fun body => nofun
  | unreachable message =>
    exact hmissing _ _ hserved fun body => nofun

/-- A request that asks the Hub to take no key. -/
theorem safe_quiet_request {f : ask.Answer → Program α} (hkeeps : Keeps env nodeId h s)
    (hask : ask.newPublicKey = none)
    (hmissing : ∀ h' answer, Keeps env nodeId h' s → (∀ body, answer ≠ .ok body) →
      SafeProgram env nodeId Q (f answer) h' s)
    (hok : ∀ h' db serving body, Keeps env nodeId h' s →
      db.keyRecords nodeId = h'.db.keyRecords nodeId → ask.reply env db serving = .ok body →
      SafeProgram env nodeId Q (f (.ok body)) h' s) :
    SafeProgram env nodeId Q (Task.request ask >>= f) h s := by
  refine safe_request hkeeps ?_ hmissing ?_
  · intro h' serving hinv
    refine hinv.serve ask serving fun publicKey hpublicKey => ?_
    rw [hask] at hpublicKey
    cases hpublicKey
  · intro h' serving body hinv _ hreply hserved
    exact hok _ _ serving body hserved (keyRecords_quiet hinv.hosts hask serving).symm hreply

/-! ### Heartbeats -/

theorem safe_persistTransport (hkeeps : Keeps env nodeId h s) (now : ℤ)
    (response : HeartbeatResponse) :
    SafeProgram env nodeId
      (fun _ h' s' => s'.identity = s.identity ∧ h'.db.keyRecords nodeId = h.db.keyRecords nodeId)
      (persistTransport settings now response) h s := by
  unfold persistTransport
  refine Task.safe_store_bind.mpr ?_
  dsimp only
  by_cases hwrite : s.routeMode ≠ some response.routeMode ∨
      (nextHubRouteKeys settings now s.hubRouteKeys response.hubRouteKeys).isSome = true
  · rw [if_pos hwrite]
    intro h' hlater hinv
    refine ⟨.inl rfl, hinv.of_identity rfl, ?_⟩
    intro h'' hlater' _
    exact ⟨rfl, (keyRecords_later hkeeps.hosts (hlater.trans hlater')).2⟩
  · rw [if_neg hwrite]
    intro h' hlater _
    exact ⟨rfl, (keyRecords_later hkeeps.hosts hlater).2⟩

theorem Keeps.revoked (hkeeps : Keeps env nodeId h s) :
    Keeps env nodeId h { s with state := .revoked } := by
  obtain ⟨hosts, bound, -, settled, marked, held, restored, rotated⟩ := hkeeps
  exact ⟨hosts, bound, nofun, nofun, marked, held, restored, rotated⟩

theorem safe_persistRevoked_bind {f : Unit → Program α}
    (hf : ∀ h', SafeProgram env nodeId Q (f ()) h' { s with state := .revoked }) :
    SafeProgram env nodeId Q (persistRevoked >>= f) h s := by
  intro h' _ hinv
  exact ⟨.inl rfl, hinv.revoked, hf h'⟩

/-- A heartbeat that does not write `revoked` leaves the keys of the store as they are; one that is
answered was signed with a key that the Hub has. -/
theorem safe_heartbeatAs (hkeeps : Keeps env nodeId h s) (n : ℕ) (keyId keyHex : String) :
    SafeProgram env nodeId
      (fun outcome h' s' => s'.identity = s.identity ∧
        (outcome.ok = true → keyId ∈ h'.db.keyIds nodeId))
      (heartbeatAs settings draws n keyId keyHex false) h s := by
  unfold heartbeatAs
  refine Task.safe_store_bind.mpr ?_
  refine safe_quiet_request hkeeps rfl ?_ ?_
  · intro h' answer hinv hanswer
    cases answer with
    | ok body => exact absurd rfl (hanswer body)
    | denied status code message =>
      simp only [Bool.false_eq_true, if_false]
      split_ifs <;> exact fun h'' _ _ => ⟨rfl, nofun⟩
    | unreachable message => exact fun h'' _ _ => ⟨rfl, nofun⟩
  · intro h' db serving response hinv hrecords hreply
    have hsigned : keyId ∈ db.keyIds nodeId := keyId_of_heartbeat hkeeps.bound rfl hreply
    refine Task.Safe.bind (safe_persistTransport hinv _ response) hinv ?_
    rintro _ h1 s1 hinv1 ⟨hs1, hrecords1⟩ h2 hlater2 _
    refine ⟨hs1, fun _ => ?_⟩
    rw [keyIds_eq, (keyRecords_later hinv1.hosts hlater2).2, hrecords1, ← hrecords, ← keyIds_eq]
    exact hsigned

/-! ### Rotation -/

theorem rotationPublicKey_rotateBody (rotation : PendingRotation) :
    rotationPublicKey (rotateBody rotation) = .ok rotation.newKeys.publicKeyHex := by
  have hform := rotation.newKeys.publicKey_wellFormed
  have hfield : ((rotateBody rotation).field "newPublicKey").bind Json.str? =
      some rotation.newKeys.publicKeyHex := by
    simp [rotateBody, Json.field, Json.str?]
  refine bind_eq_ok.mpr ⟨rotation.newKeys.publicKeyHex, ?_, bind_eq_ok.mpr ⟨(), ?_, rfl⟩⟩
  · exact requireString_eq_ok.mpr ⟨hfield, ne_empty_of_matchesHex hform⟩
  · exact requireWire_eq_ok.mpr ⟨_, rfl, hform⟩

theorem safe_promoteRotation_bind {rotation : PendingRotation} {f : Unit → Program α}
    (hkeeps : Keeps env nodeId h s)
    (hlast : h.db.lastRecord nodeId = some (record env.crypto rotation.newKeys))
    (hactive : s.state = .active) (now : ℤ) (overlapUntil : Option ℤ)
    (hf : ∀ h' s', SafeProgram env nodeId Q (f ()) h' s') :
    SafeProgram env nodeId Q (promoteRotation settings now rotation overlapUntil >>= f) h s := by
  intro h' hlater hinv
  have hlast' : h'.db.lastRecord nodeId = some (record env.crypto rotation.newKeys) := by
    rw [Db.lastRecord, (keyRecords_later hkeeps.hosts hlater).2]
    exact hlast
  have hnone : s.pendingReenrollment = none := Option.map_eq_none_iff.mp (hinv.settled hactive)
  refine ⟨.inr ⟨rotation.newKeys, rfl, hlast'⟩, ?_, hf _ _⟩
  exact hinv.promoted hlast' rfl rfl hinv.joined rfl hnone

/-- The rotation of the store is pending, and nothing else is. -/
structure Rotating (rotation : PendingRotation) (s : NodeStore) : Prop where
  active : s.state = .active
  pending : s.pendingRotation = some rotation

theorem Rotating.of_identity {rotation : PendingRotation} (hs : Rotating rotation s)
    (h : s'.identity = s.identity) : Rotating rotation s' := by
  obtain ⟨-, -, hstate, hrotation, -⟩ := NodeStore.fields_of_identity h
  refine ⟨hstate.trans hs.active, ?_⟩
  rw [NodeStore.pendingRotation, hrotation]
  exact hs.pending

/-- A pending key that the Hub has is its last one. -/
theorem Keeps.last_of_rotating {rotation : PendingRotation} (hkeeps : Keeps env nodeId h s)
    (hs : Rotating rotation s) (hkeyId : rotation.newKeyId ∈ h.db.keyIds nodeId) :
    h.db.lastRecord nodeId = some (record env.crypto rotation.newKeys) := by
  rw [hkeeps.marked rotation hs.pending] at hkeyId
  refine hkeeps.rotated _ ?_ (hkeeps.settled hs.active) hkeyId
  rw [NodeStore.rotatingKeys, hs.pending]
  rfl

theorem Keeps.serve_rotation {rotation : PendingRotation} (hkeeps : Keeps env nodeId h s)
    (hs : Rotating rotation s) (req : MachineRequest) (serving : Serving) :
    Keeps env nodeId (serveAsk env h (.rotateCredential req (rotateBody rotation)) serving) s := by
  refine hkeeps.serve _ serving fun publicKey hpublicKey => ?_
  rw [Ask.newPublicKey, rotationPublicKey_rotateBody] at hpublicKey
  refine ⟨rotation.newKeys, (Option.some.inj hpublicKey).symm, .inr ⟨hkeeps.settled hs.active, ?_⟩⟩
  rw [NodeStore.rotatingKeys, hs.pending]
  rfl

/-- A rotation that is answered made its key the last one of the Hub. -/
theorem Keeps.last_of_rotation {rotation : PendingRotation} {req : MachineRequest}
    {serving : Serving} {response : RotationResponse} (hs : Rotating rotation s)
    (hnodeId : req.nodeId = some nodeId)
    (hmarked : rotation.newKeyId = keyIdOf env.crypto rotation.newKeys)
    (hreply : Ask.reply env h.db (.rotateCredential req (rotateBody rotation)) serving =
      .ok response)
    (hserved : Keeps env nodeId
      (serveAsk env h (.rotateCredential req (rotateBody rotation)) serving) s) :
    (serveAsk env h (.rotateCredential req (rotateBody rotation)) serving).db.lastRecord nodeId =
      some (record env.crypto rotation.newKeys) := by
  apply hserved.last_of_rotating hs
  rw [hmarked]
  exact keyId_of_rotation hnodeId (rotationPublicKey_rotateBody rotation)
    (deriveKeyId_keyPair env.crypto rotation.newKeys) hreply

/-- The program is safe, wherever it ends. -/
abbrev Runs (env : Env) (nodeId : String) {α : Type} (program : Program α) (h : RegistryState)
    (s : NodeStore) : Prop :=
  SafeProgram env nodeId (fun _ _ _ => True) program h s

theorem runs_pure (value : α) : Runs env nodeId (pure value) h s := fun _ _ _ => trivial

theorem runs_fail (message : String) :
    Runs env nodeId (Task.fail message : Program α) h s := trivial

theorem runs_resubmitRotation {rotation : PendingRotation} (hkeeps : Keeps env nodeId h s)
    (hs : Rotating rotation s) (n : ℕ) :
    Runs env nodeId (resubmitRotation settings draws n rotation) h s := by
  have hmarked := hkeeps.marked rotation hs.pending
  unfold resubmitRotation
  refine Task.safe_store_bind.mpr ?_
  refine safe_request hkeeps (fun h' serving hinv => hinv.serve_rotation hs _ serving) ?_ ?_
  · intro h' answer hinv hanswer
    cases answer with
    | ok body => exact absurd rfl (hanswer body)
    | denied status code message => exact runs_pure _
    | unreachable message => exact runs_pure _
  · intro h' serving response hinv _ hreply hserved
    have hlast := Keeps.last_of_rotation hs hkeeps.bound hmarked hreply hserved
    exact safe_promoteRotation_bind hserved hlast hs.active _ _ fun _ _ => runs_pure _

theorem runs_recoverPendingRotation {rotation : PendingRotation} (hkeeps : Keeps env nodeId h s)
    (hs : Rotating rotation s) (n : ℕ) :
    Runs env nodeId (recoverPendingRotation settings draws n rotation) h s := by
  unfold recoverPendingRotation
  refine Task.Safe.bind (safe_heartbeatAs hkeeps n _ _) hkeeps ?_
  rintro newProbe h1 s1 hinv1 ⟨hs1, hsigned1⟩
  have hrotating1 := hs.of_identity hs1
  by_cases hok : newProbe.ok = true
  · -- the pending key is committed
    rw [if_pos hok]
    have hlast := hinv1.last_of_rotating hrotating1 (hsigned1 hok)
    exact safe_promoteRotation_bind hinv1 hlast hrotating1.active _ _ fun _ _ => runs_pure _
  · rw [if_neg hok]
    by_cases hrevoked : newProbe.state = .revoked
    · rw [if_pos hrevoked]
      exact safe_persistRevoked_bind fun _ => runs_pure _
    · rw [if_neg hrevoked]
      refine Task.Safe.bind (safe_heartbeatAs hinv1 (n + 2) _ _) hinv1 ?_
      rintro oldProbe h2 s2 hinv2 ⟨hs2, -⟩
      have hrotating2 := hrotating1.of_identity hs2
      by_cases hold : oldProbe.ok = true
      · rw [if_pos hold]
        exact runs_resubmitRotation hinv2 hrotating2 (n + 4)
      · rw [if_neg hold]
        by_cases hdead : oldProbe.state = .revoked
        · rw [if_pos hdead]
          exact safe_persistRevoked_bind fun _ => runs_pure _
        · rw [if_neg hdead]
          exact runs_pure _

/-- `mainKeys` of a store. -/
def NodeStore.requireKeys (s : NodeStore) : Program KeyPair :=
  match s.keys with
  | some keys => pure keys
  | none =>
    Task.fail "registry wire contract: public key must be 64 lowercase hex chars (got null)"

/-- The main key of a store is read, or there is an exception. -/
theorem safe_mainKeys_bind {f : KeyPair → Program α}
    (hf : ∀ keys, s.keys = some keys → SafeProgram env nodeId Q (f keys) h s) :
    SafeProgram env nodeId Q (mainKeys >>= f) h s := by
  change SafeProgram env nodeId Q (s.requireKeys >>= f) h s
  rw [NodeStore.requireKeys]
  cases hkeys : s.keys with
  | none => trivial
  | some keys => exact hf keys hkeys

theorem safe_requireActive_bind {f : Unit → Program α}
    (hf : s.state = .active → SafeProgram env nodeId Q (f ()) h s) :
    SafeProgram env nodeId Q (requireActive >>= f) h s := by
  by_cases hactive : s.state = .active
  · change SafeProgram env nodeId Q ((if s.state ≠ .active then Task.fail _ else pure () :
      Program Unit) >>= f) h s
    rw [if_neg (not_not.mpr hactive)]
    exact hf hactive
  · change SafeProgram env nodeId Q ((if s.state ≠ .active then Task.fail _ else pure () :
      Program Unit) >>= f) h s
    rw [if_pos hactive]
    trivial

/-- A rotation from the start: its key is new, so the main key stays the last one until the Hub
takes the new one. -/
theorem runs_beginRotation (hcrypto : settings.crypto = env.crypto) (hkeeps : Keeps env nodeId h s)
    (hactive : s.state = .active) (hnone : s.pendingRotation = none)
    (hfresh : keyIdOf env.crypto draws.entropy.keyPair ∉ h.db.keyIds nodeId) :
    Runs env nodeId (beginRotation settings draws) h s := by
  unfold beginRotation
  refine safe_mainKeys_bind fun keys hkeys => ?_
  set rotation := newRotation settings draws keys with hrotation
  have hmarked : rotation.newKeyId = keyIdOf env.crypto rotation.newKeys := by
    rw [hrotation, newRotation, hcrypto]
  dsimp only
  refine Task.safe_store_bind.mpr ?_
  intro h' hlater hinv
  have hids : h'.db.keyIds nodeId = h.db.keyIds nodeId :=
    keyIds_congr (keyRecords_later hkeeps.hosts hlater).2
  have hheld : h'.db.lastRecord nodeId = some (record env.crypto keys) := by
    obtain ⟨held, hmem, hlast⟩ := hinv.held
    have hpairs : s.keyPairs = [keys] := by
      simp [NodeStore.keyPairs, hkeys, NodeStore.rotatingKeys, hnone, hinv.settled hactive]
    rw [hpairs, List.mem_singleton] at hmem
    rw [← hmem]
    exact hlast
  set marked : NodeStore := { s with rotation := some (.pending rotation) } with hmarkedStore
  have hrotating : Rotating rotation marked := ⟨hactive, rfl⟩
  have hkeeps' : Keeps env nodeId h' marked := by
    refine ⟨hinv.hosts, hinv.bound, hinv.joined, hinv.settled, ?_, ⟨keys, ?_, hheld⟩, ?_, ?_⟩
    · intro rotation' hpending
      obtain rfl := Option.some.inj hpending
      exact hmarked
    · simp [NodeStore.keyPairs, hmarkedStore, hkeys]
    · intro keys' hrestoring
      exact absurd (hrestoring.symm.trans (hinv.settled hactive)) nofun
    · intro keys' hkeys' _ hid
      obtain rfl := Option.some.inj hkeys'
      rw [hids] at hid
      exact absurd hid hfresh
  refine ⟨.inl rfl, hkeeps', ?_⟩
  change Runs env nodeId (Task.store >>= _) h' marked
  refine Task.safe_store_bind.mpr ?_
  refine safe_request hkeeps' (fun h' serving hinv => hinv.serve_rotation hrotating _ serving) ?_ ?_
  · intro h' answer hinv hanswer
    cases answer with
    | ok body => exact absurd rfl (hanswer body)
    | denied status code message =>
      dsimp only
      split_ifs
      · exact safe_persistRevoked_bind fun _ => runs_fail _
      · exact runs_fail _
    | unreachable message => exact runs_fail _
  · intro h1 serving response hinv1 _ hreply hserved
    have hlast := Keeps.last_of_rotation hrotating hkeeps'.bound hmarked hreply hserved
    exact safe_promoteRotation_bind hserved hlast hactive _ _ fun _ _ => runs_pure _

theorem runs_rotateCredential (hcrypto : settings.crypto = env.crypto)
    (hkeeps : Keeps env nodeId h s)
    (hfresh : keyIdOf env.crypto draws.entropy.keyPair ∉ h.db.keyIds nodeId) :
    Runs env nodeId (rotateCredential settings draws) h s := by
  unfold rotateCredential
  refine safe_requireActive_bind fun hactive => ?_
  refine Task.safe_store_bind.mpr ?_
  cases hpending : s.pendingRotation with
  | some rotation => exact runs_recoverPendingRotation hkeeps ⟨hactive, hpending⟩ 0
  | none => exact runs_beginRotation hcrypto hkeeps hactive hpending hfresh

/-! ### Re-enrollment -/

/-- The intent of a re-enrollment is in the store, and its key pair is new to the Hub or pending
already. -/
theorem safe_reenrollIntent (hkeeps : Keeps env nodeId h s) (hrevoked : s.state = .revoked)
    (hfresh : keyIdOf env.crypto draws.entropy.keyPair ∉ h.db.keyIds nodeId) (node : String) :
    SafeProgram env nodeId
      (fun pending _ s' => s'.state = .revoked ∧ s'.pendingReenrollment = some pending)
      (reenrollIntent draws node) h s := by
  unfold reenrollIntent
  refine Task.safe_store_bind.mpr ?_
  cases hpending : s.pendingReenrollment with
  | some pending => exact fun _ _ _ => ⟨hrevoked, hpending⟩
  | none =>
    intro h' hlater hinv
    have hids : h'.db.keyIds nodeId = h.db.keyIds nodeId :=
      keyIds_congr (keyRecords_later hkeeps.hosts hlater).2
    refine ⟨.inl rfl, ?_, fun _ _ _ => ⟨hrevoked, rfl⟩⟩
    refine ⟨hinv.hosts, hinv.bound, hinv.joined, ?_, hinv.marked, ?_, ?_, ?_⟩
    · intro hactive
      exact absurd (hrevoked.symm.trans hactive) nofun
    · obtain ⟨keys, hkeys, hlast⟩ := hinv.held
      refine ⟨keys, ?_, hlast⟩
      have hpairs : s.keyPairs = s.keys.toList ++ s.rotatingKeys.toList := by
        simp [NodeStore.keyPairs, NodeStore.restoringKeys, hpending]
      rw [hpairs] at hkeys
      exact List.mem_append_left _ hkeys
    · intro keys hkeys hid
      obtain rfl := Option.some.inj hkeys
      rw [hids] at hid
      exact absurd hid hfresh
    · intro keys _ hnone
      cases hnone

/-- The candidates of a re-enrollment ask for the pending key only; a result that the Hub gives
names a key that it has. -/
theorem safe_proveWith {token : String} {pending : PendingReenrollment} {node : Option String}
    {last : Reply EnrollmentResult} (hkeeps : Keeps env nodeId h s)
    (hpending : s.pendingReenrollment = some pending) (hlast : ∀ body, last ≠ .ok body)
    (signers : List Signer) :
    SafeProgram env nodeId
      (fun reply h' s' => s' = s ∧ ∀ body, reply = .ok body →
        body.nodeId = nodeId → body.keyId ∈ h'.db.keyIds nodeId)
      (proveWith settings draws token pending node last signers) h s := by
  induction signers generalizing h last with
  | nil => exact fun h' _ _ => ⟨rfl, fun body hbody => absurd hbody (hlast body)⟩
  | cons signer rest ih =>
    unfold proveWith
    have hrestoring : s.restoringKeys = some pending.keys := by
      rw [NodeStore.restoringKeys, hpending]
      rfl
    refine safe_request hkeeps (fun h' serving hinv => ?_) ?_ ?_
    · refine hinv.serve _ serving fun publicKey hpublicKey => ?_
      exact ⟨pending.keys, (Option.some.inj hpublicKey).symm, .inl hrestoring⟩
    · intro h' answer hinv hanswer
      cases answer with
      | ok body => exact absurd rfl (hanswer body)
      | unreachable message => exact trivial
      | denied status code message =>
        dsimp only
        split_ifs
        · exact trivial
        · exact ih hinv fun body => nofun
        · exact fun h'' _ _ => ⟨rfl, fun body => nofun⟩
    · intro h' serving result hinv _ hreply hserved
      have hkeyId := keyId_of_reenrollment hinv.hosts.reachable hreply
      intro h'' hlater _
      refine ⟨rfl, fun body hbody hnode => ?_⟩
      obtain rfl := Reply.ok.inj hbody
      rw [keyIds_congr (keyRecords_later hserved.hosts hlater).2, ← hnode]
      exact hkeyId

theorem checkRestored_eq_ok {pending : PendingReenrollment} {body : EnrollmentResult}
    (hcheck : checkRestored settings s pending body = .ok ()) :
    some body.nodeId = s.nodeId ∧ body.keyId = keyIdOf settings.crypto pending.keys := by
  unfold checkRestored at hcheck
  split_ifs at hcheck with hnode hkey
  exact ⟨not_not.mp hnode, not_not.mp hkey⟩

theorem safe_check_bind {β : Type} {attempt : Except String β} {f : β → Program α}
    (hf : ∀ value, attempt = .ok value → SafeProgram env nodeId Q (f value) h s) :
    SafeProgram env nodeId Q (check attempt >>= f) h s := by
  cases attempt with
  | error message => trivial
  | ok value => exact hf value rfl

theorem runs_reenroll (hcrypto : settings.crypto = env.crypto) (hkeeps : Keeps env nodeId h s)
    (hfresh : keyIdOf env.crypto draws.entropy.keyPair ∉ h.db.keyIds nodeId) (token : String) :
    Runs env nodeId (reenroll settings draws token) h s := by
  unfold reenroll
  refine Task.safe_store_bind.mpr ?_
  by_cases hrevoked : s.state = .revoked
  · rw [if_neg (not_not.mpr hrevoked)]
    split_ifs
    · exact trivial
    · refine Task.Safe.bind (safe_reenrollIntent hkeeps hrevoked hfresh _) hkeeps ?_
      rintro pending h1 s1 hinv1 ⟨hrevoked1, hpending1⟩
      refine Task.safe_store_bind.mpr (safe_mainKeys_bind fun keys hkeys => ?_)
      have hlost : ∀ body : EnrollmentResult, Reply.unreachable "" ≠ .ok body := by
        intro body h
        cases h
      refine Task.Safe.bind (safe_proveWith hinv1 hpending1 hlost _) hinv1 ?_
      rintro reply h2 s2 hinv2 ⟨rfl, hreply⟩
      cases reply with
      | denied status code message => exact runs_fail _
      | unreachable message => exact runs_fail _
      | ok body =>
        refine Task.safe_store_bind.mpr (safe_check_bind fun _ hcheck => ?_)
        obtain ⟨hnode, hkeyId⟩ := checkRestored_eq_ok hcheck
        intro h3 hlater3 hinv3
        have hid := hreply body rfl (Option.some.inj (hnode.trans hinv2.bound))
        rw [hkeyId, hcrypto, ← keyIds_congr (keyRecords_later hinv2.hosts hlater3).2] at hid
        have hrestoring : s2.restoringKeys = some pending.keys := by
          rw [NodeStore.restoringKeys, hpending1]
          rfl
        have hlast := hinv3.restored pending.keys hrestoring hid
        refine ⟨.inr ⟨pending.keys, rfl, hlast⟩, ?_, runs_pure _⟩
        exact hinv3.promoted hlast rfl rfl nofun rfl rfl
  · rw [if_pos hrevoked]
    trivial

/-! ### The other operations -/

theorem runs_heartbeat (hkeeps : Keeps env nodeId h s) (n : ℕ) (persistOnRevoked : Bool) :
    Runs env nodeId (heartbeat settings draws n persistOnRevoked) h s := by
  refine safe_mainKeys_bind fun keys _ => Task.safe_store_bind.mpr ?_
  refine safe_quiet_request hkeeps rfl ?_ ?_
  · intro h' answer hinv hanswer
    cases answer with
    | ok body => exact absurd rfl (hanswer body)
    | unreachable message => exact runs_pure _
    | denied status code message =>
      dsimp only
      split_ifs
      · exact safe_persistRevoked_bind fun _ => runs_pure _
      · exact runs_pure _
      · exact runs_pure _
  · intro h' db serving response hinv _ _
    refine Task.Safe.bind (safe_persistTransport hinv _ response) hinv ?_
    intro _ h1 s1 _ _
    exact runs_pure _

theorem runs_uploadReport (hkeeps : Keeps env nodeId h s) (report : Json) :
    Runs env nodeId (uploadReport settings draws report) h s := by
  refine safe_requireActive_bind fun _ => Task.safe_store_bind.mpr ?_
  refine safe_mainKeys_bind fun keys _ => ?_
  refine safe_quiet_request hkeeps rfl ?_ ?_
  · intro h' answer hinv hanswer
    cases answer with
    | ok body => exact absurd rfl (hanswer body)
    | unreachable message => exact runs_fail _
    | denied status code message =>
      dsimp only
      split_ifs
      · exact safe_persistRevoked_bind fun _ => runs_fail _
      · exact runs_fail _
  · intro h' db serving response _ _ _
    exact runs_pure _

theorem runs_tick (hkeeps : Keeps env nodeId h s) (due : Bool) :
    Runs env nodeId (tick settings draws due) h s := by
  unfold tick
  refine Task.safe_store_bind.mpr ?_
  by_cases hactive : s.state = .active
  · rw [if_neg (not_not.mpr hactive)]
    cases hpending : s.pendingRotation with
    | some rotation =>
      refine Task.Safe.bind (runs_recoverPendingRotation hkeeps ⟨hactive, hpending⟩ 0) hkeeps ?_
      exact fun _ _ _ _ _ => runs_pure _
    | none =>
      dsimp only
      split_ifs
      · refine Task.Safe.bind (runs_heartbeat hkeeps 0 true) hkeeps ?_
        exact fun _ _ _ _ _ => runs_pure _
      · exact runs_pure _
  · rw [if_pos hactive]
    exact runs_pure _

/-- A completed rotation holds no key that counts. -/
theorem runs_pruneRotation (now : ℤ) : Runs env nodeId (pruneRotation now) h s := by
  unfold pruneRotation
  refine Task.safe_store_bind.mpr ?_
  split
  case h_1 oldKeyId oldPrivateKeyHex newKeyId overlapUntil hrotation =>
    have hnone : s.pendingRotation = none := by rw [NodeStore.pendingRotation, hrotation]
    split_ifs
    · intro h' _ hinv
      refine ⟨.inl rfl, ?_, runs_pure _⟩
      have hrotating : s.rotatingKeys = none := by rw [NodeStore.rotatingKeys, hnone]; rfl
      obtain ⟨hosts, bound, joined, settled, -, held, restored, -⟩ := hinv
      refine ⟨hosts, bound, joined, settled, nofun, ?_, restored, nofun⟩
      obtain ⟨keys, hkeys, hlast⟩ := held
      refine ⟨keys, ?_, hlast⟩
      rw [NodeStore.keyPairs, hrotating] at hkeys
      exact hkeys
    · exact runs_pure _
  case h_2 => exact runs_pure _

theorem runs_recoverAfterRestart (hkeeps : Keeps env nodeId h s) :
    Runs env nodeId (recoverAfterRestart settings draws) h s := by
  unfold recoverAfterRestart
  refine Task.Safe.bind (runs_pruneRotation _) hkeeps ?_
  intro _ h1 s1 hinv1 _
  refine Task.safe_store_bind.mpr ?_
  by_cases hactive : s1.state = .active
  · rw [if_neg (not_not.mpr hactive)]
    cases hpending : s1.pendingRotation with
    | some rotation =>
      refine Task.Safe.bind (runs_recoverPendingRotation hinv1 ⟨hactive, hpending⟩ 1) hinv1 ?_
      exact fun _ _ _ _ _ => runs_pure _
    | none => exact runs_pure _
  · rw [if_pos hactive]
    exact runs_pure _

/-! ### Every operation -/

theorem runs_discard {program : Program α} (hkeeps : Keeps env nodeId h s)
    (hprogram : Runs env nodeId program h s) : Runs env nodeId program.discard h s :=
  Task.Safe.bind hprogram hkeeps fun _ _ _ _ _ => runs_pure _

/-- A node that has joined does not join again. -/
theorem runs_join {f : NodeStore → Program α} {message : NodeStore → String}
    (hkeeps : Keeps env nodeId h s) :
    Runs env nodeId (do
      let s ← Task.store
      if s.state ≠ .unenrolled then Task.fail (message s) else f s) h s := by
  refine Task.safe_store_bind.mpr ?_
  rw [if_pos hkeeps.joined]
  trivial

theorem sound_keeping (hcrypto : settings.crypto = env.crypto) :
    System.Sound (hubService env) (keeping env nodeId) (Command.program settings) where
  acts h s call hkeeps hforeign :=
    hkeeps.of_keyRecords (hkeeps.hosts.step call) (keyRecords_act hkeeps.hosts hforeign)
  begins h s command hkeeps hfresh := by
    obtain ⟨operation, draws⟩ := command
    cases operation with
    | enroll token => exact runs_discard hkeeps (runs_join hkeeps)
    | pair token => exact runs_discard hkeeps (runs_join hkeeps)
    | reenroll token => exact runs_discard hkeeps (runs_reenroll hcrypto hkeeps (hfresh rfl) token)
    | heartbeat persistOnRevoked =>
      exact runs_discard hkeeps (runs_heartbeat hkeeps 0 persistOnRevoked)
    | uploadReport report => exact runs_discard hkeeps (runs_uploadReport hkeeps report)
    | rotateCredential =>
      exact runs_discard hkeeps (runs_rotateCredential hcrypto hkeeps (hfresh rfl))
    | tick due => exact runs_tick hkeeps due
    | recoverAfterRestart => exact runs_recoverAfterRestart hkeeps

/-! ### Recovery -/

/-- A client right after it has joined: nothing is pending, and its key is the last one that the
Hub has of the node. -/
structure Joined (env : Env) (nodeId : String) (h : RegistryState) (s : NodeStore) : Prop where
  hosts : Hosts env nodeId h
  bound : s.nodeId = some nodeId
  active : s.state = .active
  rotation : s.pendingRotation = none
  reenrollment : s.pendingReenrollment = none
  keys : ∃ keys, s.keys = some keys ∧ h.db.lastRecord nodeId = some (record env.crypto keys)

theorem Joined.keeps (hjoined : Joined env nodeId h s) : Keeps env nodeId h s := by
  have hrestoring : s.restoringKeys = none := by
    rw [NodeStore.restoringKeys, hjoined.reenrollment]
    rfl
  have hrotating : s.rotatingKeys = none := by
    rw [NodeStore.rotatingKeys, hjoined.rotation]
    rfl
  refine ⟨hjoined.hosts, hjoined.bound, ?_, fun _ => hrestoring, ?_, ?_, ?_, ?_⟩
  · rw [hjoined.active]
    exact nofun
  · intro rotation hpending
    rw [hjoined.rotation] at hpending
    cases hpending
  · obtain ⟨keys, hkeys, hlast⟩ := hjoined.keys
    exact ⟨keys, by simp [NodeStore.keyPairs, hkeys], hlast⟩
  · intro keys hkeys
    rw [hrestoring] at hkeys
    cases hkeys
  · intro keys hkeys
    rw [hrotating] at hkeys
    cases hkeys

/-- The store holds the last key that the Hub has of the node, and no event makes another key the
main one. -/
structure Recoverable (env : Env) (nodeId : String)
    (w : System RegistryState NodeStore Ask Ask.Answer) : Prop where
  held : ∃ keys ∈ w.store.keyPairs, w.server.db.lastRecord nodeId = some (record env.crypto keys)
  accepted : ∀ node, w.server.db.getNodeRow nodeId = some node → node.state = .active →
    ∃ keys ∈ w.store.keyPairs, ∃ key ∈ w.server.db.nodeKeys, key.nodeId = nodeId ∧
      (key.keyId, key.publicKey) = record env.crypto keys ∧ ∀ now, key.AcceptedAt now
  promotes : ∀ candidate next, w.task = some (.persist candidate next) →
    candidate.keys = w.store.keys ∨
      ∃ keys, candidate.keys = some keys ∧
        w.server.db.lastRecord nodeId = some (record env.crypto keys)

/-- However operations, losses, restarts and the calls of others are interleaved, the client holds
a key that the Hub accepts as long as the node is active. -/
theorem keys_recoverable (hcrypto : settings.crypto = env.crypto)
    (w : System RegistryState NodeStore Ask Ask.Answer) (hidle : w.task = none)
    (hjoined : Joined env nodeId w.server w.store)
    (events : List (Event Ask Call Serving Command Ask.Answer))
    (hevents : EachStep (System.step (hubService env) (Command.program settings))
      (fun w event => w.Admits (keeping env nodeId) event) w events) :
    Recoverable env nodeId (w.run (hubService env) (Command.program settings) events) := by
  have hstart : w.Holds (hubService env) (keeping env nodeId) := by
    refine ⟨hjoined.keeps, fun t htask => ?_⟩
    rw [hidle] at htask
    cases htask
  have hholds := hstart.run (sound_keeping hcrypto) hevents
  refine ⟨hholds.inv.held, ?_, ?_⟩
  · intro node hnode hactive
    obtain ⟨keys, hkeys, hlast⟩ := hholds.inv.held
    obtain ⟨key, hkey, hnodeId, hrecord, haccepted⟩ :=
      accepted_lastRecord hholds.inv.hosts hnode hactive hlast
    exact ⟨keys, hkeys, key, hkey, hnodeId, hrecord, haccepted⟩
  · intro candidate next htask
    set w' := w.run (hubService env) (Command.program settings) events
    have hpersists : w'.Persists (.advance : Event Ask Call Serving Command Ask.Answer) candidate :=
      ⟨⟨next, htask⟩, rfl⟩
    exact hholds.persists hpersists

/-! #### A rotation that is cut off -/

def sampleSettings : Settings where
  crypto := sampleCrypto
  sign _ _ := ""
  baseHubUrl := "https://hub.example"
  canonicalHubBaseUrl := .ok
  isTrustedTransport _ := true
  runtimeIdentity := .null
  rotationOverlapHours := 24

def sampleKeyPair : KeyPair where
  publicKeyHex := samplePublicKey
  privateKeyHex := "2222222222222222222222222222222222222222222222222222222222222222"
  publicKey_wellFormed := isPublicKey_sample

/-- The client of the node that has enrolled with the sample key. -/
def sampleStore : NodeStore :=
  { nodeId := some sampleNodeId
    keys := some sampleKeyPair
    hubBaseUrl := some sampleSettings.baseHubUrl
    state := .active }

/-- The key pair of the first rotation. -/
def sampleDraws : Draws where
  now _ := 1700000000000
  entropy := { sampleEntropy 0xa1 with keyPair := ⟨secondPublicKey, "", isPublicKey_second⟩ }

def sampleSystem : System RegistryState NodeStore Ask Ask.Answer :=
  ⟨run sampleEnv {} sampleEnrollment, sampleStore, none⟩

/-- The Hub serves a rotation; the client does not hear of it and is killed, and the operator
deletes the node before it is started again. -/
def sampleEvents : List (Event Ask Call Serving Command Ask.Answer) :=
  [.begin ⟨.rotateCredential, sampleDraws⟩, .advance, .advance, .advance, .advance, .advance,
    .advance, .serveUnheard ⟨fun _ => 1700000000000, sampleEntropy 0xa1, false⟩
      fun _ => .denied 502 "bad-gateway" "",
    .crash, .act sampleDeletion, .begin ⟨.recoverAfterRestart, sampleDraws⟩]

theorem keyIdOf_eq {crypto : Crypto} (keys : KeyPair) {keyId : String}
    (h : deriveKeyId crypto keys.publicKeyHex = .ok keyId) : keyIdOf crypto keys = keyId :=
  Except.ok.inj ((deriveKeyId_keyPair crypto keys).symm.trans h)

theorem keyRecords_sample :
    (run sampleEnv {} sampleEnrollment).db.keyRecords sampleNodeId =
      [(sampleKeyId, samplePublicKey)] := by
  rw [run_sampleEnrollment]
  rfl

theorem joined_sample : Joined sampleEnv sampleNodeId sampleSystem.server sampleSystem.store where
  hosts := by
    refine ⟨⟨sampleEnrollment, rfl⟩, ?_⟩
    rw [sampleSystem, run_sampleEnrollment]
    exact List.mem_singleton.mpr rfl
  bound := rfl
  active := rfl
  rotation := rfl
  reenrollment := rfl
  keys := by
    refine ⟨sampleKeyPair, rfl, ?_⟩
    have hkeyId : keyIdOf sampleEnv.crypto sampleKeyPair = sampleKeyId :=
      keyIdOf_eq sampleKeyPair deriveKeyId_sample
    rw [Db.lastRecord, sampleSystem, keyRecords_sample, record, hkeyId]
    rfl

theorem admits_unheard {w : System RegistryState NodeStore Ask Ask.Answer} {serving : Serving}
    {answer : (ask : Ask) → ask.Answer} (hanswer : ∀ ask body, answer ask ≠ .ok body) :
    w.Admits (keeping env nodeId) (.serveUnheard serving answer) :=
  fun ask _ => ⟨True.intro, hanswer ask⟩

theorem keys_recoverable_sample :
    Recoverable sampleEnv sampleNodeId
      (sampleSystem.run (hubService sampleEnv) (Command.program sampleSettings) sampleEvents) := by
  refine keys_recoverable rfl sampleSystem rfl joined_sample sampleEvents ?_
  refine ⟨fun _ => ?_, True.intro, True.intro, True.intro, True.intro, True.intro, True.intro, ?_,
    True.intro, True.intro, (fun hdraws => by cases hdraws), True.intro⟩
  · have hkeyId : keyIdOf sampleCrypto sampleDraws.entropy.keyPair = secondKeyId :=
      keyIdOf_eq sampleDraws.entropy.keyPair deriveKeyId_second
    have hkeyIds : (run sampleEnv {} sampleEnrollment).db.keyIds sampleNodeId = [sampleKeyId] := by
      rw [keyIds_eq, keyRecords_sample]
      rfl
    change keyIdOf sampleCrypto sampleDraws.entropy.keyPair ∉
      (run sampleEnv {} sampleEnrollment).db.keyIds sampleNodeId
    rw [hkeyId, hkeyIds]
    simp [secondKeyId, sampleKeyId]
  · exact admits_unheard fun ask body hanswer => by cases hanswer

end DshOrbit.NodeClient
