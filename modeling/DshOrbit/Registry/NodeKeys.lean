import DshOrbit.Registry.Nonces

/-!
# Keys of a node

A node signs with one key that has no end, and during a rotation with the key
before it as well, until the end of the overlap. This holds as long as a node
rotates away from a key once: a key in its overlap may still sign a rotation, and
then its end moves and a second key without an end appears.

## Main definitions

- `KeysSound` — what the key tables satisfy in every such run
- `RotatesOpenKey` — a rotation is signed with a key that has no end yet

## Main results

- `change_keysSound`, `change_revokeAfter` — what every change keeps
- `rotation_overlap_bounded`
-/

namespace DshOrbit.Registry

open DshOrbit.Lib DshOrbit.Protocol

variable {env : Env} {clock : Clock} {members : List (String × NodeState)}
  {keys : List NodeKeyRow}

/-! ### Open keys -/

/-- An active key of the node that has no end. -/
def NodeKeyRow.isOpen (nodeId : String) (key : NodeKeyRow) : Bool :=
  key.nodeId = nodeId ∧ key.state = .active ∧ key.revokeAfter = none

def NodeKeyRow.id (key : NodeKeyRow) : String × String := (key.nodeId, key.keyId)

/-- The keys of one node: one open key while it is active, none while it is not. -/
structure OpenKeys (members : List (String × NodeState)) (keys : List NodeKeyRow)
    (nodeId : String) : Prop where
  active : (nodeId, .active) ∈ members → keys.countP (NodeKeyRow.isOpen nodeId) = 1
  tombstoned : (nodeId, .tombstoned) ∈ members → keys.countP (NodeKeyRow.isOpen nodeId) = 0

/-- The keys are distinct and belong to members. -/
structure KeysOwned (members : List (String × NodeState)) (keys : List NodeKeyRow) : Prop where
  members_nodup : (members.map (·.1)).Nodup
  keys_nodup : (keys.map NodeKeyRow.id).Nodup
  key_member : ∀ key ∈ keys, key.nodeId ∈ members.map (·.1)

structure KeysSound (members : List (String × NodeState)) (keys : List NodeKeyRow) : Prop
    extends KeysOwned members keys where
  openKeys : ∀ nodeId, OpenKeys members keys nodeId

theorem keysSound_nil : KeysSound [] [] where
  members_nodup := List.nodup_nil
  keys_nodup := List.nodup_nil
  key_member _ h := (List.not_mem_nil h).elim
  openKeys _ := ⟨fun h => (List.not_mem_nil h).elim, fun h => (List.not_mem_nil h).elim⟩

theorem NodeKeyRow.isKey_iff {nodeId keyId : String} {key : NodeKeyRow} :
    key.isKey nodeId keyId = true ↔ key.id = (nodeId, keyId) := by
  simp [NodeKeyRow.isKey, NodeKeyRow.id]

/-! ### Single changes of the keys -/

theorem KeysOwned.map (h : KeysOwned members keys) {f : NodeKeyRow → NodeKeyRow}
    (hid : ∀ key ∈ keys, (f key).id = key.id) : KeysOwned members (keys.map f) where
  members_nodup := h.members_nodup
  keys_nodup := by
    have : (keys.map f).map NodeKeyRow.id = keys.map NodeKeyRow.id := by
      rw [List.map_map]
      exact List.map_congr_left hid
    rw [this]
    exact h.keys_nodup
  key_member key hkey := by
    obtain ⟨old, hmem, rfl⟩ := List.mem_map.mp hkey
    have : (f old).nodeId = old.nodeId := congrArg Prod.fst (hid old hmem)
    rw [this]
    exact h.key_member old hmem

theorem countP_isOpen_map {f : NodeKeyRow → NodeKeyRow} {nodeId : String}
    (hopen : ∀ key ∈ keys, (f key).isOpen nodeId = key.isOpen nodeId) :
    (keys.map f).countP (NodeKeyRow.isOpen nodeId) = keys.countP (NodeKeyRow.isOpen nodeId) := by
  rw [List.countP_map]
  exact List.countP_congr fun key hkey => by simp [hopen key hkey]

/-- The open keys of a node depend on its state and its rows alone. -/
theorem OpenKeys.congr {nodeId : String} (h : OpenKeys members keys nodeId)
    {members' : List (String × NodeState)} {keys' : List NodeKeyRow}
    (hmembers : ∀ state, (nodeId, state) ∈ members' → (nodeId, state) ∈ members)
    (hcount : keys'.countP (NodeKeyRow.isOpen nodeId) = keys.countP (NodeKeyRow.isOpen nodeId)) :
    OpenKeys members' keys' nodeId :=
  ⟨fun hmember => hcount.trans (h.active (hmembers _ hmember)),
    fun hmember => hcount.trans (h.tombstoned (hmembers _ hmember))⟩

/-- A change of key rows that keeps their ids and which of them are open. -/
theorem KeysSound.map (h : KeysSound members keys) {f : NodeKeyRow → NodeKeyRow}
    (hid : ∀ key ∈ keys, (f key).id = key.id)
    (hopen : ∀ key ∈ keys, ∀ nodeId, (f key).isOpen nodeId = key.isOpen nodeId) :
    KeysSound members (keys.map f) where
  toKeysOwned := h.toKeysOwned.map hid
  openKeys nodeId := (h.openKeys nodeId).congr (fun _ hmember => hmember)
    (countP_isOpen_map fun key hkey => hopen key hkey nodeId)

/-- A node without an open key gets one and is active then. -/
theorem KeysOwned.join (h : KeysOwned members keys) {members' : List (String × NodeState)}
    {key : NodeKeyRow} (hothers : ∀ nodeId, nodeId ≠ key.nodeId → OpenKeys members keys nodeId)
    (hnone : keys.countP (NodeKeyRow.isOpen key.nodeId) = 0)
    (hopen : key.isOpen key.nodeId = true) (hnew : ∀ other ∈ keys, other.id ≠ key.id)
    (hnodup : (members'.map (·.1)).Nodup) (hjoined : (key.nodeId, .active) ∈ members')
    (hmembers : ∀ nodeId state, nodeId ≠ key.nodeId →
      ((nodeId, state) ∈ members' ↔ (nodeId, state) ∈ members)) :
    KeysSound members' (keys ++ [key]) where
  members_nodup := hnodup
  keys_nodup := by
    rw [List.map_append, List.nodup_append]
    refine ⟨h.keys_nodup, by simp, ?_⟩
    intro a ha b hb
    obtain ⟨other, hother, rfl⟩ := List.mem_map.mp ha
    obtain rfl : b = key.id := by simpa using hb
    exact hnew other hother
  key_member other hother := by
    by_cases hnode : other.nodeId = key.nodeId
    · rw [hnode]
      exact List.mem_map_of_mem hjoined
    · have hold : other ∈ keys := by
        rcases List.mem_append.mp hother with hmem | hmem
        · exact hmem
        · exact absurd (congrArg NodeKeyRow.nodeId (List.mem_singleton.mp hmem)) hnode
      obtain ⟨⟨nodeId, state⟩, hmember, heq⟩ := List.mem_map.mp (h.key_member other hold)
      obtain rfl : nodeId = other.nodeId := heq
      exact List.mem_map_of_mem ((hmembers _ state hnode).mpr hmember)
  openKeys nodeId := by
    by_cases hnode : nodeId = key.nodeId
    · subst hnode
      refine ⟨fun _ => ?_, fun htombstoned => ?_⟩
      · rw [List.countP_append, hnone, List.countP_singleton, if_pos hopen]
      · have := List.inj_on_of_nodup_map hnodup htombstoned hjoined rfl
        simp at this
    · have hclosed : key.isOpen nodeId = false := by
        simp only [NodeKeyRow.isOpen, decide_eq_false_iff_not]
        exact fun hkey => hnode hkey.1.symm
      have hcount : (keys ++ [key]).countP (NodeKeyRow.isOpen nodeId) =
          keys.countP (NodeKeyRow.isOpen nodeId) := by
        rw [List.countP_append, List.countP_singleton, hclosed]
        rfl
      exact (hothers nodeId hnode).congr (fun state => (hmembers nodeId state hnode).mp) hcount

/-- A rotation away from the open key leaves no other open one. -/
theorem countP_isOpen_rotate {keys : List NodeKeyRow} {key : NodeKeyRow} (revokeAfter : ℤ)
    (hkey : key ∈ keys) (hopen : key.isOpen key.nodeId = true)
    (hone : keys.countP (NodeKeyRow.isOpen key.nodeId) = 1) :
    (updateWhere (NodeKeyRow.isKey key.nodeId key.keyId)
      (fun row => { row with revokeAfter := some revokeAfter }) keys).countP
        (NodeKeyRow.isOpen key.nodeId) = 0 := by
  have hsplit := List.countP_eq_countP_filter_add keys (NodeKeyRow.isOpen key.nodeId)
    (NodeKeyRow.isKey key.nodeId key.keyId)
  have hpos : 0 < (keys.filter (NodeKeyRow.isKey key.nodeId key.keyId)).countP
      (NodeKeyRow.isOpen key.nodeId) :=
    List.countP_pos_iff.mpr ⟨key, by simp [hkey, NodeKeyRow.isKey], hopen⟩
  have hrest : (keys.filter fun row => !(row.isKey key.nodeId key.keyId)).countP
      (NodeKeyRow.isOpen key.nodeId) = 0 := by omega
  rw [List.countP_eq_zero] at hrest ⊢
  intro row hrow
  rcases mem_updateWhere.mp hrow with ⟨hmem, hother⟩ | ⟨old, -, -, rfl⟩
  · exact hrest row (List.mem_filter.mpr ⟨hmem, by simp [hother]⟩)
  · simp [NodeKeyRow.isOpen]

/-! ### Every change -/

/-- A rotation is signed with a key that has no end. -/
def NoEnd (key : NodeKeyRow) : Prop := key.revokeAfter = none

/-- A key row with an id that is in the table is the row of the table. -/
theorem KeysOwned.eq_of_id (h : KeysOwned members keys) {a b : NodeKeyRow} (ha : a ∈ keys)
    (hb : b ∈ keys) (heq : a.id = b.id) : a = b :=
  eq_of_nodup_key h.keys_nodup ha hb heq

/-- An expired row is one that had an end. -/
theorem expired_cases (h : KeysOwned members keys) {f : NodeKeyRow → NodeKeyRow} {now : ℤ}
    (hf : ∀ row, f row = row ∨ ∃ ended ∈ keys, ended.isKey row.nodeId row.keyId = true ∧
      ended.state = .active ∧ overlapEnded ended.revokeAfter now = true ∧
      ∃ revokedAt, f row = row.expired revokedAt) {key : NodeKeyRow} (hkey : key ∈ keys) :
    f key = key ∨ key.revokeAfter ≠ none ∧ ∃ revokedAt, f key = key.expired revokedAt := by
  rcases hf key with heq | ⟨ended, hended, hsame, -, hover, hexpired⟩
  · exact .inl heq
  · refine .inr ⟨?_, hexpired⟩
    rw [h.eq_of_id hkey hended (NodeKeyRow.isKey_iff.mp hsame).symm]
    rintro hnone
    simp [hnone, overlapEnded] at hover

theorem change_keysSound (l l' : Ledger) (h : Ledger.Change env clock NoEnd True l l')
    (hl : KeysSound l.members l.nodeKeys) : KeysSound l'.members l'.nodeKeys := by
  cases h with
  | enter use hnew =>
    have hnone : l.nodeKeys.countP (NodeKeyRow.isOpen use.key.nodeId) = 0 := by
      rw [List.countP_eq_zero]
      intro other hother hopen
      obtain ⟨member, hmember, heq⟩ := List.mem_map.mp (hl.key_member other hother)
      exact hnew member hmember (heq.trans (of_decide_eq_true hopen).1)
    refine hl.toKeysOwned.join (fun nodeId _ => hl.openKeys nodeId) hnone ?_ use.key_new ?_ ?_ ?_
    · simp [NodeKeyRow.isOpen, use.key_state, use.key_revokeAfter]
    · rw [TokenUse.admitted, List.map_append, List.nodup_append]
      refine ⟨hl.members_nodup, by simp, ?_⟩
      intro a ha b hb
      obtain ⟨member, hmember, rfl⟩ := List.mem_map.mp ha
      obtain rfl : b = use.key.nodeId := by simpa using hb
      exact hnew member hmember
    · exact List.mem_append_right _ List.mem_cons_self
    · intro nodeId state hnode
      simp [TokenUse.admitted, hnode]
  | restore use hmember historicalKeyId =>
    have hjoin := hl.toKeysOwned.join (fun nodeId _ => hl.openKeys nodeId)
      ((hl.openKeys use.key.nodeId).tombstoned hmember)
      (by simp [NodeKeyRow.isOpen, use.key_state, use.key_revokeAfter]) use.key_new
      ((map_fst_moved use.key.nodeId .active).symm ▸ hl.members_nodup)
      (mem_updateWhere.mpr (.inr ⟨_, hmember, by simp, rfl⟩)) fun _ _ hnode => mem_moved hnode
    refine hjoin.map (fun key _ => ?_) fun key _ nodeId => ?_
    · split_ifs <;> rfl
    · split_ifs <;> rfl
  | rotate key new hkey haccepted hmember hrotates hnode hnew hstate hrevokeAfter =>
    have hopen : key.isOpen key.nodeId = true := by
      simp only [NodeKeyRow.isOpen, decide_eq_true_eq]
      exact ⟨trivial, haccepted.1, hrotates⟩
    have hid : ∀ other ∈ l.nodeKeys, (if other.isKey key.nodeId key.keyId then
        { other with revokeAfter := some (clock 4 + env.config.rotationOverlapMs) }
        else other).id = other.id := by
      intro other _
      split_ifs <;> rfl
    refine (hl.toKeysOwned.map hid).join (fun nodeId hother => ?_) ?_ ?_ ?_ hl.members_nodup ?_
      fun _ _ _ => Iff.rfl
    · refine (hl.openKeys nodeId).congr (fun _ hmem => hmem) (countP_isOpen_map fun other _ => ?_)
      split_ifs with hsame
      · have hne : other.nodeId ≠ nodeId := by
          rintro rfl
          exact hother ((congrArg Prod.fst (NodeKeyRow.isKey_iff.mp hsame)).trans hnode.symm)
        simp [NodeKeyRow.isOpen, hne]
      · rfl
    · rw [hnode]
      exact countP_isOpen_rotate _ hkey hopen ((hl.openKeys key.nodeId).active hmember)
    · simp [NodeKeyRow.isOpen, hstate, hrevokeAfter]
    · intro other hother
      obtain ⟨old, hold, rfl⟩ := List.mem_map.mp hother
      rw [hid old hold]
      exact hnew old hold
    · rw [hnode]
      exact hmember
  | tombstone nodeId now =>
    have hid : ∀ key ∈ l.nodeKeys, (if decide (key.nodeId = nodeId ∧ key.state = .active) = true then
        key.deleted now else key).id = key.id := by
      intro key _
      split_ifs <;> rfl
    have howned := hl.toKeysOwned.map hid
    refine ⟨⟨(map_fst_moved nodeId .tombstoned).symm ▸ hl.members_nodup, howned.keys_nodup, fun key hkey => ?_⟩, fun other => ?_⟩
    · have := howned.key_member key hkey
      rwa [← map_fst_moved nodeId .tombstoned] at this
    · by_cases hother : other = nodeId
      · have hzero : (updateWhere (fun row => row.nodeId = nodeId ∧ row.state = .active)
            (NodeKeyRow.deleted now) l.nodeKeys).countP (NodeKeyRow.isOpen other) = 0 := by
          rw [List.countP_eq_zero]
          intro key hkey hopen
          obtain ⟨hnode, hactive, -⟩ := of_decide_eq_true hopen
          rcases mem_updateWhere.mp hkey with ⟨-, hkept⟩ | ⟨old, -, -, rfl⟩
          · exact of_decide_eq_false hkept ⟨hnode.trans hother, hactive⟩
          · cases hactive
        refine ⟨fun hmember => ?_, fun _ => hzero⟩
        rcases mem_updateWhere.mp hmember with ⟨-, hkept⟩ | ⟨old, -, -, heq⟩
        · exact absurd hother (of_decide_eq_false hkept)
        · cases congrArg Prod.snd heq
      · refine (hl.openKeys other).congr (fun _ => (mem_moved hother).mp)
          (countP_isOpen_map fun key _ => ?_)
        split_ifs with hsame
        · have hne : key.nodeId ≠ other := fun heq =>
            hother (heq.symm.trans (of_decide_eq_true hsame).1)
          simp [NodeKeyRow.isOpen, NodeKeyRow.deleted, hne]
        · rfl
  | expireNodeKeys f now hf =>
    refine hl.map (fun key hkey => ?_) (fun key hkey nodeId => ?_)
    · rcases expired_cases hl.toKeysOwned hf hkey with heq | ⟨-, revokedAt, heq⟩ <;> rw [heq]
      rfl
    · rcases expired_cases hl.toKeysOwned hf hkey with heq | ⟨hend, revokedAt, heq⟩
      · rw [heq]
      · rw [heq]
        simp [NodeKeyRow.isOpen, NodeKeyRow.expired, hend]
  | _ => exact hl

/-! ### The end of a key -/

/-- What may become of the end of a key in a call: it stays, or a rotation sets it. -/
def EndKept (env : Env) (clock : Clock) (before after : Option ℤ) : Prop :=
  after = before ∨ before = none ∧ after = some (clock 4 + env.config.rotationOverlapMs)

theorem EndKept.trans {a b c : Option ℤ} (h : EndKept env clock a b) (h' : EndKept env clock b c) :
    EndKept env clock a c := by
  rcases h with rfl | ⟨rfl, rfl⟩
  · exact h'
  · rcases h' with rfl | ⟨hnone, -⟩
    · exact .inr ⟨rfl, rfl⟩
    · cases hnone

/-- A row of the key and the end it has. -/
def HasEnd (keys : List NodeKeyRow) (id : String × String) (P : Option ℤ → Prop) : Prop :=
  ∃ key ∈ keys, key.id = id ∧ P key.revokeAfter

theorem HasEnd.map {id : String × String} {P : Option ℤ → Prop} (h : HasEnd keys id P)
    {f : NodeKeyRow → NodeKeyRow}
    (hf : ∀ key ∈ keys, (f key).id = key.id ∧ (f key).revokeAfter = key.revokeAfter) :
    HasEnd (keys.map f) id P := by
  obtain ⟨key, hkey, hid, hP⟩ := h
  obtain ⟨hfid, hfend⟩ := hf key hkey
  exact ⟨f key, List.mem_map_of_mem hkey, hfid.trans hid, hfend ▸ hP⟩

theorem HasEnd.append {id : String × String} {P : Option ℤ → Prop} (h : HasEnd keys id P)
    (new : List NodeKeyRow) : HasEnd (keys ++ new) id P := by
  obtain ⟨key, hkey, hrest⟩ := h
  exact ⟨key, List.mem_append_left new hkey, hrest⟩

/-- Only a rotation gives a key an end, and only to a key without one. -/
theorem change_hasEnd {l l' : Ledger} (h : Ledger.Change env clock NoEnd True l l')
    (hl : KeysSound l.members l.nodeKeys) {id : String × String} {before : Option ℤ}
    (hend : HasEnd l.nodeKeys id (EndKept env clock before)) :
    HasEnd l'.nodeKeys id (EndKept env clock before) := by
  cases h with
  | enter use => exact hend.append _
  | restore use =>
    refine (hend.append _).map fun key _ => ?_
    split_ifs <;> exact ⟨rfl, rfl⟩
  | rotate key new hkey haccepted hmember hrotates =>
    obtain ⟨old, hold, rfl, hkept⟩ := hend
    by_cases hsame : old.isKey key.nodeId key.keyId = true
    · -- the key that signed: it had no end, so neither did it before the call
      obtain rfl : old = key := hl.eq_of_id hold hkey (NodeKeyRow.isKey_iff.mp hsame)
      refine HasEnd.append ⟨_, mem_updateWhere.mpr (.inr ⟨old, hold, hsame, rfl⟩), rfl, ?_⟩ _
      exact hkept.trans (.inr ⟨hrotates, rfl⟩)
    · refine HasEnd.append ⟨old, mem_updateWhere.mpr (.inl ⟨hold, by simpa using hsame⟩), rfl,
        hkept⟩ _
  | tombstone nodeId now =>
    refine hend.map fun key _ => ?_
    split_ifs <;> exact ⟨rfl, rfl⟩
  | expireNodeKeys f now hf =>
    refine hend.map fun key hkey => ?_
    rcases expired_cases hl.toKeysOwned hf hkey with heq | ⟨-, revokedAt, heq⟩ <;>
      rw [heq] <;> exact ⟨rfl, rfl⟩
  | _ => exact hend

/-- A rotation that authenticates is signed with a key that has no end. -/
def RotatesOpenKey (env : Env) (s : RegistryState) (call : Call) : Prop :=
  ∀ key, RotationSignedWith env s.db call key → key.revokeAfter = none

theorem step_keysSound {s : RegistryState} {call : Call}
    (hs : KeysSound s.db.ledger.members s.db.nodeKeys) (hcall : RotatesOpenKey env s call) :
    KeysSound (step env s call).db.ledger.members (step env s call).db.nodeKeys :=
  (step_changes hcall fun _ => trivial).invariant change_keysSound hs

/-- The end of a key after a step. -/
theorem step_hasEnd {s : RegistryState} {call : Call}
    (hs : KeysSound s.db.ledger.members s.db.nodeKeys) (hcall : RotatesOpenKey env s call)
    {key : NodeKeyRow} (hkey : key ∈ s.db.nodeKeys) :
    HasEnd (step env s call).db.nodeKeys key.id (EndKept env call.clock key.revokeAfter) := by
  have h := (step_changes hcall fun _ => trivial).invariant
    (I := fun l => KeysSound l.members l.nodeKeys ∧
      HasEnd l.nodeKeys key.id (EndKept env call.clock key.revokeAfter))
    (fun l l' hchange hl => ⟨change_keysSound l l' hchange hl.1, change_hasEnd hchange hl.1 hl.2⟩)
    ⟨hs, key, hkey, rfl, .inl rfl⟩
  exact h.2

/-- A key that has an end keeps it in every run. -/
theorem run_hasEnd {s : RegistryState} {calls : List Call}
    (hcalls : EachStep (step env) (RotatesOpenKey env) s calls)
    (hs : KeysSound s.db.ledger.members s.db.nodeKeys) {id : String × String} {t : ℤ}
    (h : HasEnd s.db.nodeKeys id (· = some t)) :
    HasEnd (run env s calls).db.nodeKeys id (· = some t) := by
  induction calls generalizing s with
  | nil => exact h
  | cons call rest ih =>
    obtain ⟨key, hkey, rfl, hend⟩ := h
    obtain ⟨key', hkey', hid, hkept⟩ := step_hasEnd hs hcalls.1 hkey
    refine ih hcalls.2 (step_keysSound hs hcalls.1) ⟨key', hkey', hid, ?_⟩
    rcases hkept with heq | ⟨hnone, -⟩
    · exact heq.trans hend
    · rw [hend] at hnone
      cases hnone

/-! ### Runs -/

/-- The bounds of a rotation overlap in a run from the empty registry. -/
structure OverlapBounded (env : Env) (calls : List Call) : Prop where
  /-- No call moves the end of a key later. -/
  never_later : ∀ before between after, calls = before ++ (between ++ after) →
    ∀ key ∈ (run env {} before).db.nodeKeys, ∀ t, key.revokeAfter = some t →
      ∀ later ∈ (run env {} (before ++ between)).db.nodeKeys, later.id = key.id →
        ∃ t' ≤ t, later.revokeAfter = some t'
  /-- A key stops authenticating one overlap after the call that first gave it an end. -/
  stops : ∀ before call between after, calls = before ++ call :: (between ++ after) →
    ∀ key ∈ (run env {} before).db.nodeKeys, key.revokeAfter = none →
      ∀ ending ∈ (run env {} (before ++ [call])).db.nodeKeys, ending.id = key.id →
        ending.revokeAfter ≠ none →
        ∀ clock req fields node signer,
          checkMachineRequest env clock (run env {} (before ++ call :: between)).db req =
            .ok (fields, node, signer) →
          signer.id = key.id → clock 1 < call.clock 4 + env.config.rotationOverlapMs
  /-- An active node has exactly one accepted key without an end. -/
  one_open : ∀ before after, calls = before ++ after → ∀ nodeId node,
    (run env {} before).db.getNodeRow nodeId = some node → node.state = .active → ∀ now,
      (run env {} before).db.nodeKeys.countP
        (fun key => key.nodeId = nodeId ∧ key.AcceptedAt now ∧ key.revokeAfter = none) = 1

theorem isOpen_eq (nodeId : String) (now : ℤ) (key : NodeKeyRow) :
    decide (key.nodeId = nodeId ∧ key.AcceptedAt now ∧ key.revokeAfter = none) =
      key.isOpen nodeId := by
  have : (key.AcceptedAt now ∧ key.revokeAfter = none) ↔
      (key.state = .active ∧ key.revokeAfter = none) := by
    constructor
    · exact fun h => ⟨h.1.1, h.2⟩
    · rintro ⟨hstate, hnone⟩
      exact ⟨⟨hstate, fun t ht => by rw [hnone] at ht; cases ht⟩, hnone⟩
  simp only [NodeKeyRow.isOpen, this]

theorem run_keysSound {calls : List Call} (hcalls : EachStep (step env) (RotatesOpenKey env) {} calls) :
    KeysSound (run env {} calls).db.ledger.members (run env {} calls).db.nodeKeys :=
  runFrom_invariant (I := fun s : RegistryState => KeysSound s.db.ledger.members s.db.nodeKeys)
    (fun _ _ hs hcall => step_keysSound hs hcall) keysSound_nil hcalls

/-- Where every rotation is signed with a key that has no end yet, no end moves later,
a key stops authenticating one overlap after its first rotation, and an active node
has exactly one accepted key without an end. -/
theorem rotation_overlap_bounded (env : Env) (calls : List Call)
    (hcalls : EachStep (step env) (RotatesOpenKey env) {} calls) : OverlapBounded env calls where
  never_later before between after hsplit key hkey t ht later hlater hid := by
    subst hsplit
    obtain ⟨hbefore, hrest⟩ := eachStep_append.mp hcalls
    obtain ⟨hbetween, -⟩ := eachStep_append.mp hrest
    obtain ⟨kept, hkept, hkeptId, hkeptEnd⟩ :=
      run_hasEnd hbetween (run_keysSound hbefore) ⟨key, hkey, rfl, ht⟩
    have hsound := run_keysSound (eachStep_append.mpr ⟨hbefore, hbetween⟩)
    rw [run_append] at hsound hlater
    obtain rfl := hsound.eq_of_id hkept hlater (hkeptId.trans hid.symm)
    exact ⟨t, le_rfl, hkeptEnd⟩
  stops before call between after hsplit key hkey hnone ending hending hid hend clock req fields
      node signer hcheck hsigner := by
    subst hsplit
    obtain ⟨hbefore, hcall, hrest⟩ := eachStep_append.mp hcalls
    obtain ⟨hbetween, -⟩ := eachStep_append.mp hrest
    have hsound := run_keysSound hbefore
    have hsound' := step_keysSound hsound hcall
    rw [run_append] at hending
    -- the call set the end of the key to one overlap after its own reading
    obtain ⟨set, hset, hsetId, hsetEnd⟩ := step_hasEnd hsound hcall hkey
    obtain rfl := hsound'.eq_of_id hset hending (hsetId.trans hid.symm)
    have ht : set.revokeAfter = some (call.clock 4 + env.config.rotationOverlapMs) := by
      rcases hsetEnd with heq | ⟨-, heq⟩
      · exact absurd (heq.trans hnone) hend
      · exact heq
    obtain ⟨kept, hkept, hkeptId, hkeptEnd⟩ := run_hasEnd hbetween hsound' ⟨set, hset, rfl, ht⟩
    obtain ⟨-, hchecked⟩ := checkMachineRequest_ok hcheck
    have hsound'' : KeysSound (run env {} (before ++ call :: between)).db.ledger.members _ :=
      run_keysSound (eachStep_append.mpr ⟨hbefore, hcall, hbetween⟩)
    rw [run_append] at hsound'' hchecked
    obtain rfl := hsound''.eq_of_id hkept hchecked.key_mem.1
      (hkeptId.trans (hsetId.trans hsigner.symm))
    exact hchecked.accepted.2 _ hkeptEnd
  one_open before after hsplit nodeId node hnode hactive now := by
    subst hsplit
    have hsound := run_keysSound (eachStep_append.mp hcalls).1
    have hmember := Db.member_of_getNodeRow hnode
    rw [hactive] at hmember
    simp only [isOpen_eq]
    exact (hsound.openKeys nodeId).active hmember

/-! ### Two rotations away from one key -/

def secondPublicKey : String := "8139770ea87d175f56a35466c34c7ecccb8d8a91b4ee37a25df60f5b8fc9b394"

def secondKeyId : String := "6a3803d5f059902a1c6dafbc9ba47292"

def thirdPublicKey : String := "ed4928c628d1c2c6eae90338905995612959273a5c63f93636c14614ac8737d1"

def thirdKeyId : String := "b62e867fa2f33afe62d5d6b1642e1621"

theorem isPublicKey_second : isPublicKey secondPublicKey = true :=
  (matchesHex_ofList 64 _).trans rfl

theorem isPublicKey_third : isPublicKey thirdPublicKey = true := (matchesHex_ofList 64 _).trans rfl

theorem deriveKeyId_second : deriveKeyId sampleCrypto secondPublicKey = .ok secondKeyId := by
  obtain ⟨rest, hraw⟩ : ∃ rest, fromHex secondPublicKey.toList = 0x81 :: rest :=
    ⟨_, (congrArg fromHex String.toList_ofList).trans rfl⟩
  have hdigest : sampleCrypto.sha256 (0x81 :: rest) = _ := congrArg fromHex String.toList_ofList
  rw [deriveKeyId_of_isPublicKey isPublicKey_second, hraw, sha256Hex, hdigest, toHex,
    String.toList_ofList]
  rfl

theorem deriveKeyId_third : deriveKeyId sampleCrypto thirdPublicKey = .ok thirdKeyId := by
  obtain ⟨rest, hraw⟩ : ∃ rest, fromHex thirdPublicKey.toList = 0xed :: rest :=
    ⟨_, (congrArg fromHex String.toList_ofList).trans rfl⟩
  have hdigest : sampleCrypto.sha256 (0xed :: rest) = _ := congrArg fromHex String.toList_ofList
  rw [deriveKeyId_of_isPublicKey isPublicKey_third, hraw, sha256Hex, hdigest, toHex,
    String.toList_ofList]
  rfl

/-- The database after a rotation from a key of a node to a new one. -/
def Db.rotated (env : Env) (clock : Clock) (db : Db)
    (nodeId oldKeyId newPublicKey newKeyId : String) : Db :=
  let revokeAfter := clock 4 + env.config.rotationOverlapMs
  let db := db.setRevokeAfter nodeId oldKeyId revokeAfter
  let db : Db := { db with
    nodeKeys := db.nodeKeys ++ [{ nodeId, keyId := newKeyId, publicKey := newPublicKey,
                                  createdAt := clock 3 }] }
  db.recordAudit (clock 5) ("node:" ++ nodeId) "node.credential-rotated"
    (.obj [("oldKeyId", .str oldKeyId), ("newKeyId", .str newKeyId),
      ("overlapUntil", .str (toIsoString revokeAfter))])

/-- A rotation that authenticates and brings a new key is carried out. -/
theorem serveMachine_rotation {env : Env} {entropy : Entropy} {clock : Clock} {db db1 : Db}
    {req : MachineRequest} {node : NodeRow} {key : NodeKeyRow} {newPublicKey newKeyId : String}
    (hauth : authenticateMachine env clock db req = .ok (node, key, db1))
    (hpublicKey : isPublicKey newPublicKey = true)
    (hderive : deriveKeyId env.crypto newPublicKey = .ok newKeyId) (hne : newKeyId ≠ key.keyId)
    (hnode : (db1.getNodeRow node.nodeId).isSome = true)
    (hnew : ∀ other ∈ db1.nodeKeys, (other.nodeId, other.keyId) ≠ (node.nodeId, newKeyId)) :
    serveMachine env entropy clock db req
        (.rotateCredential (some (.obj [("newPublicKey", .str newPublicKey)]))) =
      db1.rotated env clock node.nodeId key.keyId newPublicKey newKeyId := by
  have hbody : rotationPublicKey (.obj [("newPublicKey", .str newPublicKey)]) = .ok newPublicKey := by
    have htext : requireString (some newPublicKey) "newPublicKey" = .ok newPublicKey :=
      requireString_eq_ok.mpr ⟨rfl, ne_empty_of_matchesHex hpublicKey⟩
    exact bind_eq_ok.mpr ⟨_, htext,
      bind_eq_ok.mpr ⟨(), requireWire_eq_ok.mpr ⟨_, rfl, hpublicKey⟩, rfl⟩⟩
  have hkeys : ∀ other ∈ (db1.setRevokeAfter node.nodeId key.keyId
      (clock 4 + env.config.rotationOverlapMs)).nodeKeys,
      (other.nodeId, other.keyId) ≠ (node.nodeId, newKeyId) := by
    intro other hother
    rcases mem_updateWhere.mp hother with ⟨hmem, -⟩ | ⟨old, hmem, -, rfl⟩
    · exact hnew other hmem
    · exact hnew old hmem
  have hinsert := @Db.insertNodeKey_of_new _
    { nodeId := node.nodeId, keyId := newKeyId, publicKey := newPublicKey, createdAt := clock 3 }
    hkeys hnode
  simp only [serveMachine, hauth, Business.perform, rotateCredentialAuthenticated, parseJsonBody,
    hbody, hderive, hne, if_false, orThrow, hinsert, bind, Except.bind, pure, Except.pure,
    Except.map, commit]
  rfl

def firstRotation : Call :=
  { operation := .machine
      (sampleRequest "/api/v1/credential-rotate"
        "75ecef0065b818a2a35ccd8669766afc794d8c4af4276452884c90ab604b0fa7" "1700000000"
        "a1a1a1a1a1a1a1a1a1a1a1a1a1a1a1a1"
        "78a08e46aac2474872d3a0fda74f64e91d00d5f9409e09ae63cd83b8b3ad184129d0c4adc78f38a73f2f5108c4eb38558621698c5ceaba91731cb4b1c9bc8b01")
      (.rotateCredential (some (.obj [("newPublicKey", .str secondPublicKey)])))
    clock := fun _ => 1700000000000
    entropy := sampleEntropy 0 }

/-- Ten seconds later the first key signs another rotation. -/
def secondRotation : Call :=
  { operation := .machine
      (sampleRequest "/api/v1/credential-rotate"
        "e20afbbcb080fe51ecd728dd15502816f8efd898c15756a67b743bea86439011" "1700000000"
        "a2a2a2a2a2a2a2a2a2a2a2a2a2a2a2a2"
        "407336b8d1551a1feef4829b32535535479fdd7c8d7dd0dd04ce561c910c9394a842c5999ff90941ad208c6e5afe56b6771ac26e1e24969445d319dc377b350a")
      (.rotateCredential (some (.obj [("newPublicKey", .str thirdPublicKey)])))
    clock := fun _ => 1700000010000
    entropy := sampleEntropy 0 }

/-- The database after a rotation that the sample key signs. -/
def rotatedDb (clock : Clock) (db : Db) (nonce newPublicKey newKeyId : String) : Db :=
  Db.rotated sampleEnv clock { db with nonces := db.nonces ++ [⟨sampleNodeId, nonce, clock 2⟩] }
    sampleNodeId sampleKeyId newPublicKey newKeyId

/-- A rotation by the sample key in a registry that holds it. -/
theorem step_rotation {db : Db} {clock : Clock} {key : NodeKeyRow}
    {bodyHash nonce signature newPublicKey newKeyId : String}
    (hnonce : matchesHex 32 nonce = true) (hsignature : matchesHex 128 signature = true)
    (hskew : InMachineSkew (clock 0) 1700000000) (hnode : db.getNodeRow sampleNodeId = some sampleNode)
    (hkey : db.getKeyRow sampleNodeId sampleKeyId = some key)
    (hid : key.keyId = sampleKeyId ∧ key.publicKey = samplePublicKey)
    (haccepted : key.AcceptedAt (clock 1))
    (hnewNonce : ∀ other ∈ db.nonces, (other.nodeId, other.nonce) ≠ (sampleNodeId, nonce))
    (hpublicKey : isPublicKey newPublicKey = true)
    (hderive : deriveKeyId sampleCrypto newPublicKey = .ok newKeyId) (hne : newKeyId ≠ sampleKeyId)
    (hnew : ∀ other ∈ db.nodeKeys, (other.nodeId, other.keyId) ≠ (sampleNodeId, newKeyId)) :
    serveMachine sampleEnv (sampleEntropy 0) clock db
        (sampleRequest "/api/v1/credential-rotate" bodyHash "1700000000" nonce signature)
        (.rotateCredential (some (.obj [("newPublicKey", .str newPublicKey)]))) =
      rotatedDb clock db nonce newPublicKey newKeyId := by
  have hcheck : checkMachineRequest sampleEnv clock db
      (sampleRequest "/api/v1/credential-rotate" bodyHash "1700000000" nonce signature) =
        .ok (_, sampleNode, key) :=
    checkMachineRequest_sample parseTimestamp_sample hnonce hsignature hskew hnode rfl hkey hid.2
      haccepted
  have hauth := authenticateMachine_of_check hcheck hnewNonce
  rw [serveMachine_rotation hauth hpublicKey hderive (hid.1.symm ▸ hne) _ hnew]
  · rw [hid.1]
    rfl
  · exact hnode ▸ rfl

set_option maxRecDepth 2000 in
theorem step_firstRotation :
    step sampleEnv ⟨enrolledDb, []⟩ firstRotation = ⟨rotatedDb firstRotation.clock enrolledDb
      "a1a1a1a1a1a1a1a1a1a1a1a1a1a1a1a1" secondPublicKey secondKeyId, []⟩ := by
  have hnode : enrolledDb.getNodeRow sampleNodeId = some sampleNode := by
    simp [Db.getNodeRow, enrolledDb, Db.recordAudit, sampleNode]
  have hkey : enrolledDb.getKeyRow sampleNodeId sampleKeyId = some sampleNodeKey := by
    simp [Db.getKeyRow, enrolledDb, Db.recordAudit, sampleNodeKey]
  rw [step, firstRotation]
  dsimp only
  rw [step_rotation ((matchesHex_ofList 32 _).trans rfl) ((matchesHex_ofList 128 _).trans rfl)
    (by decide) hnode hkey ⟨rfl, rfl⟩ (by decide) (by simp [enrolledDb, Db.recordAudit])
    isPublicKey_second deriveKeyId_second (by simp [secondKeyId, sampleKeyId])
    (by simp [enrolledDb, Db.recordAudit, sampleNodeKey, secondKeyId, sampleKeyId])]

/-- The registry after the first rotation. -/
def onceRotatedDb : Db :=
  rotatedDb firstRotation.clock enrolledDb "a1a1a1a1a1a1a1a1a1a1a1a1a1a1a1a1" secondPublicKey
    secondKeyId

/-- The sample key with the end that a rotation at some instant sets. -/
def endingKey (now : ℤ) : NodeKeyRow :=
  { sampleNodeKey with revokeAfter := some (now + sampleConfig.rotationOverlapMs) }

theorem onceRotatedDb_nodeKeys : onceRotatedDb.nodeKeys =
    [endingKey 1700000000000,
      { nodeId := sampleNodeId, keyId := secondKeyId, publicKey := secondPublicKey,
        createdAt := 1700000000000 }] := by
  simp [onceRotatedDb, rotatedDb, Db.rotated, Db.setRevokeAfter, Db.recordAudit, enrolledDb,
    updateWhere, sampleNodeKey, endingKey, firstRotation, sampleEnv]

set_option maxRecDepth 2000 in
theorem step_secondRotation :
    step sampleEnv ⟨onceRotatedDb, []⟩ secondRotation = ⟨rotatedDb secondRotation.clock
      onceRotatedDb "a2a2a2a2a2a2a2a2a2a2a2a2a2a2a2a2" thirdPublicKey thirdKeyId, []⟩ := by
  have hnode : onceRotatedDb.getNodeRow sampleNodeId = some sampleNode := by
    simp [Db.getNodeRow, onceRotatedDb, rotatedDb, Db.rotated, Db.setRevokeAfter, enrolledDb,
      Db.recordAudit, sampleNode]
  have hkey : onceRotatedDb.getKeyRow sampleNodeId sampleKeyId =
      some (endingKey 1700000000000) := by
    simp [Db.getKeyRow, onceRotatedDb_nodeKeys, endingKey, sampleNodeKey]
  rw [step, secondRotation]
  dsimp only
  rw [step_rotation ((matchesHex_ofList 32 _).trans rfl) ((matchesHex_ofList 128 _).trans rfl)
    (by decide) hnode hkey ⟨rfl, rfl⟩ (by decide)
    (by simp [onceRotatedDb, rotatedDb, Db.rotated, Db.setRevokeAfter, enrolledDb, Db.recordAudit])
    isPublicKey_third deriveKeyId_third (by simp [thirdKeyId, sampleKeyId])
    (by simp [onceRotatedDb_nodeKeys, endingKey, sampleNodeKey, secondKeyId, sampleKeyId,
      thirdKeyId])]

theorem run_firstRotation :
    run sampleEnv {} (sampleEnrollment ++ [firstRotation]) = ⟨onceRotatedDb, []⟩ := by
  rw [run_append, run_sampleEnrollment, run, runFrom_cons, step_firstRotation]
  rfl

theorem endingKey_mem_secondRotation : endingKey 1700000010000 ∈
    (run sampleEnv {} (sampleEnrollment ++ [firstRotation] ++ [secondRotation])).db.nodeKeys := by
  rw [run_append, run_firstRotation, run, runFrom_cons, step_secondRotation, runFrom_nil]
  refine List.mem_append_left _ (mem_updateWhere.mpr (.inr ⟨endingKey 1700000000000, ?_, ?_, rfl⟩))
  · simp [onceRotatedDb_nodeKeys]
  · rfl

/-- The second rotation moves the end of the first key ten seconds later. -/
theorem rotation_overlap_moved :
    ¬OverlapBounded sampleEnv (sampleEnrollment ++ [firstRotation, secondRotation]) := by
  intro hbounded
  obtain ⟨t, hle, hend⟩ := hbounded.never_later (sampleEnrollment ++ [firstRotation])
    [secondRotation] [] (by simp) (endingKey 1700000000000)
    (by simp [run_firstRotation, onceRotatedDb_nodeKeys]) _ rfl (endingKey 1700000010000)
    endingKey_mem_secondRotation rfl
  obtain rfl := Option.some.inj hend
  omega

/-- A run that rotates once. -/
theorem rotation_overlap_bounded_once :
    OverlapBounded sampleEnv (sampleEnrollment ++ [firstRotation]) := by
  refine rotation_overlap_bounded sampleEnv _ (eachStep_append.mpr ⟨⟨?_, ?_, trivial⟩, ?_, trivial⟩)
  · rintro key ⟨req, rawBody, node, db, hoperation, -⟩
    cases hoperation
  · rintro key ⟨req, rawBody, node, db, hoperation, -⟩
    cases hoperation
  · have hrun : runFrom (step sampleEnv) {} sampleEnrollment = ⟨enrolledDb, []⟩ :=
      run_sampleEnrollment
    rw [hrun]
    rintro key ⟨req, rawBody, node, db, -, hauth, -⟩
    obtain ⟨fields, -, hchecked, -⟩ := authenticateMachine_ok hauth
    have hkey : key ∈ [sampleNodeKey] := hchecked.key_mem.1
    rw [List.mem_singleton.mp hkey]
    rfl

end DshOrbit.Registry
