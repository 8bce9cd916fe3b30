import Mathlib.Data.List.Permutation
import DshOrbit.HubRouteKeys
import DshOrbit.Registry.NodeKeys

/-!
# Route key sets

The unrevoked route keys of a node run through five forms, in the order of their
insertion: none, a provisioned key, an active key, an active key with its
provisioned successor, and a rotating key with its active successor. A heartbeat
response carries them; the node accepts it unless the Hub has kept a rotating key
past the end of its overlap, which is so until the next maintenance.

## Main definitions

- `unrevoked` — the unrevoked route keys of a node
- `RouteKeysSound` — what the table of route keys satisfies in every run

## Main results

- `change_routeKeysSound` — what every change keeps
- `heartbeat_keySet_accepted_iff`
-/

namespace DshOrbit.Registry

open DshOrbit.Lib DshOrbit.Protocol

variable {env : Env} {clock : Clock} {Rotates : NodeKeyRow → Prop} {Purges : Prop}

/-! ### The keys of a node -/

def HubRouteKeyRow.id (key : HubRouteKeyRow) : String × String := (key.nodeId, key.keyId)

theorem HubRouteKeyRow.isKey_iff {nodeId keyId : String} {key : HubRouteKeyRow} :
    key.isKey nodeId keyId = true ↔ key.id = (nodeId, keyId) := by
  simp [HubRouteKeyRow.isKey, HubRouteKeyRow.id]

def HubRouteKeyRow.isUnrevoked (nodeId : String) (key : HubRouteKeyRow) : Bool :=
  key.nodeId = nodeId ∧ key.state ≠ .revoked

/-- The unrevoked route keys of a node, in the order of their insertion. -/
def unrevoked (rows : List HubRouteKeyRow) (nodeId : String) : List HubRouteKeyRow :=
  rows.filter (HubRouteKeyRow.isUnrevoked nodeId)

/-- The forms of the unrevoked keys of a node. -/
inductive KeyForm : List HubRouteKeyRow → Prop
  | empty : KeyForm []
  | provisioned (key : HubRouteKeyRow) (hstate : key.state = .provisioned)
      (hend : key.revokeAfter = none) : KeyForm [key]
  | active (key : HubRouteKeyRow) (hstate : key.state = .active) (hend : key.revokeAfter = none) :
      KeyForm [key]
  | succeeding (key new : HubRouteKeyRow) (hstate : key.state = .active)
      (hend : key.revokeAfter = none) (hnew : new.state = .provisioned)
      (hnewEnd : new.revokeAfter = none) : KeyForm [key, new]
  | rotating (old key : HubRouteKeyRow) (hold : old.state = .rotating)
      (holdEnd : old.revokeAfter.isSome = true) (hstate : key.state = .active)
      (hend : key.revokeAfter = none) : KeyForm [old, key]

structure RouteKeysSound (env : Env) (l : Ledger) : Prop where
  members_nodup : (l.members.map (·.1)).Nodup
  keys_nodup : (l.hubRouteKeys.map HubRouteKeyRow.id).Nodup
  derived : ∀ key ∈ l.hubRouteKeys, deriveKeyId env.crypto key.publicKey = .ok key.keyId
  owned : ∀ key ∈ l.hubRouteKeys, key.state ≠ .revoked → (key.nodeId, .active) ∈ l.members
  form : ∀ nodeId, KeyForm (unrevoked l.hubRouteKeys nodeId)

theorem mem_unrevoked {rows : List HubRouteKeyRow} {nodeId : String} {key : HubRouteKeyRow} :
    key ∈ unrevoked rows nodeId ↔ key ∈ rows ∧ key.nodeId = nodeId ∧ key.state ≠ .revoked := by
  simp [unrevoked, HubRouteKeyRow.isUnrevoked]

theorem routeKeysSound_empty (env : Env) : RouteKeysSound env ({} : Db).ledger where
  members_nodup := List.nodup_nil
  keys_nodup := List.nodup_nil
  derived _ h := (List.not_mem_nil h).elim
  owned _ h := (List.not_mem_nil h).elim
  form _ := .empty

/-! ### Changes of the rows -/

/-- A change of rows that keeps their nodes and which of them are revoked. -/
theorem unrevoked_map {rows : List HubRouteKeyRow} {f : HubRouteKeyRow → HubRouteKeyRow}
    {nodeId : String}
    (hf : ∀ key ∈ rows, (f key).isUnrevoked nodeId = key.isUnrevoked nodeId) :
    unrevoked (rows.map f) nodeId = (unrevoked rows nodeId).map f := by
  rw [unrevoked, List.filter_map]
  exact congrArg (List.map f) (List.filter_congr fun key hkey => hf key hkey)

/-- A change of rows that revokes some and keeps the others as they are. -/
theorem unrevoked_map_revoke {rows : List HubRouteKeyRow} {f : HubRouteKeyRow → HubRouteKeyRow}
    {nodeId : String}
    (hf : ∀ key ∈ rows, f key = key ∨ (f key).state = .revoked) :
    unrevoked (rows.map f) nodeId =
      (unrevoked rows nodeId).filter fun key => (f key).isUnrevoked nodeId := by
  induction rows with
  | nil => rfl
  | cons key rest ih =>
    have ih := ih fun other hother => hf other (List.mem_cons_of_mem key hother)
    rw [List.map_cons]
    rcases hf key List.mem_cons_self with heq | hrevoked
    · by_cases hkey : key.isUnrevoked nodeId = true
      · simp only [unrevoked] at ih ⊢
        simp [heq, hkey, ih]
      · simp only [unrevoked] at ih ⊢
        simp [heq, hkey, ih]
    · have hout : (f key).isUnrevoked nodeId = false := by
        simp [HubRouteKeyRow.isUnrevoked, hrevoked]
      simp only [unrevoked] at ih ⊢
      by_cases hkey : key.isUnrevoked nodeId = true <;> simp [hout, hkey, ih]

theorem unrevoked_append_other {rows : List HubRouteKeyRow} {key : HubRouteKeyRow} {nodeId : String}
    (h : key.nodeId ≠ nodeId) : unrevoked (rows ++ [key]) nodeId = unrevoked rows nodeId := by
  simp [unrevoked, HubRouteKeyRow.isUnrevoked, h]

theorem unrevoked_append {rows : List HubRouteKeyRow} {key : HubRouteKeyRow}
    (h : key.state ≠ .revoked) :
    unrevoked (rows ++ [key]) key.nodeId = unrevoked rows key.nodeId ++ [key] := by
  simp [unrevoked, HubRouteKeyRow.isUnrevoked, h]

/-- An update of a key changes its row alone. -/
theorem updateWhere_isKey {rows : List HubRouteKeyRow} {key : HubRouteKeyRow}
    (hnodup : (rows.map HubRouteKeyRow.id).Nodup) (hkey : key ∈ rows)
    (g : HubRouteKeyRow → HubRouteKeyRow) :
    updateWhere (HubRouteKeyRow.isKey key.nodeId key.keyId) g rows =
      rows.map fun row => if row = key then g row else row := by
  refine List.map_congr_left fun row hrow => ?_
  have hiff : row.isKey key.nodeId key.keyId = true ↔ row = key := by
    rw [HubRouteKeyRow.isKey_iff]
    exact ⟨fun heq => eq_of_nodup_key hnodup hrow hkey heq, fun heq => heq ▸ rfl⟩
  simp only [hiff]

/-- Changes of rows that keep the keys themselves and revive none. -/
def KeepsKeys (f : HubRouteKeyRow → HubRouteKeyRow) (rows : List HubRouteKeyRow) : Prop :=
  ∀ key ∈ rows, (f key).id = key.id ∧ (f key).publicKey = key.publicKey ∧
    ((f key).state ≠ .revoked → key.state ≠ .revoked)

theorem RouteKeysSound.map {l : Ledger} (h : RouteKeysSound env l)
    {f : HubRouteKeyRow → HubRouteKeyRow} (hf : KeepsKeys f l.hubRouteKeys)
    (hform : ∀ nodeId, KeyForm (unrevoked (l.hubRouteKeys.map f) nodeId)) :
    RouteKeysSound env { l with hubRouteKeys := l.hubRouteKeys.map f } where
  members_nodup := h.members_nodup
  keys_nodup := by
    have : (l.hubRouteKeys.map f).map HubRouteKeyRow.id = l.hubRouteKeys.map HubRouteKeyRow.id := by
      rw [List.map_map]
      exact List.map_congr_left fun key hkey => (hf key hkey).1
    exact this ▸ h.keys_nodup
  derived key hkey := by
    obtain ⟨old, hold, rfl⟩ := List.mem_map.mp hkey
    obtain ⟨hid, hpublicKey, -⟩ := hf old hold
    have hkeyId : (f old).keyId = old.keyId := congrArg Prod.snd hid
    rw [hpublicKey, hkeyId]
    exact h.derived old hold
  owned key hkey hunrevoked := by
    obtain ⟨old, hold, rfl⟩ := List.mem_map.mp hkey
    obtain ⟨hid, -, hrevive⟩ := hf old hold
    have hnode : (f old).nodeId = old.nodeId := congrArg Prod.fst hid
    rw [hnode]
    exact h.owned old hold (hrevive hunrevoked)
  form := hform

/-! ### The forms after a change -/

/-- A new key follows no key or an active one. -/
theorem keyForm_provision {l : Ledger} (h : RouteKeysSound env l) {row : HubRouteKeyRow}
    (hrow : Provisionable env l.hubRouteKeys row) (nodeId : String) :
    KeyForm (unrevoked (l.hubRouteKeys ++ [row]) nodeId) := by
  by_cases hnode : row.nodeId = nodeId
  · subst hnode
    have hunrevoked : row.state ≠ .revoked := by simp [hrow.state]
    rw [unrevoked_append hunrevoked]
    have hsettled : ∀ other ∈ unrevoked l.hubRouteKeys row.nodeId, other.state = .active := by
      intro other hother
      obtain ⟨hmem, hsame, hother⟩ := mem_unrevoked.mp hother
      exact (hrow.settled other hmem hsame).resolve_right hother
    have hform := h.form row.nodeId
    generalize unrevoked l.hubRouteKeys row.nodeId = keys at hsettled hform
    cases hform with
    | empty => exact .provisioned row hrow.state hrow.revokeAfter
    | active key hstate hend => exact .succeeding key row hstate hend hrow.state hrow.revokeAfter
    | provisioned key hstate => simp [hstate] at hsettled
    | succeeding key new hstate hend hnew => simp [hnew] at hsettled
    | rotating old key hold => simp [hold] at hsettled
  · rw [unrevoked_append_other hnode]
    exact h.form nodeId

/-- An update of keys of one node leaves those of the others. -/
theorem unrevoked_map_other {rows : List HubRouteKeyRow} {f : HubRouteKeyRow → HubRouteKeyRow}
    {nodeId : String} (hf : ∀ key ∈ rows, key.nodeId = nodeId → f key = key)
    (hnode : ∀ key ∈ rows, (f key).nodeId = key.nodeId) :
    unrevoked (rows.map f) nodeId = unrevoked rows nodeId := by
  have hsame : ∀ key ∈ rows, (f key).isUnrevoked nodeId = key.isUnrevoked nodeId := by
    intro key hkey
    by_cases heq : key.nodeId = nodeId
    · rw [hf key hkey heq]
    · simp [HubRouteKeyRow.isUnrevoked, hnode key hkey, heq]
  rw [unrevoked_map hsame]
  refine (List.map_congr_left fun key hkey => ?_).trans (List.map_id _)
  obtain ⟨hmem, heq, -⟩ := mem_unrevoked.mp hkey
  exact hf key hmem heq

/-- The only key of a node that is not revoked becomes active. -/
theorem keyForm_activate {l : Ledger} (h : RouteKeysSound env l) {key : HubRouteKeyRow}
    (activatedAt : ℤ) (hkey : key ∈ l.hubRouteKeys) (hstate : key.state = .provisioned)
    (hsole : ∀ other ∈ l.hubRouteKeys, other.nodeId = key.nodeId → other.state ≠ .revoked →
      other = key) (nodeId : String) :
    KeyForm (unrevoked (l.hubRouteKeys.map fun row =>
      if row = key then row.activated activatedAt else row) nodeId) := by
  by_cases hnode : key.nodeId = nodeId
  · subst hnode
    rw [unrevoked_map fun row _ => ?_]
    · have hmem : key ∈ unrevoked l.hubRouteKeys key.nodeId :=
        mem_unrevoked.mpr ⟨hkey, rfl, by simp [hstate]⟩
      have hsole : ∀ other ∈ unrevoked l.hubRouteKeys key.nodeId, other = key := fun other hother =>
        have ⟨hother, hsame, hunrevoked⟩ := mem_unrevoked.mp hother
        hsole other hother hsame hunrevoked
      have hform := h.form key.nodeId
      generalize unrevoked l.hubRouteKeys key.nodeId = keys at hmem hsole hform
      cases hform with
      | empty => cases hmem
      | provisioned row hrow hend =>
        obtain rfl : row = key := hsole row List.mem_cons_self
        simp only [List.map_cons, List.map_nil, if_true]
        exact .active _ rfl hend
      | active row hrow =>
        obtain rfl : row = key := hsole row List.mem_cons_self
        simp [hstate] at hrow
      | succeeding row new hrow =>
        obtain rfl : row = key := hsole row List.mem_cons_self
        simp [hstate] at hrow
      | rotating row new hrow =>
        obtain rfl : row = key := hsole row List.mem_cons_self
        simp [hstate] at hrow
    · split_ifs with heq
      · simp [HubRouteKeyRow.isUnrevoked, HubRouteKeyRow.activated, heq, hstate]
      · rfl
  · rw [unrevoked_map_other (fun row _ hrow => if_neg ?_) fun row _ => ?_]
    · exact h.form nodeId
    · rintro rfl
      exact hnode hrow
    · split_ifs <;> rfl

/-- The successor of the active key takes its place. -/
theorem keyForm_succeed {l : Ledger} (h : RouteKeysSound env l) {old new : HubRouteKeyRow}
    (activatedAt revokeAfter : ℤ) (hold : old ∈ l.hubRouteKeys) (hnew : new ∈ l.hubRouteKeys)
    (hnode : new.nodeId = old.nodeId) (hactive : old.state = .active)
    (hprovisioned : new.state = .provisioned) (nodeId : String) :
    KeyForm (unrevoked (l.hubRouteKeys.map fun row =>
      if row = new then row.activated activatedAt
      else if row = old then row.retired revokeAfter else row) nodeId) := by
  by_cases hother : old.nodeId = nodeId
  · subst hother
    rw [unrevoked_map fun row _ => ?_]
    · have hmemOld : old ∈ unrevoked l.hubRouteKeys old.nodeId :=
        mem_unrevoked.mpr ⟨hold, rfl, by simp [hactive]⟩
      have hmemNew : new ∈ unrevoked l.hubRouteKeys old.nodeId :=
        mem_unrevoked.mpr ⟨hnew, hnode, by simp [hprovisioned]⟩
      have hform := h.form old.nodeId
      generalize unrevoked l.hubRouteKeys old.nodeId = keys at hmemOld hmemNew hform
      cases hform with
      | empty => cases hmemOld
      | provisioned row hrow =>
        obtain rfl := List.mem_singleton.mp hmemOld
        simp [hactive] at hrow
      | active row hrow =>
        obtain rfl := List.mem_singleton.mp hmemNew
        simp [hprovisioned] at hrow
      | succeeding row successor hrow hend hsuccessor hsuccessorEnd =>
        obtain rfl : old = row := by
          rcases List.mem_cons.mp hmemOld with heq | hmem
          · exact heq
          · obtain rfl := List.mem_singleton.mp hmem
            simp [hactive] at hsuccessor
        obtain rfl : new = successor := by
          rcases List.mem_cons.mp hmemNew with rfl | hmem
          · simp [hprovisioned] at hrow
          · exact List.mem_singleton.mp hmem
        have hne : old ≠ new := by
          rintro rfl
          simp [hactive] at hprovisioned
        simp only [List.map_cons, List.map_nil, if_true, hne, if_false]
        exact .rotating _ _ rfl rfl rfl hsuccessorEnd
      | rotating row successor hrow hrowEnd hsuccessor =>
        rcases List.mem_cons.mp hmemNew with rfl | hmem
        · simp [hprovisioned] at hrow
        · obtain rfl := List.mem_singleton.mp hmem
          simp [hprovisioned] at hsuccessor
    · split_ifs with hisNew hisOld
      · simp [HubRouteKeyRow.isUnrevoked, HubRouteKeyRow.activated, hisNew, hprovisioned]
      · simp [HubRouteKeyRow.isUnrevoked, HubRouteKeyRow.retired, hisOld, hactive]
      · rfl
  · rw [unrevoked_map_other (fun row _ hrow => ?_) fun row _ => ?_]
    · exact h.form nodeId
    · rw [if_neg, if_neg]
      · rintro rfl
        exact hother hrow
      · rintro rfl
        exact hother (hnode.symm.trans hrow)
    · split_ifs <;> rfl

/-- Revoking rotating keys leaves the key that replaced each. -/
theorem keyForm_expire {l : Ledger} (h : RouteKeysSound env l) {f : HubRouteKeyRow → HubRouteKeyRow}
    (hf : ∀ key ∈ l.hubRouteKeys, f key = key ∨
      key.state = .rotating ∧ (f key).state = .revoked) (nodeId : String) :
    KeyForm (unrevoked (l.hubRouteKeys.map f) nodeId) := by
  rw [unrevoked_map_revoke fun key hkey => (hf key hkey).imp_right (·.2)]
  have hkept : ∀ key ∈ unrevoked l.hubRouteKeys nodeId, key.state ≠ .rotating →
      (f key).isUnrevoked nodeId = true := by
    intro key hkey hstate
    obtain ⟨hmem, hnode, hunrevoked⟩ := mem_unrevoked.mp hkey
    rcases hf key hmem with heq | ⟨hrotating, -⟩
    · simp [heq, HubRouteKeyRow.isUnrevoked, hnode, hunrevoked]
    · exact absurd hrotating hstate
  have hform := h.form nodeId
  generalize unrevoked l.hubRouteKeys nodeId = keys at hkept hform
  cases hform with
  | empty => exact .empty
  | provisioned key hstate hend =>
    rw [List.filter_singleton, hkept key List.mem_cons_self (by simp [hstate])]
    exact .provisioned key hstate hend
  | active key hstate hend =>
    rw [List.filter_singleton, hkept key List.mem_cons_self (by simp [hstate])]
    exact .active key hstate hend
  | succeeding key new hstate hend hnew hnewEnd =>
    rw [List.filter_cons, hkept key List.mem_cons_self (by simp [hstate]), List.filter_singleton,
      hkept new (by simp) (by simp [hnew])]
    exact .succeeding key new hstate hend hnew hnewEnd
  | rotating old key hold holdEnd hstate hend =>
    rw [List.filter_cons, List.filter_singleton, hkept key (by simp) (by simp [hstate])]
    split_ifs
    · exact .rotating old key hold holdEnd hstate hend
    · exact .active key hstate hend

/-- A deleted node has no key that is not revoked. -/
theorem keyForm_tombstone {l : Ledger} (h : RouteKeysSound env l) (deleted : String) (now : ℤ)
    (nodeId : String) :
    KeyForm (unrevoked (updateWhere (fun row => row.nodeId = deleted ∧ row.state ≠ .revoked)
      (HubRouteKeyRow.deleted now) l.hubRouteKeys) nodeId) := by
  by_cases hnode : nodeId = deleted
  · have hnone : unrevoked (updateWhere (fun row => row.nodeId = deleted ∧ row.state ≠ .revoked)
        (HubRouteKeyRow.deleted now) l.hubRouteKeys) nodeId = [] := by
      refine List.eq_nil_iff_forall_not_mem.mpr fun key hkey => ?_
      obtain ⟨hmem, hsame, hunrevoked⟩ := mem_unrevoked.mp hkey
      rcases mem_updateWhere.mp hmem with ⟨-, hkept⟩ | ⟨old, -, -, rfl⟩
      · exact of_decide_eq_false hkept ⟨hsame.trans hnode, hunrevoked⟩
      · exact hunrevoked rfl
    rw [hnone]
    exact .empty
  · rw [updateWhere, unrevoked_map_other (fun row _ hrow => if_neg ?_) fun row _ => ?_]
    · exact h.form nodeId
    · simp [hrow, hnode]
    · split_ifs <;> rfl

/-! ### Every change -/

/-- New members, and nodes that become active, own the keys that were there. -/
theorem RouteKeysSound.of_members {l l' : Ledger} (h : RouteKeysSound env l)
    (hkeys : l'.hubRouteKeys = l.hubRouteKeys) (hnodup : (l'.members.map (·.1)).Nodup)
    (hactive : ∀ nodeId, (nodeId, .active) ∈ l.members → (nodeId, .active) ∈ l'.members) :
    RouteKeysSound env l' where
  members_nodup := hnodup
  keys_nodup := hkeys ▸ h.keys_nodup
  derived := hkeys ▸ h.derived
  owned key hkey hunrevoked := hactive _ (h.owned key (hkeys ▸ hkey) hunrevoked)
  form := hkeys ▸ h.form

theorem change_routeKeysSound (l l' : Ledger) (h : Ledger.Change env clock Rotates Purges l l')
    (hl : RouteKeysSound env l) : RouteKeysSound env l' := by
  cases h with
  | enter use hnew =>
    refine hl.of_members rfl ?_ fun nodeId hmem => List.mem_append_left _ hmem
    rw [TokenUse.admitted, List.map_append, List.nodup_append]
    refine ⟨hl.members_nodup, by simp, ?_⟩
    intro a ha b hb
    obtain ⟨member, hmember, rfl⟩ := List.mem_map.mp ha
    obtain rfl : b = use.key.nodeId := by simpa using hb
    exact hnew member hmember
  | restore use hmember historicalKeyId =>
    refine hl.of_members rfl ?_ fun nodeId hmem => ?_
    · exact (map_fst_moved use.key.nodeId .active).symm ▸ hl.members_nodup
    · by_cases hnode : nodeId = use.key.nodeId
      · exact mem_updateWhere.mpr (.inr ⟨_, hmem, by simp [hnode], rfl⟩)
      · exact (mem_moved hnode).mpr hmem
  | provision row hmember hrow =>
    refine ⟨hl.members_nodup, ?_, ?_, ?_, keyForm_provision hl hrow⟩
    · rw [List.map_append, List.nodup_append]
      refine ⟨hl.keys_nodup, by simp, ?_⟩
      intro a ha b hb
      obtain ⟨other, hother, rfl⟩ := List.mem_map.mp ha
      obtain rfl : b = row.id := by simpa using hb
      exact hrow.new other hother
    · exact List.forall_mem_append.mpr ⟨hl.derived, by simpa using hrow.keyId⟩
    · exact List.forall_mem_append.mpr ⟨hl.owned, by simpa using fun _ => hmember⟩
  | activate key activatedAt hkey hstate hsole =>
    rw [updateWhere_isKey hl.keys_nodup hkey]
    refine hl.map (fun row _ => ?_) (keyForm_activate hl activatedAt hkey hstate hsole)
    split_ifs with heq
    · exact ⟨rfl, rfl, fun _ => by simp [heq, hstate]⟩
    · exact ⟨rfl, rfl, id⟩
  | succeed old new activatedAt overlapFrom hold hnew hnode hactive hprovisioned =>
    have hupdate : updateWhere (HubRouteKeyRow.isKey old.nodeId old.keyId)
        (HubRouteKeyRow.retired (overlapFrom + env.config.hubRouteOverlapMs))
        (updateWhere (HubRouteKeyRow.isKey old.nodeId new.keyId)
          (HubRouteKeyRow.activated activatedAt) l.hubRouteKeys) =
        l.hubRouteKeys.map fun row =>
          if row = new then row.activated activatedAt
          else if row = old then row.retired (overlapFrom + env.config.hubRouteOverlapMs)
          else row := by
      rw [← hnode, updateWhere_isKey hl.keys_nodup hnew, updateWhere, List.map_map, hnode]
      refine List.map_congr_left fun row hrow => ?_
      have hrowOld : row.isKey old.nodeId old.keyId = true ↔ row = old := by
        rw [HubRouteKeyRow.isKey_iff]
        exact ⟨fun heq => eq_of_nodup_key hl.keys_nodup hrow hold heq, fun heq => heq ▸ rfl⟩
      by_cases hisNew : row = new
      · have hne : row ≠ old := by
          rintro rfl
          simp [← hisNew, hactive] at hprovisioned
        have hkept : (row.activated activatedAt).isKey old.nodeId old.keyId =
            row.isKey old.nodeId old.keyId := rfl
        simp only [Function.comp, if_pos hisNew, hkept, hrowOld, if_neg hne]
      · simp [Function.comp, hisNew, hrowOld]
    rw [hupdate]
    refine hl.map (fun row _ => ?_)
      (keyForm_succeed hl activatedAt _ hold hnew hnode hactive hprovisioned)
    split_ifs with hisNew hisOld
    · exact ⟨rfl, rfl, fun _ => by simp [hisNew, hprovisioned]⟩
    · exact ⟨rfl, rfl, fun _ => by simp [hisOld, hactive]⟩
    · exact ⟨rfl, rfl, id⟩
  | tombstone nodeId now =>
    have hkeeps : KeepsKeys (fun row => if decide (row.nodeId = nodeId ∧ row.state ≠ .revoked) = true
        then row.deleted now else row) l.hubRouteKeys := by
      intro row _
      dsimp only
      split_ifs with hrow
      · exact ⟨rfl, rfl, fun h => (h rfl).elim⟩
      · exact ⟨rfl, rfl, id⟩
    have hmap := hl.map hkeeps (keyForm_tombstone hl nodeId now)
    refine ⟨(map_fst_moved nodeId .tombstoned).symm ▸ hl.members_nodup, hmap.keys_nodup,
      hmap.derived, fun key hkey hunrevoked => ?_, hmap.form⟩
    have hother : key.nodeId ≠ nodeId := by
      rintro hsame
      rcases mem_updateWhere.mp hkey with ⟨-, hkept⟩ | ⟨old, -, -, rfl⟩
      · exact of_decide_eq_false hkept ⟨hsame, hunrevoked⟩
      · exact hunrevoked rfl
    exact (mem_moved hother).mpr (hmap.owned key hkey hunrevoked)
  | expireRouteKeys f now hf =>
    have hcases : ∀ key ∈ l.hubRouteKeys, f key = key ∨
        key.state = .rotating ∧ ∃ revokedAt, f key = key.expired revokedAt := by
      intro key hkey
      refine (hf key).imp_right fun hended => ?_
      obtain ⟨ended, hended, hsame, hstate, _, hexpired⟩ := hended
      obtain rfl : key = ended := eq_of_nodup_key hl.keys_nodup hkey hended
        (HubRouteKeyRow.isKey_iff.mp hsame).symm
      exact ⟨hstate, hexpired⟩
    refine hl.map (fun key hkey => ?_) (keyForm_expire hl fun key hkey => ?_)
    · rcases hcases key hkey with heq | ⟨hstate, revokedAt, heq⟩ <;> rw [heq]
      · exact ⟨rfl, rfl, id⟩
      · exact ⟨rfl, rfl, fun _ => by simp [hstate]⟩
    · rcases hcases key hkey with heq | ⟨hstate, revokedAt, heq⟩
      · exact .inl heq
      · exact .inr ⟨hstate, by rw [heq]; rfl⟩
  | _ => exact hl.of_members rfl hl.members_nodup fun _ hmem => hmem

/-! ### The trust set of a node -/

/-- The entry of a key in the trust set of its node. -/
def HubRouteKeyRow.entry (row : HubRouteKeyRow) : HubRouteKey where
  keyId := row.keyId
  publicKey := row.publicKey
  state := row.state.toKeyState
  overlapUntil := row.revokeAfter.map toIsoString

theorem getHubRouteKeysForNode_eq (db : Db) (nodeId : String) :
    db.getHubRouteKeysForNode nodeId = (db.unrevokedRouteKeys nodeId).map HubRouteKeyRow.entry :=
  rfl

theorem perm_unrevokedRouteKeys (db : Db) (nodeId : String) :
    (db.unrevokedRouteKeys nodeId).Perm (unrevoked db.hubRouteKeys nodeId) :=
  perm_orderBy _ _

/-- No rotating key of the list has reached its end. -/
def OverlapsOpen (now : ℤ) (rows : List HubRouteKeyRow) : Prop :=
  ∀ row ∈ rows, row.state = .rotating → ∀ revokeAfter, row.revokeAfter = some revokeAfter →
    now < revokeAfter

/-- In every form a rotating key has an end and the others have none. -/
theorem KeyForm.end_of_mem {keys : List HubRouteKeyRow} (h : KeyForm keys) {key : HubRouteKeyRow}
    (hkey : key ∈ keys) :
    (key.state = .provisioned ∨ key.state = .active) ∧ key.revokeAfter = none ∨
      key.state = .rotating ∧ ∃ revokeAfter, key.revokeAfter = some revokeAfter := by
  cases h with
  | empty => cases hkey
  | provisioned key hstate hend =>
    obtain rfl := List.mem_singleton.mp hkey
    exact .inl ⟨.inl hstate, hend⟩
  | active key hstate hend =>
    obtain rfl := List.mem_singleton.mp hkey
    exact .inl ⟨.inr hstate, hend⟩
  | succeeding key new hstate hend hnew hnewEnd =>
    rcases List.mem_pair.mp hkey with rfl | rfl
    · exact .inl ⟨.inr hstate, hend⟩
    · exact .inl ⟨.inl hnew, hnewEnd⟩
  | rotating old key hold holdEnd hstate hend =>
    rcases List.mem_pair.mp hkey with rfl | rfl
    · exact .inr ⟨hold, Option.isSome_iff_exists.mp holdEnd⟩
    · exact .inl ⟨.inr hstate, hend⟩

theorem KeyForm.legal {keys rows : List HubRouteKeyRow} (h : KeyForm keys) (hne : keys ≠ [])
    (hperm : rows.Perm keys) :
    (rows.map HubRouteKeyRow.entry).map HubRouteKey.state ∈ legalForms := by
  cases h with
  | empty => exact absurd rfl hne
  | provisioned key hstate =>
    obtain rfl := List.perm_singleton.mp hperm
    simp [HubRouteKeyRow.entry, legalForms, hstate, RouteKeyState.toKeyState]
  | active key hstate =>
    obtain rfl := List.perm_singleton.mp hperm
    simp [HubRouteKeyRow.entry, legalForms, hstate, RouteKeyState.toKeyState]
  | succeeding key new hstate hend hnew =>
    rcases List.perm_pair.mp hperm with rfl | rfl <;>
      simp [HubRouteKeyRow.entry, legalForms, hstate, hnew, RouteKeyState.toKeyState]
  | rotating old key hold holdEnd hstate =>
    rcases List.perm_pair.mp hperm with rfl | rfl <;>
      simp [HubRouteKeyRow.entry, legalForms, hold, hstate, RouteKeyState.toKeyState]

/-- Keys of one of the forms make up a legal set exactly while their overlaps are open. -/
theorem legalKeySet_entry {rows keys : List HubRouteKeyRow} (hperm : rows.Perm keys)
    (hform : KeyForm keys) (hne : keys ≠ []) (now : ℤ) :
    LegalKeySet now (rows.map HubRouteKeyRow.entry) ↔ OverlapsOpen now rows := by
  have hfits : ∀ row ∈ rows, (row.entry.FitsAt now ↔ (row.state = .rotating →
      ∀ revokeAfter, row.revokeAfter = some revokeAfter → now < revokeAfter)) := by
    intro row hrow
    rcases hform.end_of_mem (hperm.mem_iff.mp hrow) with
      ⟨hstate | hstate, hend⟩ | ⟨hstate, revokeAfter, hend⟩
    · simp [HubRouteKeyRow.entry, HubRouteKey.FitsAt, hstate, hend, RouteKeyState.toKeyState]
    · simp [HubRouteKeyRow.entry, HubRouteKey.FitsAt, hstate, hend, RouteKeyState.toKeyState]
    · simp [HubRouteKeyRow.entry, HubRouteKey.FitsAt, hstate, hend, RouteKeyState.toKeyState,
        dateParse_toIsoString]
  constructor
  · exact fun h row hrow => (hfits row hrow).mp (h.fits _ (List.mem_map_of_mem hrow))
  · refine fun h => ⟨fun key hkey => ?_, hform.legal hne hperm⟩
    obtain ⟨row, hrow, rfl⟩ := List.mem_map.mp hkey
    exact (hfits row hrow).mpr (h row hrow)

/-- A node accepts its set exactly while the overlaps in it are open. -/
theorem validate_getHubRouteKeysForNode {db : Db} (h : RouteKeysSound env db.ledger)
    (nodeId : String) (now : ℤ) :
    (∃ checked, validateHubRouteKeySet env.crypto
        (some (.arr ((db.getHubRouteKeysForNode nodeId).map HubRouteKey.toJson))) now =
          .ok checked) ↔ LegalKeySet now (db.getHubRouteKeysForNode nodeId) := by
  have hmem : ∀ row ∈ db.unrevokedRouteKeys nodeId, row ∈ db.hubRouteKeys ∧ row.nodeId = nodeId :=
    fun row hrow => have ⟨hmem, hnode, _⟩ := Db.mem_unrevokedRouteKeys.mp hrow; ⟨hmem, hnode⟩
  rw [getHubRouteKeysForNode_eq]
  refine validateHubRouteKeySet_toJson (fun key hkey => ?_) ?_
  · obtain ⟨row, hrow, rfl⟩ := List.mem_map.mp hkey
    refine ⟨h.derived row (hmem row hrow).1, ?_⟩
    rcases (h.form nodeId).end_of_mem ((perm_unrevokedRouteKeys db nodeId).mem_iff.mp hrow) with
      ⟨hstate | hstate, -⟩ | ⟨hstate, -⟩ <;>
      simp [HubRouteKeyRow.entry, hstate, RouteKeyState.toKeyState, HubRouteKeyState.text,
        HubRouteKeyState.ofText]
  · rw [List.map_map]
    refine List.Nodup.map_on (fun a ha b hb heq => ?_) ?_
    · obtain ⟨ha, hnodeA⟩ := hmem a ha
      obtain ⟨hb, hnodeB⟩ := hmem b hb
      exact eq_of_nodup_key h.keys_nodup ha hb (Prod.ext (hnodeA.trans hnodeB.symm) heq)
    · rw [(perm_unrevokedRouteKeys db nodeId).nodup_iff]
      exact h.keys_nodup.of_map.filter _

theorem run_routeKeysSound (env : Env) (calls : List Call) :
    RouteKeysSound env (run env {} calls).db.ledger :=
  run_invariant (fun _ => change_routeKeysSound) calls (routeKeysSound_empty env)

/-! ### Heartbeats -/

/-- A key rotates after an acknowledgement where it did before, or for a full overlap. -/
theorem rotating_of_acknowledge {db : Db} {activatedAt overlapFrom auditedAt : ℤ} {nodeId : String}
    {ids : List Json} {row : HubRouteKeyRow}
    (hrow : row ∈ (db.acknowledgeHubRouteKeys env activatedAt overlapFrom auditedAt nodeId
      ids).hubRouteKeys) (hrotating : row.state = .rotating) :
    row ∈ db.hubRouteKeys ∨
      row.revokeAfter = some (overlapFrom + env.config.hubRouteOverlapMs) := by
  unfold Db.acknowledgeHubRouteKeys at hrow
  split at hrow
  case h_1 => exact .inl hrow
  case h_2 key _ =>
    split_ifs at hrow
    · rcases mem_updateWhere.mp hrow with ⟨hmem, -⟩ | ⟨old, -, -, rfl⟩
      · exact .inl hmem
      · cases hrotating
    · exact .inl hrow
  case h_3 =>
    split at hrow
    case h_1 activeKey provisionedKey _ _ =>
      split_ifs at hrow
      · rcases mem_updateWhere.mp hrow with ⟨hmem, -⟩ | ⟨old, -, -, rfl⟩
        · rcases mem_updateWhere.mp hmem with ⟨hmem, -⟩ | ⟨old, -, -, rfl⟩
          · exact .inl hmem
          · cases hrotating
        · exact .inr rfl
      · exact .inl hrow
    case h_2 => exact .inl hrow

/-- An acknowledgement leaves a rotating key as it is. -/
theorem acknowledge_of_rotating {db : Db} (hnodup : (db.hubRouteKeys.map HubRouteKeyRow.id).Nodup)
    {activatedAt overlapFrom auditedAt : ℤ} {nodeId : String} {ids : List Json}
    {row : HubRouteKeyRow} (hrow : row ∈ db.hubRouteKeys) (hrotating : row.state = .rotating) :
    row ∈ (db.acknowledgeHubRouteKeys env activatedAt overlapFrom auditedAt nodeId
      ids).hubRouteKeys := by
  -- an update that names another row leaves this one
  have hkept : ∀ {rows : List HubRouteKeyRow} {f : HubRouteKeyRow → HubRouteKeyRow}
      {key : HubRouteKeyRow}, row ∈ rows → key ∈ db.hubRouteKeys → key.nodeId = nodeId →
      key.state ≠ .rotating → row ∈ updateWhere
        (fun other => other.nodeId = nodeId ∧ other.keyId = key.keyId) f rows := by
    rintro rows f key hmem hkey rfl hstate
    refine mem_updateWhere.mpr (.inl ⟨hmem, decide_eq_false ?_⟩)
    rintro ⟨hnode, hkeyId⟩
    obtain rfl : row = key := eq_of_nodup_key hnodup hrow hkey (Prod.ext hnode hkeyId)
    exact hstate hrotating
  unfold Db.acknowledgeHubRouteKeys
  split
  case h_1 => exact hrow
  case h_2 key hkeys =>
    obtain ⟨hkey, hnode, -⟩ := Db.mem_unrevokedRouteKeys.mp (hkeys ▸ List.mem_cons_self)
    split_ifs with hack
    · exact hkept hrow hkey hnode (by simp [hack.1])
    · exact hrow
  case h_3 =>
    split
    case h_1 activeKey provisionedKey hactive hprovisioned =>
      obtain ⟨hold, holdNode, -⟩ := Db.mem_unrevokedRouteKeys.mp (List.mem_of_find?_eq_some hactive)
      obtain ⟨hnew, hnewNode, -⟩ :=
        Db.mem_unrevokedRouteKeys.mp (List.mem_of_find?_eq_some hprovisioned)
      have hactive : activeKey.state = .active := by simpa using List.find?_some hactive
      have hprovisioned : provisionedKey.state = .provisioned := by
        simpa using List.find?_some hprovisioned
      split_ifs
      · exact hkept (hkept hrow hnew hnewNode (by simp [hprovisioned])) hold holdNode
          (by simp [hactive])
      · exact hrow
    case h_2 => exact hrow

/-- The keys of a heartbeat response, and which of them rotate. -/
structure RespondsWith (env : Env) (clock : Clock) (rows : List HubRouteKeyRow) (db' : Db)
    (nodeId : String) (keys : List HubRouteKey) : Prop where
  keys_eq : keys = db'.getHubRouteKeysForNode nodeId
  nonempty : db'.unrevokedRouteKeys nodeId ≠ []
  rotating_before : ∀ row ∈ db'.hubRouteKeys, row.state = .rotating → row ∈ rows ∨
    row.revokeAfter = some (clock 9 + env.config.hubRouteOverlapMs)
  rotating_after : ∀ row ∈ rows, row.state = .rotating → row ∈ db'.hubRouteKeys

theorem heartbeat_respondsWith {entropy : Entropy} {db db' : Db} {node : NodeRow}
    {rawBody : Option Json} {response : HeartbeatResponse}
    (hnodup : (db.hubRouteKeys.map HubRouteKeyRow.id).Nodup)
    (h : heartbeatAuthenticated env entropy clock db node rawBody = .ok (response, db')) :
    RespondsWith env clock db.hubRouteKeys db' node.nodeId response.hubRouteKeys := by
  obtain ⟨body, -, h⟩ := bind_eq_ok.mp h
  obtain ⟨runtime, -, h⟩ := bind_eq_ok.mp h
  obtain ⟨⟨row, ensured⟩, hensure, h⟩ := bind_eq_ok.mp h
  obtain ⟨rfl, rfl⟩ := Prod.mk.inj (Except.ok.inj h)
  have hrecorded : (recordHeartbeat env clock db node runtime).hubRouteKeys = db.hubRouteKeys :=
    congrArg Ledger.hubRouteKeys (ledger_recordHeartbeat env clock db node runtime)
  -- the acknowledgement moves keys between states, and the provision adds one
  have hbefore : ∀ row ∈ (recordAcknowledgement env clock (recordHeartbeat env clock db node runtime)
      node.nodeId (body.field "acceptedHubRouteKeyIds")).hubRouteKeys, row.state = .rotating →
      row ∈ db.hubRouteKeys ∨
        row.revokeAfter = some (clock 9 + env.config.hubRouteOverlapMs) := by
    intro row hrow hrotating
    unfold recordAcknowledgement at hrow
    split at hrow
    · exact .inl (hrecorded ▸ hrow)
    · exact hrecorded ▸ rotating_of_acknowledge hrow hrotating
  have hafter : ∀ row ∈ db.hubRouteKeys, row.state = .rotating →
      row ∈ (recordAcknowledgement env clock (recordHeartbeat env clock db node runtime)
        node.nodeId (body.field "acceptedHubRouteKeyIds")).hubRouteKeys := by
    intro row hrow hrotating
    unfold recordAcknowledgement
    split
    · exact hrecorded ▸ hrow
    · exact acknowledge_of_rotating (hrecorded ▸ hnodup) (hrecorded ▸ hrow) hrotating
  rcases ensureHubRouteKey_ok hensure with ⟨⟨rest, hkeys⟩, rfl⟩ | ⟨-, hnode, hprovisioned, hledger⟩
  · exact ⟨rfl, by simp [hkeys], hbefore, hafter⟩
  · have hkeys := congrArg Ledger.hubRouteKeys hledger
    dsimp only [Db.ledger] at hkeys
    refine ⟨rfl, ?_, fun other hother hrotating => ?_, fun other hother hrotating => ?_⟩
    · refine List.ne_nil_of_mem (a := row) (Db.mem_unrevokedRouteKeys.mpr ⟨?_, hnode, ?_⟩)
      · simp [hkeys]
      · simp [hprovisioned.state]
    · rw [hkeys] at hother
      rcases List.mem_append.mp hother with hmem | hmem
      · exact hbefore other hmem hrotating
      · obtain rfl := List.mem_singleton.mp hmem
        simp [hprovisioned.state] at hrotating
    · rw [hkeys]
      exact List.mem_append_left _ (hafter other hother hrotating)

/-- The node accepts the trust set of a heartbeat response at an instant. -/
structure KeySetAccepted (env : Env) (now : ℤ) (keys : List HubRouteKey) : Prop where
  legal : LegalKeySet now keys
  accepted : ∃ checked, validateHubRouteKeySet env.crypto
    (some (.arr (keys.map HubRouteKey.toJson))) now = .ok checked

/-- After any run a deleted node has no route key that is not revoked, and an active
node accepts the keys of a heartbeat response, at an instant before the end of an
overlap that begins with it, exactly where no rotating key of the node had reached its
end before. -/
theorem heartbeat_keySet_accepted_iff (env : Env) (calls : List Call) :
    (∀ nodeId node, (run env {} calls).db.getNodeRow nodeId = some node →
      node.state = .tombstoned → (run env {} calls).db.unrevokedRouteKeys nodeId = []) ∧
    ∀ entropy clock req node key db rawBody response db' now,
      authenticateMachine env clock (run env {} calls).db req = .ok (node, key, db) →
      heartbeatAuthenticated env entropy clock db node rawBody = .ok (response, db') →
      now < clock 9 + env.config.hubRouteOverlapMs →
      (KeySetAccepted env now response.hubRouteKeys ↔
        OverlapsOpen now ((run env {} calls).db.unrevokedRouteKeys node.nodeId)) := by
  have hsound := run_routeKeysSound env calls
  generalize run env {} calls = s at hsound
  constructor
  · intro nodeId node hnode htombstoned
    refine List.eq_nil_iff_forall_not_mem.mpr fun key hkey => ?_
    obtain ⟨hmem, hkeyNode, hunrevoked⟩ := Db.mem_unrevokedRouteKeys.mp hkey
    have hmember := Db.member_of_getNodeRow hnode
    have howner := hsound.owned key hmem hunrevoked
    rw [hkeyNode] at howner
    have := List.inj_on_of_nodup_map hsound.members_nodup hmember howner rfl
    simp [htombstoned] at this
  · intro entropy clock req node key db rawBody response db' now hauth hbeat hnow
    obtain ⟨fields, -, hchecked, -, hdb⟩ := authenticateMachine_ok hauth
    have hmembers : db.ledger.members = s.db.ledger.members := by rw [hdb]; rfl
    have hkeys : db.hubRouteKeys = s.db.hubRouteKeys := by rw [hdb]
    have hreserved : RouteKeysSound env db.ledger :=
      hsound.of_members hkeys (hmembers ▸ hsound.members_nodup) fun _ hmem => hmembers ▸ hmem
    have hmember : (node.nodeId, .active) ∈ db.ledger.members := hmembers ▸ hchecked.member
    have hresponds := heartbeat_respondsWith hreserved.keys_nodup hbeat
    rw [hkeys] at hresponds
    have hchanges : Ledger.Changes env clock (fun _ => True) True db.ledger db'.ledger :=
      changes_heartbeat hmember hbeat
    have hsound' : RouteKeysSound env db'.ledger := hchanges.invariant change_routeKeysSound hreserved
    have hlegal := legalKeySet_entry (perm_unrevokedRouteKeys db' node.nodeId)
      (hsound'.form node.nodeId) (fun hnone => hresponds.nonempty
        (List.Perm.eq_nil (hnone ▸ perm_unrevokedRouteKeys db' node.nodeId))) now
    have hvalid := validate_getHubRouteKeysForNode hsound' node.nodeId now
    rw [hresponds.keys_eq]
    have hopen : OverlapsOpen now (db'.unrevokedRouteKeys node.nodeId) ↔
        OverlapsOpen now (s.db.unrevokedRouteKeys node.nodeId) := by
      constructor
      · intro hopen row hrow hrotating
        obtain ⟨hmem, hnode, hunrevoked⟩ := Db.mem_unrevokedRouteKeys.mp hrow
        exact hopen row (Db.mem_unrevokedRouteKeys.mpr
          ⟨hresponds.rotating_after row hmem hrotating, hnode, hunrevoked⟩) hrotating
      · intro hopen row hrow hrotating revokeAfter hend
        obtain ⟨hmem, hnode, hunrevoked⟩ := Db.mem_unrevokedRouteKeys.mp hrow
        rcases hresponds.rotating_before row hmem hrotating with hold | hnew
        · exact hopen row (Db.mem_unrevokedRouteKeys.mpr ⟨hold, hnode, hunrevoked⟩) hrotating
            revokeAfter hend
        · rw [hnew] at hend
          exact Option.some.inj hend ▸ hnow
    rw [← hopen]
    constructor
    · exact fun h => hlegal.mp h.legal
    · exact fun h => ⟨hlegal.mpr h, hvalid.mpr (hlegal.mpr h)⟩

/-! ### Heartbeats of the sample node -/

def heartbeatBody (accepted : List String) : Json :=
  .obj [("runtime", .obj [("orbitVersion", .str "0.5.0"), ("dshVersion", .str "0.1.1-rc.2")]),
    ("acceptedHubRouteKeyIds", .arr (accepted.map .str))]

def heartbeatRuntime : RuntimeIdentity := ⟨"0.5.0", none, "0.1.1-rc.2", none⟩

def heartbeatRequest (timestamp nonce : String) : MachineRequest :=
  sampleRequest "/api/v1/heartbeat"
    "b957ddebd4aac7d22cc7a90d979655a33e44f0b3905f7dddecd1069180febde8" timestamp nonce
    "f810bfdd457013b4ae94bc38b7eecf7346313bcafbf811f58d6bcbb775d145455b2edfe5b11a932c336569169d7266492eea1a5eaa0b520e905c9f7ec860e300"

/-- All readings of a call at one instant. -/
def clockAt (now : ℤ) : Clock := fun _ => now

def heartbeatCall (now : ℤ) (timestamp nonce : String) (accepted : List String) : Call :=
  { operation := .machine (heartbeatRequest timestamp nonce)
      (.heartbeat (some (heartbeatBody accepted)))
    clock := clockAt now
    entropy := sampleEntropy 0 }

def reservedDb (db : Db) (nonce : String) (now : ℤ) : Db :=
  { db with nonces := db.nonces ++ [⟨sampleNodeId, nonce, now⟩] }

/-- The database of a heartbeat before it makes sure that there is a key. -/
def acknowledgedDb (now : ℤ) (db : Db) (nonce : String) (node : NodeRow) (accepted : List String) :
    Db :=
  recordAcknowledgement sampleEnv (clockAt now)
    (recordHeartbeat sampleEnv (clockAt now) (reservedDb db nonce now) node heartbeatRuntime)
    node.nodeId (some (.arr (accepted.map .str)))

set_option maxRecDepth 2000 in
/-- A heartbeat that the sample key signs is authenticated. -/
theorem authenticate_heartbeat {db : Db} {now : ℤ} {node : NodeRow} {timestampText nonce : String}
    {timestamp : ℤ} (htimestamp : parseTimestamp (some timestampText) = some timestamp)
    (hnonce : matchesHex 32 nonce = true) (hskew : InMachineSkew now timestamp)
    (hnode : db.getNodeRow sampleNodeId = some node) (hactive : node.state = .active)
    (hkey : db.getKeyRow sampleNodeId sampleKeyId = some sampleNodeKey)
    (hnew : ∀ other ∈ db.nonces, (other.nodeId, other.nonce) ≠ (sampleNodeId, nonce)) :
    authenticateMachine sampleEnv (clockAt now) db (heartbeatRequest timestampText nonce) =
      .ok (node, sampleNodeKey, reservedDb db nonce now) := by
  have hcheck : checkMachineRequest sampleEnv (clockAt now) db
      (heartbeatRequest timestampText nonce) = .ok (_, node, sampleNodeKey) :=
    checkMachineRequest_sample htimestamp hnonce ((matchesHex_ofList 128 _).trans rfl) hskew hnode
      hactive hkey rfl ⟨rfl, fun _ h => by cases h⟩
  exact authenticateMachine_of_check hcheck hnew

/-- A heartbeat of a node that has a key exchanges it. -/
theorem heartbeat_existing {db : Db} {now : ℤ} {node : NodeRow} {nonce : String}
    {accepted : List String} {existing : HubRouteKeyRow} {rest : List HubRouteKeyRow}
    (hkeys : (acknowledgedDb now db nonce node accepted).unrevokedRouteKeys node.nodeId =
      existing :: rest) :
    heartbeatAuthenticated sampleEnv (sampleEntropy 0) (clockAt now) (reservedDb db nonce now) node
        (some (heartbeatBody accepted)) =
      .ok (⟨60, ((db.getNodeRow node.nodeId).getD node).routeMode,
        (acknowledgedDb now db nonce node accepted).getHubRouteKeysForNode node.nodeId⟩,
        acknowledgedDb now db nonce node accepted) := by
  have hruntime : requireIdentityJson (heartbeatBody accepted) = .ok heartbeatRuntime := rfl
  have hensure : (acknowledgedDb now db nonce node accepted).ensureHubRouteKey sampleEnv
      (sampleEntropy 0) now now node.nodeId =
        .ok (existing, acknowledgedDb now db nonce node accepted) := by
    rw [Db.ensureHubRouteKey, hkeys]
  exact bind_eq_ok.mpr ⟨_, rfl, bind_eq_ok.mpr ⟨_, hruntime, bind_eq_ok.mpr ⟨_, hensure, rfl⟩⟩⟩

def firstRouteKey : HubRouteKeyRow :=
  { nodeId := sampleNodeId
    keyId := "10ba682c8ad13513971e8b56881aab8b"
    publicKey := "d04ab232742bb4ab3a1368bd4615e4e6d0224ab71a016baf8520a332c9778737"
    privateKey := "1111111111111111111111111111111111111111111111111111111111111111"
    state := .provisioned
    createdAt := 1700000000000 }

def secondRouteKey : HubRouteKeyRow :=
  { nodeId := sampleNodeId
    keyId := "b0066359d64f97eb279947feeb083a96"
    publicKey := "204040e364c10f2bec9c1fe500a1cd4c247c89d650a01ed7e82caba867877c21"
    privateKey := "1212121212121212121212121212121212121212121212121212121212121212"
    state := .provisioned
    createdAt := 1700000000000 }

theorem deriveKeyId_firstRouteKey :
    deriveKeyId sampleCrypto firstRouteKey.publicKey = .ok firstRouteKey.keyId := by
  have hpublicKey : isPublicKey firstRouteKey.publicKey = true := (matchesHex_ofList 64 _).trans rfl
  obtain ⟨rest, hraw⟩ : ∃ rest, fromHex firstRouteKey.publicKey.toList = 0xd0 :: rest :=
    ⟨_, (congrArg fromHex String.toList_ofList).trans rfl⟩
  have hdigest : sampleCrypto.sha256 (0xd0 :: rest) = _ := congrArg fromHex String.toList_ofList
  rw [deriveKeyId_of_isPublicKey hpublicKey, hraw, sha256Hex, hdigest, toHex, String.toList_ofList]
  rfl

theorem deriveKeyId_secondRouteKey :
    deriveKeyId sampleCrypto secondRouteKey.publicKey = .ok secondRouteKey.keyId := by
  have hpublicKey : isPublicKey secondRouteKey.publicKey = true := (matchesHex_ofList 64 _).trans rfl
  obtain ⟨rest, hraw⟩ : ∃ rest, fromHex secondRouteKey.publicKey.toList = 0x20 :: rest :=
    ⟨_, (congrArg fromHex String.toList_ofList).trans rfl⟩
  have hdigest : sampleCrypto.sha256 (0x20 :: rest) = _ := congrArg fromHex String.toList_ofList
  rw [deriveKeyId_of_isPublicKey hpublicKey, hraw, sha256Hex, hdigest, toHex, String.toList_ofList]
  rfl

/-- The first heartbeat provisions a route key. -/
def firstHeartbeat : Call :=
  heartbeatCall 1700000000000 "1700000000" "b1b1b1b1b1b1b1b1b1b1b1b1b1b1b1b1" []

def provisionedDb : Db :=
  let db := acknowledgedDb 1700000000000 enrolledDb "b1b1b1b1b1b1b1b1b1b1b1b1b1b1b1b1" sampleNode []
  ({ db with hubRouteKeys := [firstRouteKey] } : Db).recordAudit 1700000000000
    ("system:" ++ sampleNodeId) "hub.route-keys.provision"
    (.obj [("nodeId", .str sampleNodeId), ("keyId", .str firstRouteKey.keyId)])

theorem heartbeat_first : heartbeatAuthenticated sampleEnv (sampleEntropy 0)
    (clockAt 1700000000000) (reservedDb enrolledDb "b1b1b1b1b1b1b1b1b1b1b1b1b1b1b1b1" 1700000000000)
    sampleNode (some (heartbeatBody [])) =
      .ok (⟨60, .direct, [firstRouteKey.entry]⟩, provisionedDb) := by
  have hruntime : requireIdentityJson (heartbeatBody []) = .ok heartbeatRuntime := rfl
  have hnone : (acknowledgedDb 1700000000000 enrolledDb "b1b1b1b1b1b1b1b1b1b1b1b1b1b1b1b1" sampleNode
      []).unrevokedRouteKeys sampleNodeId = [] := rfl
  have hensure : (acknowledgedDb 1700000000000 enrolledDb "b1b1b1b1b1b1b1b1b1b1b1b1b1b1b1b1" sampleNode
      []).ensureHubRouteKey sampleEnv (sampleEntropy 0) 1700000000000 1700000000000 sampleNodeId =
        .ok (firstRouteKey, provisionedDb) := by
    rw [Db.ensureHubRouteKey, hnone]
    dsimp only
    have hderive : deriveKeyId sampleEnv.crypto (sampleEntropy 0).keyPair.publicKeyHex = _ :=
      deriveKeyId_firstRouteKey
    rw [Db.provisionHubRouteKey, hderive]
    rfl
  exact bind_eq_ok.mpr ⟨_, rfl, bind_eq_ok.mpr ⟨_, hruntime, bind_eq_ok.mpr ⟨_, hensure, rfl⟩⟩⟩

theorem authenticate_first : authenticateMachine sampleEnv (clockAt 1700000000000) enrolledDb
    (heartbeatRequest "1700000000" "b1b1b1b1b1b1b1b1b1b1b1b1b1b1b1b1") =
      .ok (sampleNode, sampleNodeKey,
        reservedDb enrolledDb "b1b1b1b1b1b1b1b1b1b1b1b1b1b1b1b1" 1700000000000) :=
  authenticate_heartbeat parseTimestamp_sample ((matchesHex_ofList 32 _).trans rfl) (by decide) rfl
    rfl rfl (by simp [enrolledDb, Db.recordAudit])

theorem step_firstHeartbeat : step sampleEnv ⟨enrolledDb, []⟩ firstHeartbeat = ⟨provisionedDb, []⟩ := by
  rw [step, firstHeartbeat, heartbeatCall]
  dsimp only
  rw [serveMachine, authenticate_first]
  dsimp only [Business.perform]
  rw [heartbeat_first]
  rfl

/-- A later heartbeat of the sample node, in a registry that has a route key for it. -/
theorem step_heartbeat {db : Db} {now : ℤ} {node : NodeRow} {timestampText nonce : String}
    {accepted : List String} {existing : HubRouteKeyRow} {rest : List HubRouteKeyRow}
    (hauth : authenticateMachine sampleEnv (clockAt now) db (heartbeatRequest timestampText nonce) =
      .ok (node, sampleNodeKey, reservedDb db nonce now))
    (hkeys : (acknowledgedDb now db nonce node accepted).unrevokedRouteKeys node.nodeId =
      existing :: rest) :
    step sampleEnv ⟨db, []⟩ (heartbeatCall now timestampText nonce accepted) =
      ⟨acknowledgedDb now db nonce node accepted, []⟩ := by
  rw [step, heartbeatCall]
  dsimp only
  rw [serveMachine, hauth]
  dsimp only [Business.perform]
  rw [heartbeat_existing hkeys]
  rfl

/-! ### A rotation of its route key -/

/-- The sample node after a heartbeat. -/
def freshNode : NodeRow :=
  { sampleNode with
    registryContact := .fresh
    lastSeen := some 1700000000000
    lastSeenSource := some "heartbeat"
    lastHeartbeatAt := some 1700000000000
    runtime := heartbeatRuntime }

/-- The node acknowledges its first key. -/
def firstAcknowledgement : Call :=
  heartbeatCall 1700000000000 "1700000000" "b2b2b2b2b2b2b2b2b2b2b2b2b2b2b2b2" [firstRouteKey.keyId]

def activeDb : Db :=
  acknowledgedDb 1700000000000 provisionedDb "b2b2b2b2b2b2b2b2b2b2b2b2b2b2b2b2" freshNode
    [firstRouteKey.keyId]

theorem provisionedDb_nonces : provisionedDb.nonces =
    [⟨sampleNodeId, "b1b1b1b1b1b1b1b1b1b1b1b1b1b1b1b1", 1700000000000⟩] := rfl

theorem activeDb_hubRouteKeys :
    activeDb.hubRouteKeys = [firstRouteKey.activated 1700000000000] := rfl

theorem step_firstAcknowledgement :
    step sampleEnv ⟨provisionedDb, []⟩ firstAcknowledgement = ⟨activeDb, []⟩ :=
  step_heartbeat (authenticate_heartbeat parseTimestamp_sample ((matchesHex_ofList 32 _).trans rfl)
    (by decide) rfl rfl rfl (by simp [provisionedDb_nonces])) rfl

/-- The random values of a call that generates the second route key. -/
def secondEntropy : Entropy :=
  { sampleEntropy 0 with
    keyPair :=
      { publicKeyHex := secondRouteKey.publicKey
        privateKeyHex := secondRouteKey.privateKey
        publicKey_wellFormed := (matchesHex_ofList 64 _).trans rfl } }

def routeKeyRotation : Call :=
  { operation := .rotateHubRouteKey (some "operator") (some sampleNodeId)
    clock := clockAt 1700000000000
    entropy := secondEntropy }

def rotatingDb : Db :=
  ({ activeDb with
    hubRouteKeys := [firstRouteKey.activated 1700000000000, secondRouteKey] } : Db).recordAudit
    1700000000000 "operator" "hub.route-keys.rotate-intent"
    (.obj [("nodeId", .str sampleNodeId), ("currentKeyId", .str firstRouteKey.keyId),
      ("newKeyId", .str secondRouteKey.keyId), ("overlapDays", .num 30)])

theorem step_routeKeyRotation :
    step sampleEnv ⟨activeDb, []⟩ routeKeyRotation = ⟨rotatingDb, []⟩ := by
  have hnodeId : requireString (some sampleNodeId) "nodeId" = .ok sampleNodeId :=
    requireString_eq_ok.mpr ⟨rfl, by simp [sampleNodeId]⟩
  have hactor : requireString (some "operator") "actor" = .ok "operator" :=
    requireString_eq_ok.mpr ⟨rfl, by simp⟩
  have hprovision : activeDb.provisionHubRouteKey sampleEnv secondEntropy 1700000000000 sampleNodeId =
      .ok (secondRouteKey, { activeDb with
        hubRouteKeys := [firstRouteKey.activated 1700000000000, secondRouteKey] }) := by
    have hderive : deriveKeyId sampleEnv.crypto secondEntropy.keyPair.publicKeyHex = _ :=
      deriveKeyId_secondRouteKey
    rw [Db.provisionHubRouteKey, hderive]
    rfl
  have hrotate : activeDb.rotateHubRouteKey sampleEnv secondEntropy (clockAt 1700000000000)
      (some "operator") (some sampleNodeId) =
        .ok (⟨sampleNodeId, firstRouteKey.keyId, secondRouteKey.keyId⟩, rotatingDb) :=
    bind_eq_ok.mpr ⟨_, hnodeId, bind_eq_ok.mpr ⟨_, hactor, bind_eq_ok.mpr ⟨_, hprovision, rfl⟩⟩⟩
  rw [step, routeKeyRotation]
  dsimp only
  rw [hrotate]
  rfl

/-- The node acknowledges the successor, which begins the overlap of the first key. -/
def secondAcknowledgement : Call :=
  heartbeatCall 1700000000000 "1700000000" "b3b3b3b3b3b3b3b3b3b3b3b3b3b3b3b3"
    [firstRouteKey.keyId, secondRouteKey.keyId]

def overlapDb : Db :=
  acknowledgedDb 1700000000000 rotatingDb "b3b3b3b3b3b3b3b3b3b3b3b3b3b3b3b3" freshNode
    [firstRouteKey.keyId, secondRouteKey.keyId]

theorem overlapDb_hubRouteKeys : overlapDb.hubRouteKeys =
    [(firstRouteKey.activated 1700000000000).retired (1700000000000 + sampleConfig.hubRouteOverlapMs),
      secondRouteKey.activated 1700000000000] := rfl

theorem rotatingDb_nonces : rotatingDb.nonces =
    [⟨sampleNodeId, "b1b1b1b1b1b1b1b1b1b1b1b1b1b1b1b1", 1700000000000⟩,
      ⟨sampleNodeId, "b2b2b2b2b2b2b2b2b2b2b2b2b2b2b2b2", 1700000000000⟩] := rfl

theorem step_secondAcknowledgement :
    step sampleEnv ⟨rotatingDb, []⟩ secondAcknowledgement = ⟨overlapDb, []⟩ :=
  step_heartbeat (authenticate_heartbeat parseTimestamp_sample ((matchesHex_ofList 32 _).trans rfl)
    (by decide) rfl rfl rfl (by simp [rotatingDb_nonces])) rfl

/-- The calls up to the overlap. -/
def routeKeyRotationCalls : List Call :=
  sampleEnrollment ++
    [firstHeartbeat, firstAcknowledgement, routeKeyRotation, secondAcknowledgement]

theorem run_routeKeyRotationCalls : run sampleEnv {} routeKeyRotationCalls = ⟨overlapDb, []⟩ := by
  rw [routeKeyRotationCalls, run_append, run_sampleEnrollment, run, runFrom_cons,
    step_firstHeartbeat, runFrom_cons, step_firstAcknowledgement, runFrom_cons,
    step_routeKeyRotation, runFrom_cons, step_secondAcknowledgement, runFrom_nil]

theorem overlapDb_nonces : overlapDb.nonces =
    [⟨sampleNodeId, "b1b1b1b1b1b1b1b1b1b1b1b1b1b1b1b1", 1700000000000⟩,
      ⟨sampleNodeId, "b2b2b2b2b2b2b2b2b2b2b2b2b2b2b2b2", 1700000000000⟩,
      ⟨sampleNodeId, "b3b3b3b3b3b3b3b3b3b3b3b3b3b3b3b3", 1700000000000⟩] := rfl

/-- The keys of the response at the end of the overlap, before the next maintenance. -/
def endedKeys : List HubRouteKey :=
  [((firstRouteKey.activated 1700000000000).retired 1702592000000).entry,
    (secondRouteKey.activated 1700000000000).entry]

theorem not_legalKeySet_endedKeys : ¬LegalKeySet 1702592000000 endedKeys := by
  intro hlegal
  have hfits := hlegal.fits _ List.mem_cons_self
  simp [HubRouteKeyRow.entry, HubRouteKey.FitsAt, HubRouteKeyRow.retired,
    RouteKeyState.toKeyState, dateParse_toIsoString] at hfits

/-- At the instant the overlap ends the response still carries the rotating key, and the
node refuses the whole set. -/
theorem heartbeat_keySet_refused : ∃ node key db response db',
    authenticateMachine sampleEnv (clockAt 1702592000000) (run sampleEnv {} routeKeyRotationCalls).db
        (heartbeatRequest "1702592000" "b4b4b4b4b4b4b4b4b4b4b4b4b4b4b4b4") = .ok (node, key, db) ∧
      heartbeatAuthenticated sampleEnv (sampleEntropy 0) (clockAt 1702592000000) db node
        (some (heartbeatBody [])) = .ok (response, db') ∧
      ¬LegalKeySet 1702592000000 response.hubRouteKeys ∧
      ¬∃ checked, validateHubRouteKeySet sampleCrypto
        (some (.arr (response.hubRouteKeys.map HubRouteKey.toJson))) 1702592000000 = .ok checked := by
  have htimestamp : parseTimestamp (some "1702592000") = some 1702592000 := by decide +kernel
  have hnode : overlapDb.getNodeRow sampleNodeId = some freshNode := rfl
  have hauth : authenticateMachine sampleEnv (clockAt 1702592000000) overlapDb
      (heartbeatRequest "1702592000" "b4b4b4b4b4b4b4b4b4b4b4b4b4b4b4b4") = .ok (_, _, _) :=
    authenticate_heartbeat htimestamp ((matchesHex_ofList 32 _).trans rfl) (by decide) hnode rfl rfl
      (by simp [overlapDb_nonces])
  rw [run_routeKeyRotationCalls]
  refine ⟨_, _, _, ⟨60, .direct, endedKeys⟩, _, hauth, heartbeat_existing rfl,
    not_legalKeySet_endedKeys, ?_⟩
  rw [validateHubRouteKeySet_toJson]
  · exact not_legalKeySet_endedKeys
  · intro key hkey
    rcases List.mem_pair.mp hkey with rfl | rfl
    · exact ⟨deriveKeyId_firstRouteKey, by simp [HubRouteKeyRow.entry, HubRouteKeyRow.retired,
        RouteKeyState.toKeyState, HubRouteKeyState.text, HubRouteKeyState.ofText]⟩
    · exact ⟨deriveKeyId_secondRouteKey, by simp [HubRouteKeyRow.entry, HubRouteKeyRow.activated,
        RouteKeyState.toKeyState, HubRouteKeyState.text, HubRouteKeyState.ofText]⟩
  · simp [endedKeys, HubRouteKeyRow.entry, HubRouteKeyRow.retired, HubRouteKeyRow.activated,
      firstRouteKey, secondRouteKey]

/-- The key set of the first heartbeat. -/
theorem heartbeat_keySet_accepted_first :
    KeySetAccepted sampleEnv 1700000000000 [firstRouteKey.entry] := by
  have hauth : authenticateMachine sampleEnv (clockAt 1700000000000)
      (run sampleEnv {} sampleEnrollment).db
        (heartbeatRequest "1700000000" "b1b1b1b1b1b1b1b1b1b1b1b1b1b1b1b1") =
      .ok (sampleNode, sampleNodeKey,
        reservedDb enrolledDb "b1b1b1b1b1b1b1b1b1b1b1b1b1b1b1b1" 1700000000000) := by
    rw [run_sampleEnrollment]
    exact authenticate_first
  refine ((heartbeat_keySet_accepted_iff sampleEnv sampleEnrollment).2 _ _ _ _ _ _ _ _ _ _ hauth
    heartbeat_first (by decide)).mpr fun row hrow => ?_
  rw [run_sampleEnrollment] at hrow
  exact (List.not_mem_nil hrow).elim

end DshOrbit.Registry
