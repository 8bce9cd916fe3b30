import DshOrbit.Crypto
import DshOrbit.Lib.IsoTime
import DshOrbit.Lib.Outcome

/-!
# The Hub route key set of a node

The complete desired trust set that a heartbeat response carries, and the check
a node makes before it stores one (`registry/hub-route-keys.mjs`).

## Main definitions

- `HubRouteKey` — an entry of the trust set
- `validateHubRouteKeySet` — the check of a received set
- `LegalKeySet` — the four forms of a trust set

## Main results

- `validateHubRouteKeySet_toJson` — the check accepts the legal sets
-/

namespace DshOrbit

open Lib Protocol

inductive HubRouteKeyState
  | provisioned
  | active
  | rotating
  | revoked
  | other (text : String)
  deriving DecidableEq

namespace HubRouteKeyState

def ofText (text : String) : HubRouteKeyState :=
  if text = "provisioned" then .provisioned
  else if text = "active" then .active
  else if text = "rotating" then .rotating
  else if text = "revoked" then .revoked
  else .other text

def text : HubRouteKeyState → String
  | .provisioned => "provisioned"
  | .active => "active"
  | .rotating => "rotating"
  | .revoked => "revoked"
  | .other text => text

end HubRouteKeyState

structure HubRouteKey where
  keyId : String
  publicKey : String
  state : HubRouteKeyState
  overlapUntil : Option String
  deriving DecidableEq

/-- The JSON entry of a key. -/
def HubRouteKey.toJson (key : HubRouteKey) : Json :=
  .obj [("keyId", .str key.keyId), ("publicKey", .str key.publicKey),
    ("state", .str key.state.text), ("overlapUntil", (key.overlapUntil.map .str).getD .null)]

/-! ### The check of one entry -/

/-- `value ?? null` of an optional field that is absent or null. -/
def isNullish : Option Json → Bool
  | none => true
  | some .null => true
  | some _ => false

/-- The state of an entry and its overlap end, where the two fit together. -/
def validateKeyState (now : ℤ) (item : Json) :
    Except String (HubRouteKeyState × Option String) :=
  let overlapUntil := item.field "overlapUntil"
  match item.field "state" with
  | some (.str "provisioned") =>
    if isNullish overlapUntil then .ok (.provisioned, none)
    else .error "provisioned key must have overlapUntil = null"
  | some (.str "active") =>
    if isNullish overlapUntil then .ok (.active, none)
    else .error "active key must have overlapUntil = null"
  | some (.str "rotating") =>
    match overlapUntil with
    | some (.str text) =>
      match dateParse text with
      | none => .error "rotating key requires a valid ISO timestamp for overlapUntil"
      | some instant =>
        if instant ≤ now then .error "rotating key overlapUntil must be in the future"
        else .ok (.rotating, some text)
    | _ => .error "rotating key requires a valid ISO timestamp for overlapUntil"
  | state => .error ("unsupported key state " ++ stringifyText state)

/-- `typeof item === "object" && item !== null`. -/
def isObject : Json → Bool
  | .arr _ => true
  | .obj _ => true
  | _ => false

/-- The key id and public key of an entry, where the one is derived from the other. -/
def validateKeyText (crypto : Crypto) (item : Json) : Except String (String × String) :=
  if !isObject item then .error "key entry must be an object"
  else
    match (item.field "keyId").bind Json.str? with
    | none => .error ("invalid keyId: " ++ stringifyText (item.field "keyId"))
    | some keyId =>
      if !isKeyId keyId then .error ("invalid keyId: " ++ quoteJson keyId)
      else
        match (item.field "publicKey").bind Json.str? with
        | none => .error ("invalid publicKey: " ++ stringifyText (item.field "publicKey"))
        | some publicKey =>
          if !isPublicKey publicKey then .error ("invalid publicKey: " ++ quoteJson publicKey)
          else do
            let derived ← deriveKeyId crypto publicKey
            if derived ≠ keyId then
              .error ("keyId mismatch: expected " ++ derived ++ " but got " ++ keyId)
            else .ok (keyId, publicKey)

/-! ### The check of the set -/

/-- Check the entries in order, against the ids and public keys seen before. -/
def validateKeyItems (crypto : Crypto) (now : ℤ) (seenKeyIds seenPublicKeys : List String) :
    List Json → Except String (List HubRouteKey)
  | [] => .ok []
  | item :: rest => do
    let (keyId, publicKey) ← validateKeyText crypto item
    if keyId ∈ seenKeyIds then .error ("duplicate keyId " ++ keyId)
    else if publicKey ∈ seenPublicKeys then .error ("duplicate publicKey " ++ publicKey)
    else do
      let (state, overlapUntil) ← validateKeyState now item
      let keys ← validateKeyItems crypto now (keyId :: seenKeyIds) (publicKey :: seenPublicKeys) rest
      return ⟨keyId, publicKey, state, overlapUntil⟩ :: keys

/-- The form of a checked set: one provisioned, one active, one active and one
provisioned, or one active and one rotating key. -/
def formOfKeys : List HubRouteKey → Except String ℕ
  | [key] =>
    if key.state = .provisioned ∧ key.overlapUntil = none then .ok 1
    else if key.state = .active ∧ key.overlapUntil = none then .ok 2
    else .error ("single key cannot be in state " ++ key.state.text ++ " with overlapUntil " ++
      key.overlapUntil.getD "null")
  | [first, second] =>
    let keys := [first, second]
    match keys.find? (·.state = .active), keys.find? (·.state = .provisioned),
      keys.find? (·.state = .rotating) with
    | some active, some provisioned, none =>
      if active.overlapUntil = none ∧ provisioned.overlapUntil = none then .ok 3
      else .error "Form 3 rotation keys must have overlapUntil = null"
    | some active, none, some rotating =>
      if active.overlapUntil = none ∧ rotating.overlapUntil.isSome then .ok 4
      else .error ("Form 4 active key must have overlapUntil = null and rotating must have " ++
        "future overlapUntil")
    | _, _, _ =>
      .error "two keys must be either (active + provisioned) or (active + rotating)"
  | _ => .error "unrecognized key set structure"

structure KeySetValidation where
  form : ℕ
  keys : List HubRouteKey

/-- The check of a received trust set; the error is the reason of the refusal. -/
def validateHubRouteKeySet (crypto : Crypto) (hubRouteKeys : Option Json) (now : ℤ) :
    Except String KeySetValidation :=
  match hubRouteKeys.bind Json.arr? with
  | none => .error "hubRouteKeys must be an array"
  | some items =>
    if items.length = 0 then .error "hubRouteKeys must not be empty"
    else if items.length > 2 then
      .error ("hubRouteKeys contains " ++ toString items.length ++ " keys (maximum 2)")
    else do
      let keys ← validateKeyItems crypto now [] [] items
      let form ← formOfKeys keys
      return ⟨form, keys⟩

/-! ### What the check accepts -/

/-- An entry in a known state, whose key id is derived from its public key. -/
structure HubRouteKey.Sound (crypto : Crypto) (key : HubRouteKey) : Prop where
  keyId : deriveKeyId crypto key.publicKey = .ok key.keyId
  state : HubRouteKeyState.ofText key.state.text = key.state

/-- The overlap end of an entry fits its state: a rotating key ends in the future, and
no other key has an end. -/
def HubRouteKey.FitsAt (now : ℤ) (key : HubRouteKey) : Prop :=
  match key.state with
  | .provisioned => key.overlapUntil = none
  | .active => key.overlapUntil = none
  | .rotating => ∃ text instant, key.overlapUntil = some text ∧ dateParse text = some instant ∧
      now < instant
  | _ => False

/-- The states of a trust set, in any order. -/
def legalForms : List (List HubRouteKeyState) :=
  [[.provisioned], [.active], [.active, .provisioned], [.provisioned, .active],
    [.active, .rotating], [.rotating, .active]]

structure LegalKeySet (now : ℤ) (keys : List HubRouteKey) : Prop where
  fits : ∀ key ∈ keys, key.FitsAt now
  form : keys.map (·.state) ∈ legalForms

theorem validateKeyText_toJson {crypto : Crypto} {key : HubRouteKey} (h : key.Sound crypto) :
    validateKeyText crypto key.toJson = .ok (key.keyId, key.publicKey) := by
  obtain ⟨hpublicKey, hkeyId⟩ := isKeyId_of_deriveKeyId h.keyId
  have hfields : (key.toJson.field "keyId").bind Json.str? = some key.keyId ∧
      (key.toJson.field "publicKey").bind Json.str? = some key.publicKey := by
    simp [HubRouteKey.toJson, Json.field, Json.str?]
  have hobject : isObject key.toJson = true := rfl
  simp only [validateKeyText, hobject, hfields, hkeyId, hpublicKey, h.keyId, Bool.not_true,
    Bool.false_eq_true, if_false, bind, Except.bind, ne_eq, not_true]

theorem validateKeyState_toJson {crypto : Crypto} {now : ℤ} {key : HubRouteKey}
    {result : HubRouteKeyState × Option String} (h : key.Sound crypto) :
    validateKeyState now key.toJson = .ok result ↔
      key.FitsAt now ∧ result = (key.state, key.overlapUntil) := by
  have hstate : key.toJson.field "state" = some (.str key.state.text) := by
    simp [HubRouteKey.toJson, Json.field]
  have hoverlap : key.toJson.field "overlapUntil" =
      some ((key.overlapUntil.map Json.str).getD .null) := by
    simp [HubRouteKey.toJson, Json.field]
  have htext := h.state
  obtain ⟨keyId, publicKey, state, overlapUntil⟩ := key
  rw [validateKeyState, hstate, hoverlap]
  dsimp only [HubRouteKey.FitsAt] at *
  cases state with
  | provisioned =>
    cases overlapUntil <;> simp [HubRouteKeyState.text, isNullish, eq_comm]
  | active =>
    cases overlapUntil <;> simp [HubRouteKeyState.text, isNullish, eq_comm]
  | rotating =>
    cases overlapUntil with
    | none => simp [HubRouteKeyState.text]
    | some text =>
      simp only [HubRouteKeyState.text, Option.map_some, Option.getD_some]
      cases hparse : dateParse text with
      | none => simp [hparse]
      | some instant =>
        by_cases hpast : instant ≤ now
        · simp [hparse, hpast]
        · have hfuture : now < instant := not_le.mp hpast
          simp [hparse, hpast, hfuture, eq_comm]
  | revoked => simp [HubRouteKeyState.text]
  | other text =>
    have hnames : text ≠ "provisioned" ∧ text ≠ "active" ∧ text ≠ "rotating" := by
      refine ⟨?_, ?_, ?_⟩ <;>
      · rintro rfl
        simp [HubRouteKeyState.text, HubRouteKeyState.ofText] at htext
    simp only [HubRouteKeyState.text, false_and, iff_false]
    split
    · simp_all
    · simp_all
    · simp_all
    · simp

/-- The entries pass the check where each fits its state, and come back as they are. -/
theorem validateKeyItems_toJson {crypto : Crypto} {now : ℤ} {keys result : List HubRouteKey}
    {seenKeyIds seenPublicKeys : List String} (hsound : ∀ key ∈ keys, key.Sound crypto)
    (hnodup : (keys.map (·.keyId)).Nodup)
    (hseen : ∀ key ∈ keys, key.keyId ∉ seenKeyIds ∧ key.publicKey ∉ seenPublicKeys) :
    validateKeyItems crypto now seenKeyIds seenPublicKeys (keys.map HubRouteKey.toJson) =
        .ok result ↔ (∀ key ∈ keys, key.FitsAt now) ∧ result = keys := by
  induction keys generalizing seenKeyIds seenPublicKeys result with
  | nil => simp [validateKeyItems, eq_comm]
  | cons key rest ih =>
    have hkey := hsound key List.mem_cons_self
    obtain ⟨hnewId, hnewKey⟩ := hseen key List.mem_cons_self
    obtain ⟨hdistinct, hnodup⟩ := List.nodup_cons.mp hnodup
    have hrest : ∀ other ∈ rest, other.keyId ∉ key.keyId :: seenKeyIds ∧
        other.publicKey ∉ key.publicKey :: seenPublicKeys := by
      intro other hother
      have hne : other.keyId ≠ key.keyId := fun heq =>
        hdistinct (List.mem_map.mpr ⟨other, hother, heq⟩)
      have hother' := hsound other (List.mem_cons_of_mem key hother)
      obtain ⟨hids, hkeys⟩ := hseen other (List.mem_cons_of_mem key hother)
      refine ⟨by simp [hne, hids], ?_⟩
      -- equal public keys would have equal ids
      have hne' : other.publicKey ≠ key.publicKey := fun heq =>
        hne (Except.ok.inj (hother'.keyId.symm.trans (heq ▸ hkey.keyId)))
      simp [hne', hkeys]
    have ih := fun others => @ih others _ _
      (fun other hother => hsound other (List.mem_cons_of_mem key hother)) hnodup hrest
    rw [List.map_cons, validateKeyItems, validateKeyText_toJson hkey]
    constructor
    · intro hok
      obtain ⟨_, hpair, hok⟩ := bind_eq_ok.mp hok
      cases hpair
      dsimp only at hok
      rw [if_neg hnewId, if_neg hnewKey] at hok
      obtain ⟨⟨state, overlapUntil⟩, hstate, hok⟩ := bind_eq_ok.mp hok
      obtain ⟨others, hothers, hresult⟩ := bind_eq_ok.mp hok
      obtain ⟨hfits, hentry⟩ := (validateKeyState_toJson hkey).mp hstate
      obtain ⟨hrestFits, rfl⟩ := (ih _).mp hothers
      obtain ⟨rfl, rfl⟩ := Prod.mk.inj hentry
      exact ⟨List.forall_mem_cons.mpr ⟨hfits, hrestFits⟩, (pure_eq_ok.mp hresult).symm⟩
    · rintro ⟨hfits, rfl⟩
      obtain ⟨hfits, hrestFits⟩ := List.forall_mem_cons.mp hfits
      refine bind_eq_ok.mpr ⟨_, rfl, ?_⟩
      dsimp only
      rw [if_neg hnewId, if_neg hnewKey]
      exact bind_eq_ok.mpr ⟨_, (validateKeyState_toJson hkey).mpr ⟨hfits, rfl⟩,
        bind_eq_ok.mpr ⟨rest, (ih rest).mpr ⟨hrestFits, rfl⟩, rfl⟩⟩

theorem HubRouteKey.FitsAt.cases {now : ℤ} {key : HubRouteKey} (h : key.FitsAt now) :
    key.state = .provisioned ∧ key.overlapUntil = none ∨
      key.state = .active ∧ key.overlapUntil = none ∨
      key.state = .rotating ∧ key.overlapUntil.isSome = true := by
  unfold HubRouteKey.FitsAt at h
  split at h
  case h_1 hstate => exact .inl ⟨hstate, h⟩
  case h_2 hstate => exact .inr (.inl ⟨hstate, h⟩)
  case h_3 hstate =>
    obtain ⟨text, -, htext, -⟩ := h
    exact .inr (.inr ⟨hstate, by simp [htext]⟩)
  case h_4 => exact h.elim

/-- Entries that fit their states have a form where their states do. -/
theorem formOfKeys_ok {now : ℤ} {keys : List HubRouteKey} (hfits : ∀ key ∈ keys, key.FitsAt now) :
    (∃ form, formOfKeys keys = .ok form) ↔ keys.map (·.state) ∈ legalForms := by
  match keys with
  | [] => simp [formOfKeys, legalForms]
  | [key] =>
    rcases (hfits key List.mem_cons_self).cases with ⟨hstate, hend⟩ | ⟨hstate, hend⟩ | ⟨hstate, -⟩ <;>
      simp [formOfKeys, legalForms, *]
  | [first, second] =>
    have hfirst := (hfits first List.mem_cons_self).cases
    have hsecond := (hfits second (List.mem_cons_of_mem _ List.mem_cons_self)).cases
    clear hfits
    rcases hfirst with ⟨hstate, hend⟩ | ⟨hstate, hend⟩ | ⟨hstate, hend⟩ <;>
      rcases hsecond with ⟨hstate', hend'⟩ | ⟨hstate', hend'⟩ | ⟨hstate', hend'⟩ <;>
      simp [formOfKeys, legalForms, hstate, hstate', hend, hend']
  | _ :: _ :: _ :: _ => simp [formOfKeys, legalForms]

/-- The check of a set of sound entries accepts the legal sets. -/
theorem validateHubRouteKeySet_toJson {crypto : Crypto} {now : ℤ} {keys : List HubRouteKey}
    (hsound : ∀ key ∈ keys, key.Sound crypto) (hnodup : (keys.map (·.keyId)).Nodup) :
    (∃ checked, validateHubRouteKeySet crypto (some (.arr (keys.map HubRouteKey.toJson))) now =
      .ok checked) ↔ LegalKeySet now keys := by
  have hitems := fun result =>
    @validateKeyItems_toJson crypto now keys result [] [] hsound hnodup (by simp)
  simp only [validateHubRouteKeySet, Option.bind_some, Json.arr?, List.length_map]
  constructor
  · rintro ⟨checked, h⟩
    split_ifs at h
    obtain ⟨result, hresult, h⟩ := bind_eq_ok.mp h
    obtain ⟨form, hform, -⟩ := bind_eq_ok.mp h
    obtain ⟨hfits, rfl⟩ := (hitems result).mp hresult
    exact ⟨hfits, (formOfKeys_ok hfits).mp ⟨form, hform⟩⟩
  · rintro ⟨hfits, hlegal⟩
    obtain ⟨form, hform⟩ := (formOfKeys_ok hfits).mpr hlegal
    have hlength : keys.length = 1 ∨ keys.length = 2 := by
      rw [← List.length_map (f := fun key : HubRouteKey => key.state)]
      simp only [legalForms, List.mem_cons, List.not_mem_nil, or_false] at hlegal
      rcases hlegal with h | h | h | h | h | h <;> simp [h]
    rw [if_neg (by omega), if_neg (by omega)]
    exact ⟨_, bind_eq_ok.mpr ⟨keys, (hitems keys).mpr ⟨hfits, rfl⟩,
      bind_eq_ok.mpr ⟨form, hform, rfl⟩⟩⟩

end DshOrbit
