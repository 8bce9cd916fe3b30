import Mathlib.Data.List.AList

/-!
# Maps of the JavaScript standard library

A `Map` is an association list without two entries of one key. The order of its entries, which
JavaScript keeps and this one does not, is not read by the code that is modelled over it.

## Main definitions

- `JsMap` — a map
- `JsMap.size` — the number of its entries
-/

namespace DshOrbit.Lib

/-- A `Map`. -/
abbrev JsMap (Key Value : Type) : Type := AList fun _ : Key => Value

namespace JsMap

variable {Key Value : Type} {key key' : Key} {value : Value} {m : JsMap Key Value}

/-- `map.size`. -/
def size (m : JsMap Key Value) : ℕ := m.keys.length

@[simp]
theorem size_empty : size (∅ : JsMap Key Value) = 0 := rfl

variable [DecidableEq Key]

/-- `map.has(key)`. -/
def has (m : JsMap Key Value) (key : Key) : Bool := (m.lookup key).isSome

theorem has_iff_mem : m.has key = true ↔ key ∈ m := AList.lookup_isSome

theorem has_eq_false_iff : m.has key = false ↔ key ∉ m := by
  rw [← has_iff_mem, Bool.not_eq_true]

theorem size_insert_of_notMem (h : key ∉ m) : size (m.insert key value) = m.size + 1 := by
  rw [size, AList.keys_insert, List.length_cons, List.erase_of_not_mem (AList.mem_keys.not.mp h)]
  rfl

theorem size_erase_le (m : JsMap Key Value) (key : Key) : size (m.erase key) ≤ m.size := by
  rw [size, AList.keys_erase]
  exact List.length_erase_le

theorem lookup_insert_eq (m : JsMap Key Value) (key key' : Key) (value : Value) :
    (m.insert key value).lookup key' = if key' = key then some value else m.lookup key' := by
  split_ifs with h
  · rw [h, AList.lookup_insert]
  · exact AList.lookup_insert_ne h

theorem lookup_erase_eq (m : JsMap Key Value) (key key' : Key) :
    (m.erase key).lookup key' = if key' = key then none else m.lookup key' := by
  split_ifs with h
  · rw [h, AList.lookup_erase]
  · exact AList.lookup_erase_ne h

/-- The entries that are deleted while a map is walked through. -/
theorem lookup_foldl_erase (m : JsMap Key Value) (p : Value → Prop) [DecidablePred p] (key : Key) :
    (m.entries.foldl (fun kept entry => if p entry.2 then kept.erase entry.1 else kept) m).lookup
      key = (m.lookup key).filter fun value => ¬p value := by
  have hfold : ∀ (entries : List (Sigma fun _ : Key => Value)) (kept : JsMap Key Value),
      (entries.foldl (fun kept entry => if p entry.2 then kept.erase entry.1 else kept) kept).lookup
        key = if ∃ entry ∈ entries, entry.1 = key ∧ p entry.2 then none else kept.lookup key := by
    intro entries
    induction entries with
    | nil => intro kept; simp
    | cons entry rest ih =>
      intro kept
      rw [List.foldl_cons, ih]
      by_cases hrest : ∃ entry ∈ rest, entry.1 = key ∧ p entry.2
      · rw [if_pos hrest, if_pos (List.exists_mem_cons_of_exists hrest)]
      · rw [if_neg hrest]
        by_cases hp : p entry.2
        · rw [if_pos hp, lookup_erase_eq]
          by_cases hkey : entry.1 = key
          · rw [if_pos hkey.symm, if_pos ⟨entry, List.mem_cons_self, hkey, hp⟩]
          · rw [if_neg (Ne.symm hkey), if_neg]
            rw [List.exists_mem_cons_iff]
            exact fun h => h.elim (fun h => hkey h.1) hrest
        · rw [if_neg hp, if_neg]
          rw [List.exists_mem_cons_iff]
          exact fun h => h.elim (fun h => hp h.2) hrest
  rw [hfold]
  cases hlookup : m.lookup key with
  | none => exact ite_self _
  | some value =>
    have hmem : ∀ entry ∈ m.entries, entry.1 = key → entry.2 = value := by
      rintro ⟨_, value'⟩ hentry rfl
      exact Option.some.inj ((AList.mem_lookup_iff.mpr hentry).symm.trans hlookup)
    by_cases hp : p value
    · rw [if_pos ⟨⟨key, value⟩, AList.mem_lookup_iff.mp hlookup, rfl, hp⟩, Option.filter_some,
        if_neg (by simpa using hp)]
    · rw [if_neg]
      · rw [Option.filter_some, if_pos (by simpa using hp)]
      · rintro ⟨entry, hentry, hkey, hpentry⟩
        exact hp (hmem entry hentry hkey ▸ hpentry)

end JsMap

end DshOrbit.Lib
