import Mathlib.Data.List.Nodup
import Mathlib.Logic.Function.Basic
import Mathlib.Data.Prod.Basic

/-!
# Values that move and move back

A store gives some keys a value. A list of moves takes values from one key to another, and
afterwards some of them move back.

## Main definitions

- `relocate`, `relocateAll` — one move, and the moves of a list
- `takeBack` — the moves that may be taken back are
- `Separate` — no key occurs twice in a list of moves

## Main results

- `relocateAll_place` — where a value is after the moves
- `takeBack_place_iff` — a value is back if and only if it may move back
-/

namespace DshOrbit.Lib

universe u v

variable {κ : Type u} {α : Type v} {places : List (κ × κ)}

/-! ### Keys that occur once -/

/-- No key occurs twice. -/
def Separate (places : List (κ × κ)) : Prop :=
  (places.map (·.1) ++ places.map (·.2)).Nodup

theorem Separate.cons {place : κ × κ} (h : Separate (place :: places)) :
    place.1 ≠ place.2 ∧ Separate places ∧
      ∀ other ∈ places, other.1 ≠ place.1 ∧ other.1 ≠ place.2 ∧ other.2 ≠ place.1 ∧
        other.2 ≠ place.2 := by
  simp only [Separate, List.map_cons, List.cons_append, List.nodup_cons, List.mem_append,
    List.mem_map, List.mem_cons, List.nodup_append, not_or, not_exists, not_and] at h ⊢
  obtain ⟨⟨hfirst, hne, hsecond⟩, hfirsts, ⟨hplace, hseconds⟩, hdisjoint⟩ := h
  refine ⟨fun heq => hne heq, ⟨hfirsts, hseconds, fun key hkey other hother =>
    hdisjoint key hkey other (.inr hother)⟩, fun other hother => ⟨?_, ?_, ?_, ?_⟩⟩
  · exact hfirst other hother
  · exact hdisjoint _ ⟨other, hother, rfl⟩ _ (.inl rfl)
  · exact hsecond other hother
  · exact hplace other hother

theorem Separate.sublist {others : List (κ × κ)} (h : Separate places)
    (hsub : List.Sublist others places) : Separate others :=
  List.Nodup.sublist ((hsub.map _).append (hsub.map _)) h

theorem Separate.reverse (h : Separate places) : Separate places.reverse := by
  rw [Separate, List.map_reverse, List.map_reverse, List.nodup_append] at *
  exact ⟨List.nodup_reverse.mpr h.1, List.nodup_reverse.mpr h.2.1, fun key hkey other hother =>
    h.2.2 key (List.mem_reverse.mp hkey) other (List.mem_reverse.mp hother)⟩

theorem Separate.ne (h : Separate places) {place other : κ × κ} (hplace : place ∈ places)
    (hother : other ∈ places) (hne : place ≠ other) : place.2 ≠ other.1 ∧ place.2 ≠ other.2 := by
  obtain ⟨-, hseconds, hdisjoint⟩ := List.nodup_append.mp h
  refine ⟨fun heq => ?_, fun heq => hne (List.inj_on_of_nodup_map hseconds hplace hother heq)⟩
  exact hdisjoint _ (List.mem_map_of_mem hother) _ (List.mem_map_of_mem hplace) heq.symm

/-! ### Moves -/

variable [DecidableEq κ] {store : κ → Option α}

/-- The value at `source` goes to `destination`. -/
def relocate (source destination : κ) (store : κ → Option α) : κ → Option α :=
  Function.update (Function.update store source none) destination (store source)

/-- Each value moves from the second key of a place to the first. -/
def relocateAll (places : List (κ × κ)) (store : κ → Option α) : κ → Option α :=
  places.foldl (fun store place => relocate place.2 place.1 store) store

/-- A value at the first key of a place moves back to the second, if it may. -/
def takeBackOne (may : κ × κ → Bool) (store : κ → Option α) (place : κ × κ) : κ → Option α :=
  if (store place.1).isSome && may place then relocate place.1 place.2 store else store

def takeBack (may : κ × κ → Bool) (places : List (κ × κ)) (store : κ → Option α) : κ → Option α :=
  places.foldl (takeBackOne may) store

theorem relocate_of_ne {source destination key : κ} (hsource : key ≠ source)
    (hdestination : key ≠ destination) : relocate source destination store key = store key := by
  rw [relocate, Function.update_of_ne hdestination, Function.update_of_ne hsource]

@[simp]
theorem relocate_destination (source destination : κ) :
    relocate source destination store destination = store source :=
  Function.update_self ..

theorem relocate_source {source destination : κ} (h : source ≠ destination) :
    relocate source destination store source = none := by
  rw [relocate, Function.update_of_ne h, Function.update_self]

/-! ### What the moves leave -/

theorem relocateAll_of_ne {key : κ} (h : ∀ place ∈ places, key ≠ place.1 ∧ key ≠ place.2) :
    relocateAll places store key = store key := by
  induction places generalizing store with
  | nil => rfl
  | cons place places ih =>
    have hplace := h place List.mem_cons_self
    have hrest : relocateAll places (relocate place.2 place.1 store) key = _ :=
      ih fun other hother => h other (List.mem_cons_of_mem _ hother)
    exact hrest.trans (relocate_of_ne hplace.2 hplace.1)

theorem relocateAll_place (h : Separate places) {place : κ × κ} (hplace : place ∈ places)
    (store : κ → Option α) :
    relocateAll places store place.1 = store place.2 ∧
      relocateAll places store place.2 = none := by
  induction places generalizing store with
  | nil => cases hplace
  | cons first places ih =>
    obtain ⟨hne, hrest, hothers⟩ := h.cons
    rcases List.mem_cons.mp hplace with rfl | hmem
    · have hfirst : relocateAll places (relocate place.2 place.1 store) place.1 = _ :=
        relocateAll_of_ne fun other hother =>
          ⟨(hothers other hother).1.symm, (hothers other hother).2.2.1.symm⟩
      have hsecond : relocateAll places (relocate place.2 place.1 store) place.2 = _ :=
        relocateAll_of_ne fun other hother =>
          ⟨(hothers other hother).2.1.symm, (hothers other hother).2.2.2.symm⟩
      exact ⟨hfirst.trans (relocate_destination ..), hsecond.trans (relocate_source hne.symm)⟩
    · obtain ⟨-, -, h21, h22⟩ := hothers place hmem
      have hmoved := ih hrest hmem (relocate first.2 first.1 store)
      rw [relocate_of_ne h22 h21] at hmoved
      exact hmoved

/-! ### What moves back -/

variable {may : κ × κ → Bool}

theorem takeBackOne_of_ne {place : κ × κ} {key : κ} (h : key ≠ place.1 ∧ key ≠ place.2) :
    takeBackOne may store place key = store key := by
  rw [takeBackOne]
  split_ifs
  · exact relocate_of_ne h.1 h.2
  · rfl

theorem takeBackOne_place (place : κ × κ) :
    takeBackOne may store place place.2 =
      if (store place.1).isSome && may place then store place.1 else store place.2 := by
  rw [takeBackOne]
  split_ifs
  · exact relocate_destination ..
  · rfl

theorem takeBack_of_ne {key : κ} (h : ∀ place ∈ places, key ≠ place.1 ∧ key ≠ place.2) :
    takeBack may places store key = store key := by
  induction places generalizing store with
  | nil => rfl
  | cons place places ih =>
    have hrest : takeBack may places (takeBackOne may store place) key = _ :=
      ih fun other hother => h other (List.mem_cons_of_mem _ hother)
    exact hrest.trans (takeBackOne_of_ne (h place List.mem_cons_self))

theorem takeBack_place (h : Separate places) {place : κ × κ} (hplace : place ∈ places) :
    takeBack may places store place.2 = takeBackOne may store place place.2 := by
  induction places generalizing store with
  | nil => cases hplace
  | cons first places ih =>
    obtain ⟨-, hrest, hothers⟩ := h.cons
    rcases List.mem_cons.mp hplace with rfl | hmem
    · exact takeBack_of_ne fun other hother =>
        ⟨(hothers other hother).2.1.symm, (hothers other hother).2.2.2.symm⟩
    · obtain ⟨h11, h12, h21, h22⟩ := hothers place hmem
      have hback : takeBack may places (takeBackOne may store first) place.2 = _ := ih hrest hmem
      have hfirst : takeBackOne may store first place.1 = store place.1 :=
        takeBackOne_of_ne ⟨h11, h12⟩
      have hsecond : takeBackOne may store first place.2 = store place.2 :=
        takeBackOne_of_ne ⟨h21, h22⟩
      refine hback.trans ?_
      rw [takeBackOne_place, takeBackOne_place, hfirst, hsecond]

/-- A value that was moved is back if and only if it may move back. -/
theorem takeBack_place_iff (h : Separate places) {place : κ × κ} (hplace : place ∈ places)
    {value : α} (hfirst : store place.1 = some value) (hsecond : store place.2 = none) :
    takeBack may places.reverse store place.2 = some value ↔ may place = true := by
  rw [takeBack_place h.reverse (List.mem_reverse.mpr hplace), takeBackOne_place, hfirst, hsecond,
    Option.isSome_some, Bool.true_and]
  split_ifs with hmay
  · exact iff_of_true rfl hmay
  · exact iff_of_false (fun hnone => nomatch hnone) hmay

end DshOrbit.Lib
