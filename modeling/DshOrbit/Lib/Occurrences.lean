import Mathlib.Data.List.Infix
import Mathlib.Tactic.Common
import Mathlib.Data.Nat.Notation

/-!
# Occurrences of a pattern in a text

How often a pattern occurs in a text that is put together of parts: no occurrence is lost or made at
a boundary that the pattern cannot cross.

## Main definitions

- `occurrences` — the number of places at which a pattern starts
- `Apart` — no occurrence begins before a text and goes on into it
- `spell` — the characters of texts that are written one after the other

## Main results

- `occurrences_append` — the occurrences in two parts
- `infix_append` — an occurrence lies in one of two parts
-/

namespace DshOrbit.Lib

universe u

variable {α : Type u} {pattern : List α}

/-! ### Where an occurrence lies -/

/-- No occurrence of the pattern begins before `right` and goes on into it. -/
def Apart (pattern right : List α) : Prop :=
  ∀ k < pattern.length, 0 < k → ¬pattern.drop k <+: right ∧ ¬right <+: pattern.drop k

/-- A first symbol that the pattern has at no later place. -/
theorem apart_singleton {c : α} (h : c ∉ pattern.tail) : Apart pattern [c] := by
  intro k hk hpos
  have hne : pattern.drop k ≠ [] := by
    rw [ne_eq, List.drop_eq_nil_iff]
    omega
  obtain ⟨first, rest, hdrop⟩ := List.exists_cons_of_ne_nil hne
  have hmem : first ∈ pattern.tail := by
    obtain ⟨j, rfl⟩ := Nat.exists_eq_add_of_le' hpos
    rw [← List.drop_one]
    have hsuffix : (pattern.drop 1).drop j <:+ pattern.drop 1 := List.drop_suffix ..
    rw [List.drop_drop, Nat.add_comm 1 j, hdrop] at hsuffix
    exact hsuffix.subset List.mem_cons_self
  rw [hdrop]
  constructor <;>
  · intro hstarts
    have heq := (List.cons_prefix_cons.mp hstarts).1
    exact h (heq ▸ hmem)

/-- Where the pattern cannot cross, a text that begins with it has it before. -/
theorem Apart.prefix_append {right left rest : List α} (h : Apart pattern right)
    (hleft : left ≠ []) (hstarts : pattern <+: left ++ (right ++ rest)) : pattern <+: left := by
  by_cases hlength : pattern.length ≤ left.length
  · exact List.prefix_of_prefix_length_le hstarts (List.prefix_append ..) hlength
  · rw [not_le] at hlength
    exfalso
    have hback : left <+: pattern :=
      List.prefix_of_prefix_length_le (List.prefix_append ..) hstarts hlength.le
    obtain ⟨tail, rfl⟩ := hback
    have htail : tail <+: right ++ rest := (List.prefix_append_right_inj left).mp hstarts
    have hdrop := h left.length hlength (List.length_pos_iff.mpr hleft)
    rw [List.drop_left] at hdrop
    rcases List.prefix_or_prefix_of_prefix htail (List.prefix_append right rest) with hin | hin
    · exact hdrop.1 hin
    · exact hdrop.2 hin

/-- An occurrence that cannot cross into the second part lies in one of the two. -/
theorem infix_append {right : List α} (h : Apart pattern right) {left rest : List α}
    (hin : pattern <:+: left ++ (right ++ rest)) :
    pattern <:+: left ∨ pattern <:+: right ++ rest := by
  induction left with
  | nil => exact .inr hin
  | cons c left ih =>
    rcases List.infix_cons_iff.mp hin with hstarts | hlater
    · have hstart : pattern <+: c :: left := h.prefix_append nofun hstarts
      exact .inl hstart.isInfix
    · exact (ih hlater).imp (List.infix_cons ·) id

/-! ### Counting occurrences -/

variable [DecidableEq α]

instance (pattern right : List α) : Decidable (Apart pattern right) :=
  inferInstanceAs (Decidable (∀ k < pattern.length, 0 < k → _))

/-- The number of places of the text at which the pattern starts. -/
def occurrences (pattern : List α) : List α → ℕ
  | [] => 0
  | c :: rest => (if pattern <+: c :: rest then 1 else 0) + occurrences pattern rest

/-- The occurrences in two parts, where the pattern cannot cross into the second. -/
theorem occurrences_append {right : List α} (h : Apart pattern right) (left rest : List α) :
    occurrences pattern (left ++ (right ++ rest)) =
      occurrences pattern left + occurrences pattern (right ++ rest) := by
  induction left with
  | nil => simp [occurrences]
  | cons c left ih =>
    have hiff : pattern <+: c :: left ++ (right ++ rest) ↔ pattern <+: c :: left :=
      ⟨h.prefix_append nofun, fun hstarts => hstarts.trans (List.prefix_append ..)⟩
    rw [List.cons_append, occurrences, occurrences, ih, ← List.cons_append, Nat.add_assoc]
    simp only [hiff]

/-- A part that has the first symbol of the pattern nowhere has no occurrence. -/
theorem occurrences_append_of_not_mem {c : α} {rest part : List α} (h : c ∉ part) (right : List α) :
    occurrences (c :: rest) (part ++ right) = occurrences (c :: rest) right := by
  induction part with
  | nil => rfl
  | cons d part ih =>
    have hne : ¬(c :: rest) <+: d :: (part ++ right) := fun hstarts =>
      h ((List.cons_prefix_cons.mp hstarts).1 ▸ List.mem_cons_self)
    rw [List.cons_append, occurrences, if_neg hne, ih fun hmem => h (List.mem_cons_of_mem _ hmem),
      Nat.zero_add]

/-! ### Texts in characters -/

/-- The characters of some texts, one after the other. -/
def spell (texts : List String) : List Char := texts.flatMap String.toList

theorem spell_singleton {text : String} {chars : List Char} (h : text = String.ofList chars) :
    spell [text] = chars := by
  rw [spell, List.flatMap_singleton, h, String.toList_ofList]

theorem spell_append (first second : List String) :
    spell (first ++ second) = spell first ++ spell second := List.flatMap_append

/-- What a literal denotes is compared as a list of characters, without decoding it. -/
theorem spell_cons {text : String} {texts : List String} {first rest : List Char}
    (h : text = String.ofList first) (hrest : spell texts = rest) :
    spell (text :: texts) = first ++ rest := by
  rw [← hrest, spell, List.flatMap_cons, h, String.toList_ofList, spell]

end DshOrbit.Lib
