import Mathlib.Data.List.DropRight
import Mathlib.Data.List.Basic
import Mathlib.Data.Nat.Notation

/-!
# String operations of the JavaScript standard library

The operations on strings that a JavaScript program gets from its standard
library, over Lean strings. Strings are sequences of Unicode scalar values: an
unpaired surrogate has no counterpart here.

## Main definitions

- `trim`, `toLowerCase`, `splitFirst` — the operations of the same name
- `isDigits`, `matchesHex` — the anchored patterns `^\d+$` and `^[0-9a-f]{n}$`
- `ofDigits` — the number a decimal text denotes
-/

namespace DshOrbit.Lib

/-! ### Trimming and letter case -/

/-- White space and line terminators, as `trim` removes them. -/
def isJsWhitespace (c : Char) : Bool :=
  let n := c.toNat
  (9 ≤ n && n ≤ 13) || n == 0x20 || n == 0xA0 || n == 0x1680 || (0x2000 ≤ n && n ≤ 0x200A) ||
    n == 0x2028 || n == 0x2029 || n == 0x202F || n == 0x205F || n == 0x3000 || n == 0xFEFF

def trimChars (chars : List Char) : List Char :=
  ((chars.dropWhile isJsWhitespace).reverse.dropWhile isJsWhitespace).reverse

def trim (s : String) : String := String.ofList (trimChars s.toList)

/-- The lower case of ASCII and Latin-1 letters and of the Kelvin sign, the one
other character whose lower case is ASCII. Every other letter maps to itself,
which no comparison with an ASCII text can see. -/
def lowerChar (c : Char) : Char :=
  let n := c.toNat
  if 65 ≤ n && n ≤ 90 then Char.ofNat (n + 32)
  else if 0xC0 ≤ n && n ≤ 0xDE && n != 0xD7 then Char.ofNat (n + 32)
  else if n == 0x212A then 'k'
  else c

def toLowerCase (s : String) : String := String.ofList (s.toList.map lowerChar)

theorem toNat_charOfNat {n : ℕ} (h : n < 0xD800) : (Char.ofNat n).toNat = n := by
  rw [Char.ofNat, dif_pos (.inl h)]
  rfl

/-- What changes in lower case becomes a letter. -/
theorem lowerChar_eq {c d : Char} (h : lowerChar c = d) (hd : d.toNat < 97) : c = d := by
  subst h
  simp only [lowerChar, Bool.and_eq_true, decide_eq_true_iff] at hd ⊢
  split_ifs at hd ⊢ with hcapital hlatin hkelvin
  · rw [toNat_charOfNat (by omega)] at hd
    omega
  · rw [toNat_charOfNat (by omega)] at hd
    omega
  · exact absurd hd (by decide)
  · rfl

/-! ### Splitting -/

/-- `s.split(separator)[0]` for a separator of one character. -/
def splitFirst (separator : Char) (s : String) : String :=
  String.ofList (s.toList.takeWhile (· ≠ separator))

/-- `s.includes(part)` over character lists. -/
def includesChars (part : List Char) : List Char → Bool
  | [] => part.isEmpty
  | c :: rest => part.isPrefixOf (c :: rest) || includesChars part rest

/-! ### Patterns -/

def isDigitChar (c : Char) : Bool := '0' ≤ c && c ≤ '9'

def isLowerHexChar (c : Char) : Bool := isDigitChar c || ('a' ≤ c && c ≤ 'f')

/-- The pattern `^[0-9a-f]{n}$`. -/
def matchesHex (n : ℕ) (s : String) : Bool :=
  s.toList.length == n && s.toList.all isLowerHexChar

/-- The pattern `^\d+$`. -/
def isDigits (s : String) : Bool := !s.toList.isEmpty && s.toList.all isDigitChar

/-- `Number(s)` of a text of decimal digits. -/
def ofDigits (s : String) : ℕ :=
  s.toList.foldl (fun value c => value * 10 + (c.toNat - '0'.toNat)) 0

/-! ### Trimmed texts -/

theorem trimChars_eq (chars : List Char) :
    trimChars chars = (chars.dropWhile isJsWhitespace).rdropWhile isJsWhitespace := rfl

theorem trimChars_subset (chars : List Char) : trimChars chars ⊆ chars := by
  rw [trimChars_eq]
  exact List.Subset.trans (List.rdropWhile_prefix isJsWhitespace _).subset
    (List.dropWhile_suffix isJsWhitespace).subset

/-- A trimmed text does not begin with a blank. -/
theorem dropWhile_trimChars (chars : List Char) :
    (trimChars chars).dropWhile isJsWhitespace = trimChars chars := by
  rw [List.dropWhile_eq_self_iff]
  intro hlength hblank
  have hinitial : trimChars chars <+: chars.dropWhile isJsWhitespace :=
    trimChars_eq chars ▸ List.rdropWhile_prefix isJsWhitespace _
  have hfirst := List.dropWhile_eq_self_iff.mp (List.dropWhile_idempotent isJsWhitespace chars)
    (lt_of_lt_of_le hlength hinitial.length_le)
  rw [hinitial.getElem hlength] at hblank
  exact hfirst hblank

/-- Trimming twice is trimming once. -/
theorem trimChars_trimChars (chars : List Char) : trimChars (trimChars chars) = trimChars chars := by
  rw [trimChars_eq (trimChars chars), dropWhile_trimChars, trimChars_eq]
  exact List.rdropWhile_idempotent isJsWhitespace _

theorem trimChars_cons_blank {c : Char} (h : isJsWhitespace c = true) (chars : List Char) :
    trimChars (c :: chars) = trimChars chars := by
  rw [trimChars, List.dropWhile_cons_of_pos h]
  rfl

/-- A text without blanks is not changed. -/
theorem trimChars_eq_self {chars : List Char} (h : ∀ c ∈ chars, isJsWhitespace c = false) :
    trimChars chars = chars := by
  have hdrop : ∀ l : List Char, (∀ c ∈ l, isJsWhitespace c = false) →
      l.dropWhile isJsWhitespace = l := by
    intro l hl
    cases l with
    | nil => rfl
    | cons c rest => rw [List.dropWhile_cons_of_neg (by rw [hl c (List.mem_cons_self ..)]; decide)]
  rw [trimChars, hdrop _ h, hdrop _ fun c hc => h c (List.mem_reverse.mp hc), List.reverse_reverse]

theorem trim_ofList (chars : List Char) :
    trim (String.ofList chars) = String.ofList (trimChars chars) := by
  rw [trim, String.toList_ofList]

theorem toLowerCase_ofList (chars : List Char) :
    toLowerCase (String.ofList chars) = String.ofList (chars.map lowerChar) := by
  rw [toLowerCase, String.toList_ofList]

theorem matchesHex_ofList (n : ℕ) (chars : List Char) :
    matchesHex n (String.ofList chars) = (chars.length == n && chars.all isLowerHexChar) := by
  rw [matchesHex, String.toList_ofList]

theorem ofDigits_ofList (chars : List Char) :
    ofDigits (String.ofList chars) =
      chars.foldl (fun value c => value * 10 + (c.toNat - '0'.toNat)) 0 := by
  rw [ofDigits, String.toList_ofList]

example : trim " \t a b\n" = "a b" := (trim_ofList _).trans (by decide)

theorem matchesHex_length {n : ℕ} {s : String} (h : matchesHex n s = true) :
    s.toList.length = n := by
  simp only [matchesHex, Bool.and_eq_true, beq_iff_eq] at h
  exact h.1

theorem ne_empty_of_matchesHex {n : ℕ} {s : String} (h : matchesHex (n + 1) s = true) : s ≠ "" := by
  rintro rfl
  exact absurd (matchesHex_length h) (by simp)

end DshOrbit.Lib
