import Mathlib.Algebra.Group.Nat.Defs
import Mathlib.Data.Rat.Defs
import Mathlib.Data.List.Basic

/-!
# JSON values

Values as `JSON.parse` returns them, with the coercions a program applies to a
value whose shape it has not checked.

## Main definitions

- `Json` — a parsed value; a number is the rational it denotes
- `Json.field` — a property read, `none` for `undefined`
- `Json.toText`, `Json.stringify` — the texts `String(value)` and `JSON.stringify(value)`
-/

namespace DshOrbit.Lib

inductive Json
  | null
  | bool (value : Bool)
  | num (value : ℚ)
  | str (value : String)
  | arr (items : List Json)
  | obj (fields : List (String × Json))

namespace Json

/-- `value[name]`; `none` where it is `undefined`. The last of two equal names
counts. -/
def field (name : String) : Json → Option Json
  | .obj fields => (fields.reverse.find? fun entry => entry.1 == name).map (·.2)
  | _ => none

/-- `typeof value === "string"`. -/
def str? : Json → Option String
  | .str value => some value
  | _ => none

/-- `typeof value === "boolean"`. -/
def bool? : Json → Option Bool
  | .bool value => some value
  | _ => none

def arr? : Json → Option (List Json)
  | .arr items => some items
  | _ => none

end Json

/-! ### Texts of values -/

def hexDigit (n : ℕ) : Char := if n < 10 then Char.ofNat (48 + n) else Char.ofNat (87 + n)

/-- One character of a JSON string literal. -/
def escapeChar (c : Char) : List Char :=
  let n := c.toNat
  if n = 0x22 then ['\\', '"']
  else if n = 0x5C then ['\\', '\\']
  else if n = 0x08 then ['\\', 'b']
  else if n = 0x09 then ['\\', 't']
  else if n = 0x0A then ['\\', 'n']
  else if n = 0x0C then ['\\', 'f']
  else if n = 0x0D then ['\\', 'r']
  else if n < 0x20 then ['\\', 'u', '0', '0', hexDigit (n / 16), hexDigit (n % 16)]
  else [c]

/-- `JSON.stringify` of a string. -/
def quoteJson (s : String) : String :=
  String.ofList (['"'] ++ s.toList.flatMap escapeChar ++ ['"'])

/-- The text of a number: plain decimal digits for an integer below `10^21`. For
any other number the text is not made of digits alone, which is all that is kept
of it here. -/
def numberText (value : ℚ) : String :=
  if value.den = 1 ∧ value.num.natAbs < 10 ^ 21 then toString value.num
  else toString value.num ++ "/" ++ toString value.den

mutual

/-- `String(value)`; an object has no text of its own. -/
def Json.toText : Json → String
  | .null => "null"
  | .bool value => if value then "true" else "false"
  | .num value => numberText value
  | .str value => value
  | .arr items => String.intercalate "," (joinTexts items)
  | .obj _ => "[object Object]"

/-- The texts `join` takes from the elements of an array: none from `null`. -/
def joinTexts : List Json → List String
  | [] => []
  | .null :: rest => "" :: joinTexts rest
  | item :: rest => item.toText :: joinTexts rest

end

mutual

/-- `JSON.stringify(value)`. -/
def Json.stringify : Json → String
  | .null => "null"
  | .bool value => if value then "true" else "false"
  | .num value => numberText value
  | .str value => quoteJson value
  | .arr items => "[" ++ String.intercalate "," (stringifyItems items) ++ "]"
  | .obj fields => "\x7b" ++ String.intercalate "," (stringifyFields fields) ++ "\x7d"

def stringifyItems : List Json → List String
  | [] => []
  | item :: rest => item.stringify :: stringifyItems rest

def stringifyFields : List (String × Json) → List String
  | [] => []
  | (name, value) :: rest => (quoteJson name ++ ":" ++ value.stringify) :: stringifyFields rest

end

/-- `${JSON.stringify(value)}` in a template, where the value may be `undefined`. -/
def stringifyText : Option Json → String
  | none => "undefined"
  | some value => value.stringify

/-- `[value].join()`: empty for `undefined` and for `null`. -/
def joinText : Option Json → String
  | none => ""
  | some .null => ""
  | some value => value.toText

end DshOrbit.Lib
