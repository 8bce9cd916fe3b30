import DshOrbit.Lib.JsString

/-!
# Regular expressions

Backtracking matchers as JavaScript runs them: alternatives are tried in order, a greedy
repetition takes as much as it can and a lazy one as little, and the first match counts.

## Main definitions

- `Regex.run` — a match that goes on with a continuation
- `Regex.occurs`, `Regex.replaceAll` — `test`, and `replace` with the flag `g`
- `Regex.matchGroup` — what a group of the first match captures
-/

namespace DshOrbit.Lib

/-- A position in a text: the characters before it in reverse, those after it, and what the
groups have captured. -/
structure Cursor where
  before : List Char
  rest : List Char
  groups : List (ℕ × List Char) := []

inductive Regex
  | empty
  | char (p : Char → Bool)
  | seq (first second : Regex)
  | alt (first second : Regex)
  | star (greedy : Bool) (body : Regex)
  | group (index : ℕ) (body : Regex)
  | wordBoundary
  | notAhead (body : Regex)

def isWordChar (c : Char) : Bool :=
  isDigitChar c || ('a' ≤ c && c ≤ 'z') || ('A' ≤ c && c ≤ 'Z') || c == '_'

namespace Regex

/-- A repetition; an iteration must take a character. -/
def repeatWith (body : Cursor → (Cursor → Option Cursor) → Option Cursor) (greedy : Bool) :
    ℕ → Cursor → (Cursor → Option Cursor) → Option Cursor
  | 0, cursor, k => k cursor
  | fuel + 1, cursor, k =>
    let more := fun _ : Unit => body cursor fun next =>
      if next.rest.length < cursor.rest.length then repeatWith body greedy fuel next k else none
    if greedy then (more ()).orElse fun _ => k cursor else (k cursor).orElse more

/-- A match from a position, with what has to match after it. -/
def run : Regex → Cursor → (Cursor → Option Cursor) → Option Cursor
  | .empty, cursor, k => k cursor
  | .char p, cursor, k =>
    match cursor.rest with
    | [] => none
    | c :: rest =>
      if p c then k { cursor with before := c :: cursor.before, rest := rest } else none
  | .seq first second, cursor, k => first.run cursor fun next => second.run next k
  | .alt first second, cursor, k => (first.run cursor k).orElse fun _ => second.run cursor k
  | .star greedy body, cursor, k => repeatWith body.run greedy (cursor.rest.length + 1) cursor k
  | .group index body, cursor, k =>
    body.run cursor fun next =>
      let captured := cursor.rest.take (cursor.rest.length - next.rest.length)
      k { next with groups := (index, captured) :: next.groups }
  | .wordBoundary, cursor, k =>
    if (cursor.before.head?.any isWordChar) != (cursor.rest.head?.any isWordChar) then k cursor
    else none
  | .notAhead body, cursor, k => if (body.run cursor some).isSome then none else k cursor

/-- What replaces a match: texts and captured groups. -/
inductive Piece
  | text (chars : List Char)
  | captured (index : ℕ)

def Piece.expand (groups : List (ℕ × List Char)) : Piece → List Char
  | .text chars => chars
  | .captured index => ((groups.find? fun entry => entry.1 == index).map (·.2)).getD []

def replaceFrom (r : Regex) (template : List Piece) : ℕ → List Char → List Char → List Char
  | 0, _, rest => rest
  | fuel + 1, before, rest =>
    match rest with
    | [] => []
    | c :: tail =>
      match r.run { before := before, rest := rest } some with
      | some next =>
        if next.rest.length < rest.length then
          template.flatMap (Piece.expand next.groups) ++
            replaceFrom r template fuel next.before next.rest
        else c :: replaceFrom r template fuel (c :: before) tail
      | none => c :: replaceFrom r template fuel (c :: before) tail

def occursFrom (r : Regex) : List Char → List Char → Bool
  | before, [] => (r.run { before := before, rest := [] } some).isSome
  | before, c :: rest =>
    (r.run { before := before, rest := c :: rest } some).isSome ||
      occursFrom r (c :: before) rest

/-- The first match at or after a position. -/
def findFrom (r : Regex) : List Char → List Char → Option Cursor
  | before, [] => r.run { before := before, rest := [] } some
  | before, c :: rest =>
    (r.run { before := before, rest := c :: rest } some).or (findFrom r (c :: before) rest)

/-- A group of the first match: `text.match(r)?.[index]`. -/
def matchGroup (r : Regex) (index : ℕ) (chars : List Char) : Option (List Char) :=
  (findFrom r [] chars).bind fun cursor =>
    (cursor.groups.find? fun entry => entry.1 == index).map (·.2)

/-- `r.test(text)`. -/
def occurs (r : Regex) (chars : List Char) : Bool := occursFrom r [] chars

/-- `text.replace(r, template)` with the flag `g`. -/
def replaceAll (r : Regex) (template : List Piece) (chars : List Char) : List Char :=
  replaceFrom r template (chars.length + 1) [] chars

/-! ### Combinators -/

def charIn (chars : List Char) (c : Char) : Bool := chars.contains c

/-- Letters match in either case, as with the flag `i`. -/
def anyCase (p : Char → Bool) (c : Char) : Bool :=
  p c || p c.toLower || p c.toUpper

def literal (chars : List Char) : Regex :=
  chars.foldr (fun c r => .seq (.char (· == c)) r) .empty

/-- A literal text under the flag `i`. -/
def literalAnyCase (chars : List Char) : Regex :=
  chars.foldr (fun c r => .seq (.char (anyCase (· == c))) r) .empty

def sequence (parts : List Regex) : Regex := parts.foldr .seq .empty

/-- Alternatives in order, at least one of them. -/
def choice (first : Regex) (others : List Regex) : Regex := others.foldl .alt first

def many (p : Char → Bool) : Regex := .star true (.char p)

def many1 (p : Char → Bool) : Regex := .seq (.char p) (many p)

def optional (r : Regex) : Regex := .alt r .empty

/-- `p{n,}`. -/
def atLeast (n : ℕ) (p : Char → Bool) : Regex :=
  sequence (List.replicate n (.char p) ++ [many p])

end Regex

end DshOrbit.Lib
