import DshOrbit.Lib.Bytes
import DshOrbit.Lib.JsString
import Mathlib.Data.List.DropRight

/-!
# URLs

The basic URL parser of the WHATWG URL standard for an input and a base whose scheme is `http`
and whose path is the root, as `new URL(input, "http://host")` runs it, with what is read of the
result: the path name and the query. The host parser is a parameter that says which hosts are
accepted.

The parser cuts the query and the fragment off first. In every state of the standard that reads
the part before them, a `?` or `#` ends that part as the end of the input does.

## Main definitions

- `cleanInput` — the input without the characters that the parser drops
- `resolvePath` — the segments of a path, with dot segments resolved
- `parseUrl` — the parser; none is a failure
- `Url.searchParamsSize` — `url.searchParams.size`

## Main results

- `parseUrl_ordinary` — a path of ordinary characters is kept but for its encoding
- `parseUrl_of_isPlainTarget` — the path of a plain target is the target, percent-encoded
- `percentEncode_eq_self` — what is changed by the encoding holds a percent sign
-/

namespace DshOrbit.Lib

/-- The result of the parser. -/
structure Url where
  pathname : List Char
  query : Option (List Char)
  deriving DecidableEq, Repr

/-- `url.searchParams.size`: the pieces between `&` that are not empty. -/
def Url.searchParamsSize (url : Url) : ℕ :=
  (((url.query.getD []).splitOn '&').filter fun piece => piece ≠ []).length

/-! ### Characters -/

def isLetterChar (c : Char) : Bool := ('a' ≤ c && c ≤ 'z') || ('A' ≤ c && c ≤ 'Z')

/-- A C0 control or a space. -/
def isControlOrSpace (c : Char) : Bool := c.toNat ≤ 0x20

def isTabOrNewline (c : Char) : Bool := c == '\t' || c == '\n' || c == '\r'

def isSchemeChar (c : Char) : Bool :=
  isLetterChar c || isDigitChar c || c == '+' || c == '-' || c == '.'

/-- A slash; in a special URL a backslash is one as well. -/
def isSlash (special : Bool) (c : Char) : Bool := c == '/' || (special && c == '\\')

/-- The path percent-encode set. -/
def isPathEncoded (c : Char) : Bool :=
  c.toNat ≤ 0x20 || 0x7E < c.toNat ||
    ['"', '#', '<', '>', '?', '^', '\x60', '\x7b', '\x7d'].contains c

/-- The C0 control percent-encode set. -/
def isControlEncoded (c : Char) : Bool := c.toNat ≤ 0x1F || 0x7E < c.toNat

def upperHexDigit (n : ℕ) : Char := if n < 10 then Char.ofNat (48 + n) else Char.ofNat (55 + n)

/-- UTF-8 percent-encoding of the characters of a set. -/
def percentEncode (encodes : Char → Bool) (text : List Char) : List Char :=
  text.flatMap fun c =>
    if encodes c then
      (utf8Bytes (String.ofList [c])).flatMap fun byte =>
        ['%', upperHexDigit (byte.toNat / 16), upperHexDigit (byte.toNat % 16)]
    else [c]

/-! ### Paths -/

def isSingleDot (segment : List Char) : Bool :=
  [['.'], ['%', '2', 'e']].contains (segment.map lowerChar)

def isDoubleDot (segment : List Char) : Bool :=
  [['.', '.'], ['.', '%', '2', 'e'], ['%', '2', 'e', '.'],
    ['%', '2', 'e', '%', '2', 'e']].contains (segment.map lowerChar)

/-- A Windows drive letter. -/
def isDriveLetter : List Char → Bool
  | [letter, mark] => isLetterChar letter && (mark == ':' || mark == '|')
  | _ => false

/-- The path without its last segment; a file path keeps its drive letter. -/
def shortenPath (file : Bool) (path : List (List Char)) : List (List Char) :=
  match path with
  | [[letter, ':']] => if file && isLetterChar letter then path else []
  | _ => path.dropLast

/-- The path with another segment, where the first of a file path may be a drive letter. -/
def appendSegment (file : Bool) (path : List (List Char)) (segment : List Char) :
    List (List Char) :=
  if file && path.isEmpty && isDriveLetter segment then [segment.take 1 ++ [':']]
  else path ++ [percentEncode isPathEncoded segment]

/-- The path state: the segments one after the other. The last one is ended by no slash. -/
def resolvePath (file : Bool) : List (List Char) → List (List Char) → List (List Char)
  | path, [] => path
  | path, [last] =>
    if isDoubleDot last then shortenPath file path ++ [[]]
    else if isSingleDot last then path ++ [[]]
    else appendSegment file path last
  | path, segment :: rest =>
    if isDoubleDot segment then resolvePath file (shortenPath file path) rest
    else if isSingleDot segment then resolvePath file path rest
    else resolvePath file (appendSegment file path segment) rest

/-- The path state at the text after a slash, or at the beginning of a relative path. -/
def readPath (special file : Bool) (text : List Char) : List (List Char) :=
  resolvePath file [] (text.splitOnP (isSlash special))

/-- The URL path serializer. -/
def pathText (path : List (List Char)) : List Char := path.flatMap fun segment => '/' :: segment

/-! ### Authorities -/

variable (acceptsHost : Bool → List Char → Bool)

/-- The host up to a colon that is not in brackets, and the port after it. -/
def splitHostPort (inBrackets : Bool) : List Char → List Char × Option (List Char)
  | [] => ([], none)
  | c :: rest =>
    if c = ':' ∧ !inBrackets then ([], some rest)
    else
      let (host, port) := splitHostPort (if c = '[' then true else c ≠ ']' && inBrackets) rest
      (c :: host, port)

def isPort (port : List Char) : Bool :=
  port.all isDigitChar && ofDigits (String.ofList port) ≤ 65535

/-- The states of the authority, the host and the port. -/
def acceptsAuthority (special : Bool) (authority : List Char) : Bool :=
  let hostPort := authority.rtakeWhile (· ≠ '@')
  if authority.contains '@' && hostPort.isEmpty then false
  else
    match splitHostPort false hostPort with
    | ([], none) => !special
    | ([], some _) => false
    | (host, none) => acceptsHost special host
    | (host, some port) => acceptsHost special host && isPort port

/-- The path start state. -/
def startPath (special file : Bool) (text : List Char) : List (List Char) :=
  match text with
  | [] => if special then readPath special file [] else []
  | _ :: rest => readPath special file rest

/-- An authority and the path after it. -/
def readAuthority (special : Bool) (text : List Char) : Option (List Char) :=
  if acceptsAuthority acceptsHost special (text.takeWhile fun c => !isSlash special c) then
    some (pathText (startPath special false (text.dropWhile fun c => !isSlash special c)))
  else none

/-! ### Schemes -/

def specialSchemes : List String := ["ftp", "http", "https", "ws", "wss"]

/-- The scheme in lower case, and what comes after its colon. -/
def splitScheme (text : List Char) : Option (List Char × List Char) :=
  match text with
  | [] => none
  | first :: _ =>
    match text.dropWhile isSchemeChar with
    | ':' :: rest =>
      if isLetterChar first then some ((text.takeWhile isSchemeChar).map lowerChar, rest) else none
    | _ => none

/-- The relative states under the base. -/
def readRelative (text : List Char) : Option (List Char) :=
  match text with
  | [] => some ['/']
  | first :: rest =>
    if isSlash true first then
      if (rest.head?.any (isSlash true)) then
        readAuthority acceptsHost true (rest.dropWhile (isSlash true))
      else some (pathText (readPath true false rest))
    else some (pathText (readPath true false text))

/-- The file states. -/
def readFile (text : List Char) : Option (List Char) :=
  match text with
  | first :: rest =>
    if isSlash true first then
      match rest with
      | second :: tail =>
        if isSlash true second then
          let host := tail.takeWhile fun c => !isSlash true c
          if isDriveLetter host then some (pathText (readPath true true tail))
          else if host.isEmpty || acceptsHost true host then
            some (pathText (startPath true true (tail.dropWhile fun c => !isSlash true c)))
          else none
        else some (pathText (readPath true true rest))
      | [] => some (pathText (readPath true true []))
    else some (pathText (readPath true true text))
  | [] => some (pathText (readPath true true []))

/-- The states after a scheme that is not special. The path of a URL without a slash after its
scheme is one text. -/
def readGeneric (text : List Char) : Option (List Char) :=
  match text with
  | '/' :: '/' :: rest => readAuthority acceptsHost false rest
  | '/' :: rest => some (pathText (readPath false false rest))
  | _ => some (percentEncode isControlEncoded text)

/-- The path name of an input without query and fragment. -/
def readPathname (text : List Char) : Option (List Char) :=
  match splitScheme text with
  | none => readRelative acceptsHost text
  | some (scheme, rest) =>
    if scheme = "file".toList then readFile acceptsHost rest
    else if scheme = "http".toList then
      match rest with
      | '/' :: '/' :: _ => readAuthority acceptsHost true (rest.dropWhile (isSlash true))
      | _ => readRelative acceptsHost rest
    else if specialSchemes.any (fun special => scheme == special.toList) then
      readAuthority acceptsHost true (rest.dropWhile (isSlash true))
    else readGeneric acceptsHost rest

/-! ### The parser -/

/-- The input without what the parser drops. -/
def cleanInput (input : List Char) : List Char :=
  ((input.dropWhile isControlOrSpace).rdropWhile isControlOrSpace).filter fun c => !isTabOrNewline c

def isTail (c : Char) : Bool := c == '?' || c == '#'

/-- The query of an input, after its first question mark and up to the fragment. -/
def queryOf (text : List Char) : Option (List Char) :=
  match text.dropWhile fun c => !isTail c with
  | '?' :: rest => some (rest.takeWhile (· ≠ '#'))
  | _ => none

def parseUrl (input : List Char) : Option Url :=
  let text := cleanInput input
  (readPathname acceptsHost (text.takeWhile fun c => !isTail c)).map fun pathname =>
    { pathname, query := queryOf text }

/-! ### Ordinary paths -/

/-- A character that no state of the parser treats in a way of its own. A path may still hold it
percent-encoded. -/
def isOrdinaryChar (c : Char) : Bool :=
  !isControlOrSpace c && !isTail c && c != '/' && c != '\\' && c != '.' && c != '%'

variable {acceptsHost : Bool → List Char → Bool} {c : Char} {segment text : List Char}

theorem control_of_ordinary (h : isOrdinaryChar c = true) : isControlOrSpace c = false := by
  simp only [isOrdinaryChar, Bool.and_eq_true, Bool.not_eq_true'] at h
  exact h.1.1.1.1.1

theorem tail_of_ordinary (h : isOrdinaryChar c = true) : isTail c = false := by
  simp only [isOrdinaryChar, Bool.and_eq_true, Bool.not_eq_true'] at h
  exact h.1.1.1.1.2

theorem ne_of_ordinary (h : isOrdinaryChar c = true) {d : Char} (hd : isOrdinaryChar d = false) :
    c ≠ d := by
  rintro rfl
  rw [h] at hd
  cases hd

theorem slash_of_ordinary (h : isOrdinaryChar c = true) (special : Bool) :
    isSlash special c = false := by
  simp only [isSlash, Bool.or_eq_false_iff, Bool.and_eq_false_iff, beq_eq_false_iff_ne]
  exact ⟨ne_of_ordinary h (by decide), .inr (ne_of_ordinary h (by decide))⟩

/-- Tabs and line ends are controls. -/
theorem tab_of_control (h : isControlOrSpace c = false) : isTabOrNewline c = false := by
  simp only [isTabOrNewline, Bool.or_eq_false_iff, beq_eq_false_iff_ne]
  refine ⟨⟨?_, ?_⟩, ?_⟩
  all_goals
    rintro rfl
    exact absurd h (by decide)

/-- A segment of ordinary characters is no dot segment, as every dot segment begins with a dot or
a percent sign. -/
theorem dots_of_ordinary (h : ∀ c ∈ segment, isOrdinaryChar c = true) :
    isSingleDot segment = false ∧ isDoubleDot segment = false := by
  have hne : ∀ list : List (List Char),
      list.all (fun dots => dots.head?.any fun c => c == '.' || c == '%') = true →
      list.contains (segment.map lowerChar) = false := by
    intro list hlist
    rw [Bool.eq_false_iff]
    intro hmem
    have hdots := List.all_eq_true.mp hlist _ (List.contains_iff_mem.mp hmem)
    rw [List.head?_map] at hdots
    cases segment with
    | nil => cases hdots
    | cons c rest =>
      have hordinary := h c List.mem_cons_self
      have hmark : lowerChar c = '.' ∨ lowerChar c = '%' := by simpa using hdots
      rcases hmark with hmark | hmark
      · exact ne_of_ordinary hordinary (by decide) (lowerChar_eq hmark (by decide))
      · exact ne_of_ordinary hordinary (by decide) (lowerChar_eq hmark (by decide))
  exact ⟨hne _ (by decide), hne _ (by decide)⟩

theorem resolvePath_ordinary {segments : List (List Char)}
    (h : ∀ segment ∈ segments, ∀ c ∈ segment, isOrdinaryChar c = true) (path : List (List Char)) :
    resolvePath false path segments = path ++ segments.map (percentEncode isPathEncoded) := by
  induction segments generalizing path with
  | nil => rw [resolvePath, List.map_nil, List.append_nil]
  | cons segment rest ih =>
    obtain ⟨hsingle, hdouble⟩ := dots_of_ordinary (h segment List.mem_cons_self)
    have happend : appendSegment false path segment =
        path ++ [percentEncode isPathEncoded segment] := by
      rw [appendSegment, Bool.false_and, Bool.false_and, if_neg Bool.false_ne_true]
    cases rest with
    | nil =>
      rw [resolvePath, hdouble, if_neg Bool.false_ne_true, hsingle, if_neg Bool.false_ne_true,
        happend]
      rfl
    | cons next rest =>
      rw [resolvePath, hdouble, if_neg Bool.false_ne_true, hsingle, if_neg Bool.false_ne_true,
        happend, ih (fun other hother => h other (List.mem_cons_of_mem segment hother)),
        List.append_assoc, List.singleton_append, ← List.map_cons]
      exact List.cons_ne_nil _ _

theorem splitOnP_pathText {special : Bool} {first : List Char} {rest : List (List Char)}
    (h : ∀ segment ∈ first :: rest, ∀ c ∈ segment, isOrdinaryChar c = true) :
    (first ++ pathText rest).splitOnP (isSlash special) = first :: rest := by
  induction rest generalizing first with
  | nil =>
    rw [pathText, List.flatMap_nil, List.append_nil]
    exact List.splitOnP_eq_singleton fun c hc =>
      slash_of_ordinary (h first List.mem_cons_self c hc) special
  | cons next rest ih =>
    rw [pathText, List.flatMap_cons, List.cons_append, ← pathText,
      List.splitOnP_append_cons_of_forall_mem
        (fun c hc => slash_of_ordinary (h first List.mem_cons_self c hc) special) '/'
        (by simp [isSlash]),
      ih fun segment hsegment => h segment (List.mem_cons_of_mem first hsegment)]

/-- A character of an ordinary path. -/
theorem mem_pathText {segments : List (List Char)}
    (h : ∀ segment ∈ segments, ∀ c ∈ segment, isOrdinaryChar c = true) :
    ∀ c ∈ pathText segments, c = '/' ∨ isOrdinaryChar c = true := by
  intro c hc
  obtain ⟨segment, hsegment, hmem⟩ := List.mem_flatMap.mp hc
  rcases List.mem_cons.mp hmem with rfl | hmem
  · exact .inl rfl
  · exact .inr (h segment hsegment c hmem)

theorem cleanInput_eq_self (h : ∀ c ∈ text, isControlOrSpace c = false) :
    cleanInput text = text := by
  have hfront : text.dropWhile isControlOrSpace = text := by
    cases text with
    | nil => rfl
    | cons first rest =>
      apply List.dropWhile_cons_of_neg
      rw [h first List.mem_cons_self]
      exact Bool.false_ne_true
  have hback : text.rdropWhile isControlOrSpace = text := by
    rw [List.rdropWhile_eq_self_iff]
    intro hne
    rw [h _ (List.getLast_mem hne)]
    exact Bool.false_ne_true
  rw [cleanInput, hfront, hback, List.filter_eq_self]
  intro c hc
  rw [tab_of_control (h c hc)]
  rfl

/-- The relative states read an ordinary path after its first slash. -/
theorem readPathname_ordinary {first : List Char} {rest : List (List Char)} (hfirst : first ≠ [])
    (h : ∀ segment ∈ first :: rest, ∀ c ∈ segment, isOrdinaryChar c = true) :
    readPathname acceptsHost (pathText (first :: rest)) =
      some (pathText ((first :: rest).map (percentEncode isPathEncoded))) := by
  have hscheme : splitScheme (pathText (first :: rest)) = none := by
    rw [pathText, List.flatMap_cons, List.cons_append, splitScheme,
      List.dropWhile_cons_of_neg (by decide)]
    rfl
  obtain ⟨head, others, rfl⟩ := List.exists_cons_of_ne_nil hfirst
  have hhead : isSlash true head = false :=
    slash_of_ordinary (h _ List.mem_cons_self head List.mem_cons_self) true
  rw [readPathname, hscheme]
  show readRelative acceptsHost ('/' :: (head :: others ++ pathText rest)) = _
  rw [readRelative, if_pos (by decide), List.cons_append, List.head?_cons, Option.any_some, hhead,
    if_neg Bool.false_ne_true, readPath, ← List.cons_append, splitOnP_pathText h,
    resolvePath_ordinary h, List.nil_append]

/-- An ordinary path, with or without a query or fragment, is kept but for its encoding. -/
theorem parseUrl_ordinary {first : List Char} {rest : List (List Char)} {tail : List Char}
    (hfirst : first ≠ []) (h : ∀ segment ∈ first :: rest, ∀ c ∈ segment, isOrdinaryChar c = true)
    (htail : tail.head?.all isTail = true) (hclean : ∀ c ∈ tail, isControlOrSpace c = false) :
    parseUrl acceptsHost (pathText (first :: rest) ++ tail) =
      some ⟨pathText ((first :: rest).map (percentEncode isPathEncoded)), queryOf tail⟩ := by
  have hpath := mem_pathText h
  have hinput : cleanInput (pathText (first :: rest) ++ tail) = pathText (first :: rest) ++ tail := by
    refine cleanInput_eq_self fun c hc => ?_
    rcases List.mem_append.mp hc with hc | hc
    · rcases hpath c hc with rfl | hordinary
      · decide
      · exact control_of_ordinary hordinary
    · exact hclean c hc
  have hkeep : ∀ c ∈ pathText (first :: rest), (!isTail c) = true := by
    intro c hc
    rcases hpath c hc with rfl | hordinary
    · decide
    · rw [tail_of_ordinary hordinary]
      rfl
  have hstop : tail.takeWhile (fun c => !isTail c) = [] := by
    cases tail with
    | nil => rfl
    | cons c tail =>
      rw [List.head?_cons, Option.all_some] at htail
      exact List.takeWhile_cons_of_neg (by rw [htail]; exact Bool.false_ne_true)
  have hquery : queryOf (pathText (first :: rest) ++ tail) = queryOf tail := by
    rw [queryOf, queryOf, List.dropWhile_append_of_pos hkeep]
  rw [parseUrl, hinput, List.takeWhile_append_of_pos hkeep, hstop, List.append_nil,
    readPathname_ordinary hfirst h, Option.map_some, hquery]

/-! ### Texts without encoding -/

/-- What is encoded holds a percent sign. -/
theorem percentEncode_eq_self {encodes : Char → Bool} (h : '%' ∉ percentEncode encodes text) :
    percentEncode encodes text = text := by
  induction text with
  | nil => rfl
  | cons c rest ih =>
    rw [percentEncode, List.flatMap_cons, ← percentEncode] at h ⊢
    by_cases hc : encodes c = true
    · rw [if_pos hc] at h
      refine absurd (List.mem_append_left _ ?_) h
      have hbytes : utf8Bytes (String.ofList [c]) ≠ [] := utf8Bytes_ne_nil (by simp)
      obtain ⟨byte, bytes, hcons⟩ := List.exists_cons_of_ne_nil hbytes
      rw [hcons, List.flatMap_cons]
      exact List.mem_cons_self
    · rw [if_neg hc] at h ⊢
      rw [ih fun hmem => h (List.mem_append_right _ hmem), List.singleton_append]

theorem percentEncode_append (encodes : Char → Bool) (text other : List Char) :
    percentEncode encodes (text ++ other) = percentEncode encodes text ++ percentEncode encodes other :=
  List.flatMap_append

theorem pathText_percentEncode (segments : List (List Char)) :
    pathText (segments.map (percentEncode isPathEncoded)) =
      percentEncode isPathEncoded (pathText segments) := by
  induction segments with
  | nil => rfl
  | cons segment rest ih =>
    have hslash : percentEncode isPathEncoded ['/'] = ['/'] := by decide
    have hcons : pathText (segment :: rest) = ['/'] ++ (segment ++ pathText rest) := rfl
    rw [hcons, percentEncode_append, percentEncode_append, hslash, ← ih]
    rfl

/-! ### Plain targets -/

/-- A target in origin form without a character that the parser treats in a way of its own, the
slashes apart. -/
def isPlainTarget : List Char → Bool
  | '/' :: first :: rest => isOrdinaryChar first && rest.all fun c => c == '/' || isOrdinaryChar c
  | _ => false

theorem mem_of_isPlainTarget (h : isPlainTarget text = true) :
    ∀ c ∈ text, c = '/' ∨ isOrdinaryChar c = true := by
  unfold isPlainTarget at h
  split at h
  · obtain ⟨hhead, hothers⟩ := Bool.and_eq_true_iff.mp h
    refine List.forall_mem_cons.mpr ⟨.inl rfl, List.forall_mem_cons.mpr ⟨.inr hhead, ?_⟩⟩
    intro c hc
    simpa using List.all_eq_true.mp hothers c hc
  · cases h

theorem not_mem_of_isPlainTarget (h : isPlainTarget text = true) (hslash : c ≠ '/')
    (hc : isOrdinaryChar c = false) : c ∉ text := by
  intro hmem
  rcases mem_of_isPlainTarget h c hmem with rfl | hordinary
  · exact hslash rfl
  · rw [hc] at hordinary
    cases hordinary

theorem exists_segments (h : ∀ c ∈ text, c = '/' ∨ isOrdinaryChar c = true) :
    ∃ first rest, text = first ++ pathText rest ∧
      ∀ segment ∈ first :: rest, ∀ c ∈ segment, isOrdinaryChar c = true := by
  induction text with
  | nil => exact ⟨[], [], rfl, by simp⟩
  | cons c text ih =>
    obtain ⟨first, rest, rfl, hordinary⟩ := ih fun d hd => h d (List.mem_cons_of_mem c hd)
    rcases h c List.mem_cons_self with rfl | hc
    · exact ⟨[], first :: rest, rfl, List.forall_mem_cons.mpr ⟨by simp, hordinary⟩⟩
    · obtain ⟨hfirst, hrest⟩ := List.forall_mem_cons.mp hordinary
      exact ⟨c :: first, rest, rfl,
        List.forall_mem_cons.mpr ⟨List.forall_mem_cons.mpr ⟨hc, hfirst⟩, hrest⟩⟩

/-- The path of a plain target is the target, percent-encoded. -/
theorem parseUrl_of_isPlainTarget {tail : List Char} (h : isPlainTarget text = true)
    (htail : tail.head?.all isTail = true) (hclean : ∀ c ∈ tail, isControlOrSpace c = false) :
    parseUrl acceptsHost (text ++ tail) =
      some ⟨percentEncode isPathEncoded text, queryOf tail⟩ := by
  have hmem := mem_of_isPlainTarget h
  unfold isPlainTarget at h
  split at h
  · rename_i head others
    have hchars : ∀ c ∈ others, c = '/' ∨ isOrdinaryChar c = true := by
      intro c hc
      exact hmem c (List.mem_cons_of_mem _ (List.mem_cons_of_mem _ hc))
    obtain ⟨first, rest, rfl, hordinary⟩ := exists_segments hchars
    obtain ⟨hfirst, hrest⟩ := List.forall_mem_cons.mp hordinary
    have hsegments : ∀ segment ∈ (head :: first) :: rest, ∀ c ∈ segment, isOrdinaryChar c = true :=
      List.forall_mem_cons.mpr
        ⟨List.forall_mem_cons.mpr ⟨(Bool.and_eq_true_iff.mp h).1, hfirst⟩, hrest⟩
    have hpath : '/' :: head :: (first ++ pathText rest) = pathText ((head :: first) :: rest) := rfl
    rw [hpath, ← pathText_percentEncode]
    exact parseUrl_ordinary (List.cons_ne_nil head first) hsegments htail hclean
  · cases h

example : parseUrl (fun _ _ => true) "/a/./b/%2E./c\\d?x#y".toList =
    some ⟨"/a/c/d".toList, some ['x']⟩ := by decide

example : parseUrl (fun _ _ => true) "https://h:8/a".toList = some ⟨"/a".toList, none⟩ := by
  decide

end DshOrbit.Lib
