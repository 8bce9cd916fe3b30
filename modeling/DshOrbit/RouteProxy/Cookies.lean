import DshOrbit.Lib.JsMap
import DshOrbit.Lib.JsString
import Mathlib.Tactic.IntervalCases

/-!
# Cookies on the way to a node

The Hub reads its session from the Cookie header (`registry/server.mjs`), and takes it out of what
it forwards to a node: from the headers of a direct request and from the raw header pairs of a
reverse request (`registry/route-proxy.mjs`), and again where a reverse channel is opened
(`registry/reverse-channel.mjs`). A request is its raw header pairs.

## Main definitions

- `parseCookies` — the cookies that the Hub reads
- `sanitizeClientHeaders`, `sanitizeClientHeaderPairs`, `sanitizeWebSocketOpenHeaders`,
  `sanitizeFlowHeaders` — the headers that are forwarded
- `Path.forwarded` — the Cookie headers that a node receives
- `Isolates` — what is promised of them
- `WrittenPlainly` — the condition under which it holds

## Main results

- `isolates_iff` — when the session does not reach a node
-/

namespace DshOrbit.RouteProxy

open DshOrbit.Lib

abbrev Text := List Char

def lowerText (text : Text) : Text := text.map lowerChar

/-- The value of a header of `request.headers`. -/
inductive HeaderValue
  | text (value : Text)
  | texts (values : List Text)
  deriving DecidableEq, Repr

def cookieHeader : Text := ['c', 'o', 'o', 'k', 'i', 'e']

def sessionCookie : Text := "dsh-orbit-hub-session".toList

/-! ### Headers of a request -/

/-- The headers of which `node:http` keeps the first one only. -/
def singleHeaders : List Text :=
  ["age", "authorization", "content-length", "content-type", "etag", "expires", "from", "host",
    "if-modified-since", "if-unmodified-since", "last-modified", "location", "max-forwards",
    "proxy-authorization", "referer", "retry-after", "server", "user-agent"].map String.toList

/-- A header that comes again. -/
def joinHeader (name : Text) (value : HeaderValue) (next : Text) : HeaderValue :=
  match value with
  | .texts values => .texts (values ++ [next])
  | .text value =>
    if name ∈ singleHeaders then .text value
    else if name = cookieHeader then .text (value ++ ';' :: ' ' :: next)
    else .text (value ++ ',' :: ' ' :: next)

def addHeader (headers : List (Text × HeaderValue)) (pair : Text × Text) :
    List (Text × HeaderValue) :=
  let name := lowerText pair.1
  if headers.any fun header => header.1 = name then
    headers.map fun header =>
      if header.1 = name then (header.1, joinHeader name header.2 pair.2) else header
  else
    headers ++ [(name, if name = "set-cookie".toList then .texts [pair.2] else .text pair.2)]

/-- `request.headers`. -/
def requestHeaders (pairs : List (Text × Text)) : List (Text × HeaderValue) :=
  pairs.foldl addHeader []

/-- `request.headers.cookie`. -/
def cookieOf (headers : List (Text × HeaderValue)) : Option HeaderValue :=
  (headers.find? fun header => header.1 = cookieHeader).map Prod.snd

/-! ### The Hub's reading -/

/-- `cookies.set(...)` for one part of the header. -/
def addCookie (cookies : JsMap Text Text) (part : Text) : JsMap Text Text :=
  match part.dropWhile (· ≠ '=') with
  | [] => cookies
  | _ :: value => cookies.insert (trimChars (part.takeWhile (· ≠ '='))) (trimChars value)

def parseCookies (headers : List (Text × HeaderValue)) : JsMap Text Text :=
  match cookieOf headers with
  | some (.text header) => if header = [] then ∅ else (header.splitOn ';').foldl addCookie ∅
  | _ => ∅

/-! ### The sanitizers -/

/-- The parts of a Cookie header without those that are dropped. -/
def sanitizeCookies (drops : Text → Bool) (header : Text) : Text :=
  [';', ' '].intercalate (((header.splitOn ';').map trimChars).filter fun part => !drops part)

/-- `part.startsWith("dsh-orbit-hub-session=")`. -/
def startsWithSession (part : Text) : Bool := (sessionCookie ++ ['=']).isPrefixOf part

/-- `part.toLowerCase().startsWith("dsh-orbit-hub-session=")`. -/
def startsWithSessionLower (part : Text) : Bool := startsWithSession (lowerText part)

def startsWithText (start : String) (text : Text) : Bool := start.toList.isPrefixOf text

/-- The headers by which a gateway vouches for a request. -/
def isGatewayHeader (lower : Text) : Bool :=
  ["x-dsh-authenticated-proxy", "x-dsh-operator-id", "x-csrf-token", "x-gateway-auth",
    "x-gateway-secret"].any fun name => name.toList = lower

/-- A Cookie header as it is forwarded, unless nothing is left of it. -/
def forwardCookie (drops : Text → Bool) (header : Text) : Option Text :=
  let sanitized := sanitizeCookies drops header
  if sanitized = [] then none else some sanitized

def sanitizeClientHeaders (headers : List (Text × HeaderValue)) : List (Text × HeaderValue) :=
  headers.filterMap fun (key, value) =>
    let lower := lowerText key
    if startsWithText "x-orbit-route-" lower then none
    else
      match value with
      | .text text =>
        if lower = cookieHeader then
          (forwardCookie startsWithSession text).map fun sanitized => (key, .text sanitized)
        else if isGatewayHeader lower then none
        else some (key, value)
      | .texts _ => if isGatewayHeader lower then none else some (key, value)

def sanitizeClientHeaderPairs (pairs : List (Text × Text)) (websocket : Bool := false) :
    List (Text × Text) :=
  pairs.filterMap fun (name, value) =>
    let lower := lowerText name
    if lower = "host".toList then none
    else if startsWithText "x-orbit-route-" lower then none
    else if isGatewayHeader lower then none
    else if lower = cookieHeader then
      (forwardCookie startsWithSessionLower value).map fun sanitized => (name, sanitized)
    else if !websocket && lower = "connection".toList then none
    else some (name, value)

def sanitizeWebSocketOpenHeaders (headers : List (Text × Text)) : List (Text × Text) :=
  headers.filterMap fun (name, value) =>
    let lower := lowerText name
    if startsWithText "x-orbit-" lower then none
    else if isGatewayHeader lower then none
    else if lower = "proxy-authorization".toList || lower = "proxy-connection".toList then none
    else if lower = cookieHeader then
      (forwardCookie startsWithSessionLower value).map fun sanitized => (name, sanitized)
    else some (name, value)

def sanitizeFlowHeaders (headers : List (Text × Text)) : List (Text × Text) :=
  (sanitizeWebSocketOpenHeaders headers).filter fun (name, _) =>
    lowerText name ≠ "connection".toList ∧ lowerText name ≠ "proxy-connection".toList

/-! ### What a node receives -/

/-- The ways of a request to a node: over a direct connection, as header pairs, and in the OPEN
frame of a reverse channel. -/
inductive Path
  | direct
  | pairs (websocket : Bool)
  | openWebSocket
  | openFlow
  deriving DecidableEq, Repr

/-- The texts of the Cookie headers among header pairs. -/
def cookieTexts (pairs : List (Text × Text)) : List Text :=
  pairs.filterMap fun (name, value) => if lowerText name = cookieHeader then some value else none

/-- The Cookie headers that a node receives. -/
def Path.forwarded (rawHeaders : List (Text × Text)) : Path → List Text
  | .direct => (sanitizeClientHeaders (requestHeaders rawHeaders)).filterMap fun (name, value) =>
      match value with
      | .text text => if lowerText name = cookieHeader then some text else none
      | .texts _ => none
  | .pairs websocket => cookieTexts (sanitizeClientHeaderPairs rawHeaders websocket)
  | .openWebSocket =>
      cookieTexts (sanitizeWebSocketOpenHeaders (sanitizeClientHeaderPairs rawHeaders true))
  | .openFlow => cookieTexts (sanitizeFlowHeaders (sanitizeClientHeaderPairs rawHeaders))

/-- The cookies of a Cookie header. -/
def cookiesOf (header : Text) : List Text :=
  ((header.splitOn ';').map trimChars).filter fun part => part ≠ []

/-- A cookie that the Hub reads as its session. -/
def IsSession (cookie : Text) : Prop :=
  '=' ∈ cookie ∧ trimChars (cookie.takeWhile (· ≠ '=')) = sessionCookie

instance (cookie : Text) : Decidable (IsSession cookie) :=
  inferInstanceAs (Decidable ('=' ∈ cookie ∧ trimChars (cookie.takeWhile (· ≠ '=')) = sessionCookie))

/-- The value that the Hub reads for its session; an empty one is none. -/
def recognised (rawHeaders : List (Text × Text)) : Option Text :=
  ((parseCookies (requestHeaders rawHeaders)).lookup sessionCookie).filter fun value => value ≠ []

def otherCookies (headers : List Text) : List Text :=
  (headers.flatMap cookiesOf).filter fun cookie => ¬IsSession cookie

/-- The session that the Hub reads does not occur in what a node receives; the other cookies are
forwarded unchanged and in order, and the same cookies on every path. -/
structure Isolates (rawHeaders : List (Text × Text)) : Prop where
  hidden : ∀ (path : Path) (value : Text), recognised rawHeaders = some value →
    ∀ header ∈ path.forwarded rawHeaders, ¬value <:+: header
  others : ∀ path : Path,
    otherCookies (path.forwarded rawHeaders) = otherCookies (cookieTexts rawHeaders)
  agree : ∀ path path' : Path,
    (path.forwarded rawHeaders).flatMap cookiesOf = (path'.forwarded rawHeaders).flatMap cookiesOf

/-- Cookies with the name of the session are written in lower case, and the session that the Hub
reads occurs only in cookies that begin with this name and the equals sign. -/
structure WrittenPlainly (rawHeaders : List (Text × Text)) : Prop where
  lowercase : ∀ cookie ∈ (cookieTexts rawHeaders).flatMap cookiesOf,
    startsWithSessionLower cookie = true → startsWithSession cookie = true
  contained : ∀ value, recognised rawHeaders = some value →
    ∀ cookie ∈ (cookieTexts rawHeaders).flatMap cookiesOf,
      value <:+: cookie → startsWithSession cookie = true

/-! ### Cookies of joined headers -/

variable {header : Text} {headers parts : List Text} {value : Text}

theorem not_mem_of_mem_splitOn {c : Char} {part : Text} (h : part ∈ header.splitOn c) : c ∉ part := by
  induction header generalizing part with
  | nil =>
    rw [List.splitOn_nil, List.mem_singleton] at h
    rw [h]
    exact List.not_mem_nil
  | cons x rest ih =>
    rw [List.splitOn_cons_eq_if_modifyHead] at h
    split_ifs at h with hx
    · rcases List.mem_cons.mp h with rfl | h
      · exact List.not_mem_nil
      · exact ih h
    · obtain ⟨first, others, hsplit⟩ := List.exists_cons_of_ne_nil (List.splitOn_ne_nil c rest)
      rw [hsplit] at h ih
      rcases List.mem_cons.mp h with rfl | h
      · rintro hmem
        rcases List.mem_cons.mp hmem with rfl | hmem
        · exact hx (beq_self_eq_true _)
        · exact ih (List.mem_cons_self ..) hmem
      · exact ih (List.mem_cons_of_mem _ h)

/-- The blank after a semicolon is trimmed away. -/
theorem splitOn_blank (header : Text) :
    ((' ' :: header).splitOn ';').map trimChars = (header.splitOn ';').map trimChars := by
  obtain ⟨first, others, hsplit⟩ := List.exists_cons_of_ne_nil (List.splitOn_ne_nil ';' header)
  rw [List.splitOn_cons_eq_if_modifyHead, if_neg (by decide), hsplit, List.modifyHead_cons,
    List.map_cons, List.map_cons, trimChars_cons_blank (by decide)]

theorem cookiesOf_append (first next : Text) :
    cookiesOf (first ++ ';' :: ' ' :: next) = cookiesOf first ++ cookiesOf next := by
  rw [cookiesOf, List.splitOn_append_cons_self, List.map_append, splitOn_blank, List.filter_append]
  rfl

theorem intercalate_semicolon_cons (first next : Text) (rest : List Text) :
    [';', ' '].intercalate (first :: next :: rest) =
      first ++ ';' :: ' ' :: [';', ' '].intercalate (next :: rest) := by
  rw [List.intercalate_cons_cons, List.append_assoc]
  rfl

theorem cookiesOf_nil : cookiesOf [] = [] := rfl

/-- The cookies of joined headers are those of the headers. -/
theorem cookiesOf_intercalate (headers : List Text) :
    cookiesOf ([';', ' '].intercalate headers) = headers.flatMap cookiesOf := by
  induction headers with
  | nil => rfl
  | cons first rest ih =>
    cases rest with
    | nil => rw [List.intercalate_singleton, List.flatMap_singleton]
    | cons next rest => rw [intercalate_semicolon_cons, cookiesOf_append, ih, ← List.flatMap_cons]

theorem cookiesOf_part {part : Text} (htrim : trimChars part = part) (hpart : ';' ∉ part) :
    cookiesOf part = if part = [] then [] else [part] := by
  rw [cookiesOf, List.splitOn_eq_singleton hpart, List.map_singleton, htrim]
  split_ifs with h
  · rw [h]
    rfl
  · exact List.filter_eq_self.mpr fun other hother => by
      rw [List.mem_singleton.mp hother]
      exact decide_eq_true h

theorem flatMap_cookiesOf (h : ∀ part ∈ parts, trimChars part = part ∧ ';' ∉ part) :
    parts.flatMap cookiesOf = parts.filter fun part => part ≠ [] := by
  induction parts with
  | nil => rfl
  | cons part rest ih =>
    obtain ⟨htrim, hpart⟩ := h part (List.mem_cons_self ..)
    rw [List.flatMap_cons, ih fun other hother => h other (List.mem_cons_of_mem _ hother),
      cookiesOf_part htrim hpart]
    by_cases hempty : part = []
    · rw [if_pos hempty, List.filter_cons_of_neg (by simpa using hempty)]
      rfl
    · rw [if_neg hempty, List.filter_cons_of_pos (by simpa using hempty)]
      rfl

/-- The trimmed parts of a header. -/
theorem part_clean {part : Text} (h : part ∈ (header.splitOn ';').map trimChars) :
    trimChars part = part ∧ ';' ∉ part := by
  obtain ⟨raw, hraw, rfl⟩ := List.mem_map.mp h
  exact ⟨trimChars_trimChars raw,
    fun hmem => not_mem_of_mem_splitOn hraw (trimChars_subset raw hmem)⟩

theorem cookiesOf_sanitize (drops : Text → Bool) (header : Text) :
    cookiesOf (sanitizeCookies drops header) =
      (cookiesOf header).filter fun cookie => !drops cookie := by
  rw [sanitizeCookies, cookiesOf_intercalate, flatMap_cookiesOf, cookiesOf, List.filter_filter,
    List.filter_filter]
  · exact List.filter_congr fun part _ => Bool.and_comm _ _
  · intro part hpart
    exact part_clean (List.mem_of_mem_filter hpart)

/-! ### Texts that occur in a header -/

/-- A text that is looked for: it is not empty, has no semicolon and does not begin with a
blank. -/
structure Sought (value : Text) : Prop where
  nonempty : value ≠ []
  whole : ';' ∉ value
  unblanked : value.head? ≠ some ' '

/-- A text that is looked for does not reach over the end of a part. -/
theorem Sought.infix_append (h : Sought value) {first next : Text}
    (hin : value <:+: first ++ ';' :: ' ' :: next) : value <:+: first ∨ value <:+: next := by
  obtain ⟨before, after, heq⟩ := hin
  rw [List.append_assoc] at heq
  rcases List.append_eq_append_iff.mp heq.symm with ⟨middle, hbefore, hrest⟩ | ⟨middle, hfirst, hrest⟩
  · -- The text begins after the first part.
    right
    cases middle with
    | nil =>
      cases value with
      | nil => exact absurd rfl h.nonempty
      | cons c rest =>
        have hc := (List.cons.inj hrest).1
        exact absurd (hc ▸ List.mem_cons_self ..) h.whole
    | cons c middle =>
      have hrest' := (List.cons.inj hrest).2
      cases middle with
      | nil =>
        cases value with
        | nil => exact absurd rfl h.nonempty
        | cons c rest => exact absurd (congrArg some (List.cons.inj hrest').1.symm) h.unblanked
      | cons c' middle =>
        refine ⟨middle, after, ?_⟩
        rw [List.append_assoc]
        exact (List.cons.inj hrest').2.symm
  · -- The text begins in the first part, and ends there.
    left
    rcases List.append_eq_append_iff.mp hrest with ⟨tail, hmiddle, -⟩ | ⟨tail, hvalue, htail⟩
    · refine ⟨before, tail, ?_⟩
      rw [hfirst, hmiddle, List.append_assoc]
    · cases tail with
      | nil =>
        refine ⟨before, [], ?_⟩
        rw [hfirst, hvalue, List.append_nil, List.append_nil]
      | cons c tail =>
        have hc := (List.cons.inj htail).1
        exact absurd (hvalue ▸ List.mem_append_right _ (hc ▸ List.mem_cons_self ..)) h.whole

theorem Sought.infix_intercalate (h : Sought value) :
    value <:+: [';', ' '].intercalate parts ↔ ∃ part ∈ parts, value <:+: part := by
  induction parts with
  | nil =>
    refine iff_of_false (fun hin => ?_) (fun ⟨_, hmem, _⟩ => List.not_mem_nil hmem)
    exact h.nonempty (List.infix_nil.mp hin)
  | cons first rest ih =>
    cases rest with
    | nil =>
      rw [List.intercalate_singleton]
      simp
    | cons next rest =>
      rw [intercalate_semicolon_cons, List.exists_mem_cons_iff, ← ih]
      constructor
      · exact h.infix_append
      · rintro (hin | hin)
        · exact hin.trans (List.prefix_append _ _).isInfix
        · exact hin.trans ((List.suffix_append_of_suffix
            ((List.suffix_cons _ _).trans (List.suffix_cons _ _))).isInfix)

/-- What occurs in a sanitized header occurs in one of its cookies. -/
theorem Sought.infix_sanitize (h : Sought value) (drops : Text → Bool) (header : Text) :
    value <:+: sanitizeCookies drops header ↔
      ∃ cookie ∈ (cookiesOf header).filter fun cookie => !drops cookie, value <:+: cookie := by
  rw [sanitizeCookies, h.infix_intercalate]
  refine exists_congr fun cookie => ?_
  rw [cookiesOf, List.filter_filter, List.mem_filter, List.mem_filter]
  constructor
  · rintro ⟨⟨hmem, hkept⟩, hin⟩
    have hne : cookie ≠ [] := by
      rintro rfl
      exact h.nonempty (List.infix_nil.mp hin)
    exact ⟨⟨hmem, by simpa [hkept] using hne⟩, hin⟩
  · rintro ⟨⟨hmem, hkept⟩, hin⟩
    rw [Bool.and_eq_true] at hkept
    exact ⟨⟨hmem, hkept.1⟩, hin⟩

/-! ### Forwarded headers -/

/-- Headers carry cookies: these are their cookies, and what occurs in the headers occurs in
them. -/
structure Carries (headers cookies : List Text) : Prop where
  parts : headers.flatMap cookiesOf = cookies
  occurs : ∀ value, Sought value →
    ((∃ header ∈ headers, value <:+: header) ↔ ∃ cookie ∈ cookies, value <:+: cookie)

theorem carries_nil : Carries [] [] :=
  ⟨rfl, fun _ _ => iff_of_false (fun ⟨_, h, _⟩ => List.not_mem_nil h)
    fun ⟨_, h, _⟩ => List.not_mem_nil h⟩

theorem Carries.append {headers headers' cookies cookies' : List Text} (h : Carries headers cookies)
    (h' : Carries headers' cookies') : Carries (headers ++ headers') (cookies ++ cookies') where
  parts := by rw [List.flatMap_append, h.parts, h'.parts]
  occurs value hvalue := by
    simp only [List.mem_append, or_and_right, exists_or, h.occurs value hvalue,
      h'.occurs value hvalue]

theorem carries_forwardCookie (drops : Text → Bool) (header : Text) :
    Carries (forwardCookie drops header).toList
      ((cookiesOf header).filter fun cookie => !drops cookie) := by
  have hcookies := cookiesOf_sanitize drops header
  simp only [forwardCookie]
  split_ifs with hempty
  · rw [hempty, cookiesOf_nil] at hcookies
    rw [← hcookies]
    exact carries_nil
  · constructor
    · rw [Option.toList_some, List.flatMap_singleton, hcookies]
    · intro value hvalue
      rw [← hvalue.infix_sanitize]
      simp

theorem carries_filterMap (drops : Text → Bool) (headers : List Text) :
    Carries (headers.filterMap (forwardCookie drops))
      ((headers.flatMap cookiesOf).filter fun cookie => !drops cookie) := by
  induction headers with
  | nil => exact carries_nil
  | cons header rest ih =>
    have hsplit : (header :: rest).filterMap (forwardCookie drops) =
        (forwardCookie drops header).toList ++ rest.filterMap (forwardCookie drops) := by
      rw [List.filterMap_cons]
      cases forwardCookie drops header <;> rfl
    rw [hsplit, List.flatMap_cons, List.filter_append]
    exact (carries_forwardCookie drops header).append ih

/-! ### Header pairs -/

/-- The Cookie header is none of those that are treated apart. -/
structure Apart (name : Text) : Prop where
  host : name ≠ "host".toList
  connection : name ≠ "connection".toList
  proxyAuthorization : name ≠ "proxy-authorization".toList
  proxyConnection : name ≠ "proxy-connection".toList
  setCookie : name ≠ "set-cookie".toList
  orbit : startsWithText "x-orbit-" name = false
  route : startsWithText "x-orbit-route-" name = false
  gateway : isGatewayHeader name = false

theorem cookieHeader_apart : Apart cookieHeader := by
  have hall : cookieHeader ≠ "host".toList ∧ cookieHeader ≠ "connection".toList ∧
      cookieHeader ≠ "proxy-authorization".toList ∧ cookieHeader ≠ "proxy-connection".toList ∧
      cookieHeader ≠ "set-cookie".toList ∧ startsWithText "x-orbit-" cookieHeader = false ∧
      startsWithText "x-orbit-route-" cookieHeader = false ∧
      isGatewayHeader cookieHeader = false := by decide +kernel
  obtain ⟨hhost, hconnection, hauthorization, hproxy, hset, horbit, hroute, hgateway⟩ := hall
  exact ⟨hhost, hconnection, hauthorization, hproxy, hset, horbit, hroute, hgateway⟩

/-- A sanitizer of header pairs forwards cookies without the session, and makes no Cookie header
of another one. -/
structure Sanitizes (sanitize : Text × Text → Option (Text × Text)) : Prop where
  cookie : ∀ name value, lowerText name = cookieHeader →
    sanitize (name, value) =
      (forwardCookie startsWithSessionLower value).map fun sanitized => (name, sanitized)
  other : ∀ name value pair, lowerText name ≠ cookieHeader → sanitize (name, value) = some pair →
    lowerText pair.1 ≠ cookieHeader

theorem cookieTexts_cons (name value : Text) (rest : List (Text × Text)) :
    cookieTexts ((name, value) :: rest) =
      if lowerText name = cookieHeader then value :: cookieTexts rest else cookieTexts rest := by
  simp only [cookieTexts, List.filterMap_cons]
  split_ifs <;> rfl

theorem Sanitizes.cookieTexts {sanitize : Text × Text → Option (Text × Text)} (h : Sanitizes sanitize)
    (pairs : List (Text × Text)) :
    cookieTexts (pairs.filterMap sanitize) =
      (cookieTexts pairs).filterMap (forwardCookie startsWithSessionLower) := by
  induction pairs with
  | nil => rfl
  | cons pair rest ih =>
    obtain ⟨name, value⟩ := pair
    rw [cookieTexts_cons]
    by_cases hname : lowerText name = cookieHeader
    · rw [if_pos hname, List.filterMap_cons, List.filterMap_cons, h.cookie name value hname]
      cases forwardCookie startsWithSessionLower value with
      | none => exact ih
      | some sanitized =>
        show RouteProxy.cookieTexts ((name, sanitized) :: _) = sanitized :: _
        rw [cookieTexts_cons, if_pos hname, ih]
    · rw [if_neg hname, List.filterMap_cons]
      cases hpair : sanitize (name, value) with
      | none => exact ih
      | some pair =>
        show RouteProxy.cookieTexts ((pair.1, pair.2) :: _) = _
        rw [cookieTexts_cons, if_neg (h.other name value pair hname hpair), ih]

theorem cookieTexts_pairs (pairs : List (Text × Text)) (websocket : Bool) :
    cookieTexts (sanitizeClientHeaderPairs pairs websocket) =
      (cookieTexts pairs).filterMap (forwardCookie startsWithSessionLower) := by
  refine Sanitizes.cookieTexts ⟨fun name value hname => ?_, fun name value pair hname hpair => ?_⟩ pairs
  · dsimp only
    rw [hname, if_neg cookieHeader_apart.host,
      if_neg (Bool.eq_false_iff.mp cookieHeader_apart.route),
      if_neg (Bool.eq_false_iff.mp cookieHeader_apart.gateway), if_pos rfl]
  · dsimp only at hpair
    split_ifs at hpair
    rw [← Option.some.inj hpair]
    exact hname

theorem cookieTexts_open (headers : List (Text × Text)) :
    cookieTexts (sanitizeWebSocketOpenHeaders headers) =
      (cookieTexts headers).filterMap (forwardCookie startsWithSessionLower) := by
  refine Sanitizes.cookieTexts ⟨fun name value hname => ?_, fun name value pair hname hpair => ?_⟩ headers
  · dsimp only
    have hproxy : (decide (cookieHeader = "proxy-authorization".toList) ||
        decide (cookieHeader = "proxy-connection".toList)) = false :=
      Bool.or_eq_false_iff.mpr ⟨decide_eq_false cookieHeader_apart.proxyAuthorization,
        decide_eq_false cookieHeader_apart.proxyConnection⟩
    rw [hname, if_neg (Bool.eq_false_iff.mp cookieHeader_apart.orbit),
      if_neg (Bool.eq_false_iff.mp cookieHeader_apart.gateway),
      if_neg (Bool.eq_false_iff.mp hproxy), if_pos rfl]
  · dsimp only at hpair
    split_ifs at hpair
    rw [← Option.some.inj hpair]
    exact hname

theorem cookieTexts_flow (headers : List (Text × Text)) :
    cookieTexts (sanitizeFlowHeaders headers) =
      (cookieTexts headers).filterMap (forwardCookie startsWithSessionLower) := by
  rw [← cookieTexts_open, sanitizeFlowHeaders]
  generalize sanitizeWebSocketOpenHeaders headers = pairs
  induction pairs with
  | nil => rfl
  | cons pair rest ih =>
    obtain ⟨name, value⟩ := pair
    rw [List.filter_cons, cookieTexts_cons]
    by_cases hname : lowerText name = cookieHeader
    · rw [if_pos, cookieTexts_cons, if_pos hname, if_pos hname, ih]
      dsimp only
      rw [hname]
      exact decide_eq_true ⟨cookieHeader_apart.connection, cookieHeader_apart.proxyConnection⟩
    · rw [if_neg hname]
      split_ifs
      · rw [cookieTexts_cons, if_neg hname, ih]
      · exact ih

/-! ### Header objects -/

theorem lowerChar_lowerChar (c : Char) : lowerChar (lowerChar c) = lowerChar c := by
  have hcases : lowerChar c = c ∨ (97 ≤ (lowerChar c).toNat ∧ (lowerChar c).toNat ≤ 122) ∨
      (0xE0 ≤ (lowerChar c).toNat ∧ (lowerChar c).toNat ≤ 0xFE) := by
    simp only [lowerChar, Bool.and_eq_true, decide_eq_true_iff]
    split_ifs with hcapital hlatin hkelvin
    · obtain ⟨hfrom, hto⟩ := hcapital
      refine .inr (.inl ?_)
      generalize c.toNat = n at hfrom hto
      interval_cases n <;> decide
    · obtain ⟨⟨hfrom, hto⟩, -⟩ := hlatin
      refine .inr (.inr ?_)
      generalize c.toNat = n at hfrom hto
      interval_cases n <;> decide
    · exact .inr (.inl (by decide))
    · exact .inl rfl
  rcases hcases with heq | hrange
  · rw [heq, heq]
  · generalize lowerChar c = d at hrange
    simp only [lowerChar]
    rw [if_neg (by simp; omega), if_neg (by simp; omega), if_neg (by simp; omega)]

theorem lowerText_lowerText (text : Text) : lowerText (lowerText text) = lowerText text := by
  rw [lowerText, lowerText, List.map_map]
  exact List.map_congr_left fun c _ => lowerChar_lowerChar c

/-- The values under the name `cookie`. -/
def cookieValues (object : List (Text × HeaderValue)) : List HeaderValue :=
  object.filterMap fun header => if header.1 = cookieHeader then some header.2 else none

/-- The values under the name `cookie` of a request with these Cookie headers. -/
def joinedCookies : List Text → List HeaderValue
  | [] => []
  | headers => [.text ([';', ' '].intercalate headers)]

theorem cookieValues_cons (header : Text × HeaderValue) (rest : List (Text × HeaderValue)) :
    cookieValues (header :: rest) =
      if header.1 = cookieHeader then header.2 :: cookieValues rest else cookieValues rest := by
  rw [cookieValues, List.filterMap_cons]
  split_ifs <;> rfl

theorem cookieValues_append (object object' : List (Text × HeaderValue)) :
    cookieValues (object ++ object') = cookieValues object ++ cookieValues object' :=
  List.filterMap_append

theorem any_iff_cookieValues (object : List (Text × HeaderValue)) :
    (object.any fun header => header.1 = cookieHeader) = !(cookieValues object).isEmpty := by
  induction object with
  | nil => rfl
  | cons header rest ih =>
    rw [List.any_cons, ih, cookieValues_cons]
    by_cases hname : header.1 = cookieHeader <;> simp [hname]

/-- A header that comes to an object changes the values of its own name only. -/
theorem cookieValues_map {name : Text} (object : List (Text × HeaderValue)) (next : Text) :
    cookieValues (object.map fun header =>
      if header.1 = name then (header.1, joinHeader name header.2 next) else header) =
        if name = cookieHeader then (cookieValues object).map fun value => joinHeader name value next
        else cookieValues object := by
  induction object with
  | nil => simp [cookieValues]
  | cons header rest ih =>
    obtain ⟨key, value⟩ := header
    rw [List.map_cons, cookieValues_cons, cookieValues_cons, ih]
    by_cases hkey : key = name
    · subst hkey
      by_cases hname : key = cookieHeader <;> simp [hname]
    · by_cases hname : name = cookieHeader
      · have hother : key ≠ cookieHeader := fun h => hkey (h.trans hname.symm)
        simp [hname, hother]
      · simp [hkey, hname]

theorem intercalate_append_singleton (headers : List Text) (hne : headers ≠ []) (next : Text) :
    [';', ' '].intercalate (headers ++ [next]) =
      [';', ' '].intercalate headers ++ ';' :: ' ' :: next := by
  induction headers with
  | nil => exact absurd rfl hne
  | cons first rest ih =>
    cases rest with
    | nil => rw [List.singleton_append, intercalate_semicolon_cons, List.intercalate_singleton,
        List.intercalate_singleton]
    | cons second rest =>
      rw [List.cons_append, List.cons_append, intercalate_semicolon_cons, ← List.cons_append,
        ih (List.cons_ne_nil _ _), intercalate_semicolon_cons]
      simp

/-- The Cookie headers of a request are joined. -/
theorem cookieValues_requestHeaders (pairs : List (Text × Text)) :
    cookieValues (requestHeaders pairs) = joinedCookies (cookieTexts pairs) := by
  induction pairs using List.reverseRecOn with
  | nil => rfl
  | append_singleton pairs pair ih =>
    obtain ⟨name, value⟩ := pair
    have htexts : cookieTexts (pairs ++ [(name, value)]) =
        cookieTexts pairs ++ if lowerText name = cookieHeader then [value] else [] := by
      rw [cookieTexts, List.filterMap_append]
      congr 1
      split_ifs with hname <;> simp [hname]
    rw [requestHeaders, List.foldl_append, List.foldl_cons, List.foldl_nil, htexts]
    show cookieValues (addHeader (requestHeaders pairs) (name, value)) = _
    by_cases hname : lowerText name = cookieHeader
    · rw [if_pos hname]
      simp only [addHeader, hname]
      rw [any_iff_cookieValues, ih]
      cases htext : cookieTexts pairs with
      | nil =>
        rw [htext] at ih
        rw [if_neg (by decide), if_neg cookieHeader_apart.setCookie, cookieValues_append, ih]
        show [HeaderValue.text value] = [HeaderValue.text ([';', ' '].intercalate [value])]
        rw [List.intercalate_singleton]
      | cons first rest =>
        rw [htext] at ih
        rw [if_pos (by rfl), cookieValues_map, if_pos rfl, ih]
        show [HeaderValue.text _] = [HeaderValue.text _]
        rw [intercalate_append_singleton _ (List.cons_ne_nil _ _)]
    · rw [if_neg hname, List.append_nil]
      simp only [addHeader]
      split_ifs
      · rw [cookieValues_map, if_neg hname, ih]
      · rw [cookieValues_append, ih]
        simp [cookieValues, hname]
      · rw [cookieValues_append, ih]
        simp [cookieValues, hname]

/-- All names of the headers of a request are in lower case. -/
theorem requestHeaders_lower (pairs : List (Text × Text)) :
    ∀ header ∈ requestHeaders pairs, lowerText header.1 = header.1 := by
  induction pairs using List.reverseRecOn with
  | nil => exact nofun
  | append_singleton pairs pair ih =>
    rw [requestHeaders, List.foldl_append, List.foldl_cons, List.foldl_nil]
    intro header hheader
    simp only [addHeader] at hheader
    by_cases hany : ((pairs.foldl addHeader []).any fun header =>
        decide (header.1 = lowerText pair.1)) = true
    · rw [if_pos hany] at hheader
      obtain ⟨old, hold, rfl⟩ := List.mem_map.mp hheader
      by_cases hname : old.1 = lowerText pair.1
      · rw [if_pos hname]
        exact ih old hold
      · rw [if_neg hname]
        exact ih old hold
    · rw [if_neg hany] at hheader
      rcases List.mem_append.mp hheader with hold | hnew
      · exact ih header hold
      · rw [List.mem_singleton.mp hnew]
        exact lowerText_lowerText pair.1

/-- The Cookie header of an object is forwarded without the session. -/
theorem direct_forwarded {object : List (Text × HeaderValue)}
    (hlower : ∀ header ∈ object, lowerText header.1 = header.1) :
    ((sanitizeClientHeaders object).filterMap fun (name, value) =>
      match value with
      | .text text => if lowerText name = cookieHeader then some text else none
      | .texts _ => none) =
    (cookieValues object).filterMap fun value =>
      match value with
      | .text text => forwardCookie startsWithSession text
      | .texts _ => none := by
  rw [sanitizeClientHeaders, cookieValues, List.filterMap_filterMap, List.filterMap_filterMap]
  refine List.filterMap_congr fun header hheader => ?_
  obtain ⟨name, value⟩ := header
  have hname : lowerText name = name := hlower _ hheader
  dsimp only
  rw [hname]
  by_cases hcookie : name = cookieHeader
  · subst hcookie
    rw [cookieHeader_apart.route, cookieHeader_apart.gateway, if_neg Bool.false_ne_true,
      if_pos rfl, Option.bind_some]
    cases value with
    | text text =>
      dsimp only
      rw [if_pos rfl]
      cases forwardCookie startsWithSession text with
      | none => rfl
      | some sanitized =>
        rw [Option.map_some, Option.bind_some]
        dsimp only
        rw [if_pos hname]
    | texts values => rfl
  · rw [if_neg hcookie, Option.bind_none]
    cases value with
    | text text =>
      dsimp only
      rw [if_neg hcookie]
      split_ifs
      · rfl
      · rfl
      · rw [Option.bind_some]
        dsimp only
        rw [hname, if_neg hcookie]
    | texts values =>
      dsimp only
      split_ifs <;> rfl

/-! ### The paths -/

/-- The cookies that a path drops. -/
def Path.drops : Path → Text → Bool
  | .direct => startsWithSession
  | _ => startsWithSessionLower

/-- The cookies of a request. -/
def requestCookies (rawHeaders : List (Text × Text)) : List Text :=
  (cookieTexts rawHeaders).flatMap cookiesOf

theorem forwarded_direct (rawHeaders : List (Text × Text)) :
    Path.direct.forwarded rawHeaders =
      match cookieTexts rawHeaders with
      | [] => []
      | headers => (forwardCookie startsWithSession ([';', ' '].intercalate headers)).toList := by
  rw [Path.forwarded, direct_forwarded (requestHeaders_lower rawHeaders),
    cookieValues_requestHeaders]
  cases cookieTexts rawHeaders with
  | nil => rfl
  | cons first rest =>
    rw [joinedCookies, List.filterMap_cons]
    · dsimp only
      cases forwardCookie startsWithSession ([';', ' '].intercalate (first :: rest)) <;> rfl
    · exact nofun

/-- What a node receives on a path. -/
theorem carries_forwarded (rawHeaders : List (Text × Text)) (path : Path) :
    Carries (path.forwarded rawHeaders)
      ((requestCookies rawHeaders).filter fun cookie => !path.drops cookie) := by
  have hpairs := carries_filterMap startsWithSessionLower (cookieTexts rawHeaders)
  have htwice := carries_filterMap startsWithSessionLower
    ((cookieTexts rawHeaders).filterMap (forwardCookie startsWithSessionLower))
  rw [hpairs.parts, List.filter_filter] at htwice
  simp only [Bool.and_self] at htwice
  cases path with
  | direct =>
    rw [forwarded_direct, requestCookies]
    cases cookieTexts rawHeaders with
    | nil => exact carries_nil
    | cons first rest =>
      rw [← cookiesOf_intercalate]
      exact carries_forwardCookie startsWithSession _
  | pairs websocket =>
    rw [Path.forwarded, cookieTexts_pairs]
    exact hpairs
  | openWebSocket =>
    rw [Path.forwarded, cookieTexts_open, cookieTexts_pairs]
    exact htwice
  | openFlow =>
    rw [Path.forwarded, cookieTexts_flow, cookieTexts_pairs]
    exact htwice

/-! ### The session -/

theorem mem_addCookie {texts : List Text} {cookies : JsMap Text Text} {name : Text}
    (hfresh : ∀ value, cookies.lookup name = some value →
      ∃ part, ';' ∉ part ∧ ∃ raw, value = trimChars raw ∧ raw ⊆ part)
    (htexts : ∀ text ∈ texts, ';' ∉ text) (h : (texts.foldl addCookie cookies).lookup name = some value) :
    ∃ part, ';' ∉ part ∧ ∃ raw, value = trimChars raw ∧ raw ⊆ part := by
  induction texts generalizing cookies with
  | nil => exact hfresh value h
  | cons text rest ih =>
    refine ih ?_ (fun other hother => htexts other (List.mem_cons_of_mem _ hother)) h
    intro found hfound
    rw [addCookie] at hfound
    cases hrest : text.dropWhile (· ≠ '=') with
    | nil =>
      rw [hrest] at hfound
      exact hfresh found hfound
    | cons separator raw =>
      rw [hrest] at hfound
      dsimp only at hfound
      rw [JsMap.lookup_insert_eq] at hfound
      split_ifs at hfound
      · refine ⟨text, htexts text (List.mem_cons_self ..), raw, (Option.some.inj hfound).symm, ?_⟩
        have hsuffix := List.dropWhile_suffix (l := text) fun c => decide (c ≠ '=')
        rw [hrest] at hsuffix
        exact fun c hc => hsuffix.subset (List.mem_cons_of_mem _ hc)
      · exact hfresh found hfound

/-- The session that the Hub reads is a text without blanks around it. -/
theorem sought_of_recognised {rawHeaders : List (Text × Text)}
    (h : recognised rawHeaders = some value) : Sought value := by
  obtain ⟨hlookup, hne⟩ := Option.filter_eq_some_iff.mp h
  rw [parseCookies] at hlookup
  have hpart : ∃ part, ';' ∉ part ∧ ∃ raw, value = trimChars raw ∧ raw ⊆ part := by
    split at hlookup
    · split_ifs at hlookup
      · cases hlookup
      · refine mem_addCookie (fun found hfound => ?_)
          (fun text htext => not_mem_of_mem_splitOn htext) hlookup
        rw [AList.lookup_empty] at hfound
        cases hfound
    · cases hlookup
  obtain ⟨part, hpart, raw, rfl, hraw⟩ := hpart
  refine ⟨of_decide_eq_true hne, fun hmem => hpart (hraw (trimChars_subset raw hmem)), ?_⟩
  intro hhead
  have hfront := dropWhile_trimChars raw
  cases htrim : trimChars raw with
  | nil =>
    rw [htrim] at hhead
    cases hhead
  | cons c rest =>
    rw [htrim] at hhead hfront
    obtain rfl := Option.some.inj hhead
    rw [List.dropWhile_cons_of_pos (by decide)] at hfront
    have hlength := (List.dropWhile_suffix (l := rest) isJsWhitespace).length_le
    rw [hfront, List.length_cons] at hlength
    omega

theorem startsWithSession_iff {cookie : Text} :
    startsWithSession cookie = true ↔ ∃ rest, cookie = sessionCookie ++ '=' :: rest := by
  rw [startsWithSession, List.isPrefixOf_iff_prefix]
  constructor
  · rintro ⟨rest, rfl⟩
    exact ⟨rest, by simp⟩
  · rintro ⟨rest, rfl⟩
    exact ⟨rest, by simp⟩

theorem sessionCookie_plain :
    (sessionCookie.all fun c => decide (c ≠ '=')) = true ∧
      trimChars sessionCookie = sessionCookie ∧ lowerText sessionCookie = sessionCookie := by
  decide +kernel

theorem isSession_of_startsWith {cookie : Text} (h : startsWithSession cookie = true) :
    IsSession cookie := by
  obtain ⟨rest, rfl⟩ := startsWithSession_iff.mp h
  obtain ⟨hall, htrim, -⟩ := sessionCookie_plain
  have hname := List.all_eq_true.mp hall
  refine ⟨List.mem_append_right _ (List.mem_cons_self ..), ?_⟩
  rw [List.takeWhile_append_of_pos hname, List.takeWhile_cons_of_neg (by simp), List.append_nil]
  exact htrim

theorem startsWithSessionLower_of {cookie : Text} (h : startsWithSession cookie = true) :
    startsWithSessionLower cookie = true := by
  obtain ⟨rest, rfl⟩ := startsWithSession_iff.mp h
  rw [startsWithSessionLower, startsWithSession_iff]
  refine ⟨lowerText rest, ?_⟩
  obtain ⟨-, -, hname⟩ := sessionCookie_plain
  rw [lowerText, List.map_append, List.map_cons, ← lowerText, hname]
  rfl

/-- A session does not reach a node exactly where it is written plainly. -/
theorem isolates_iff (rawHeaders : List (Text × Text)) :
    Isolates rawHeaders ↔ WrittenPlainly rawHeaders := by
  constructor
  · intro h
    refine ⟨fun cookie hcookie hlower => ?_, fun value hvalue cookie hcookie hin => ?_⟩
    · by_contra hexact
      have hagree := h.agree .direct (.pairs false)
      rw [(carries_forwarded rawHeaders .direct).parts,
        (carries_forwarded rawHeaders (.pairs false)).parts] at hagree
      have hmem : cookie ∈ (requestCookies rawHeaders).filter fun cookie =>
          !Path.direct.drops cookie :=
        List.mem_filter.mpr ⟨hcookie, by simpa [Path.drops] using hexact⟩
      rw [hagree] at hmem
      have hkept := (List.mem_filter.mp hmem).2
      have hdrop : Path.drops (.pairs false) cookie = startsWithSessionLower cookie := rfl
      rw [hdrop, hlower] at hkept
      cases hkept
    · by_contra hexact
      have hmem : cookie ∈ (requestCookies rawHeaders).filter fun cookie =>
          !Path.direct.drops cookie :=
        List.mem_filter.mpr ⟨hcookie, by simpa [Path.drops] using hexact⟩
      obtain ⟨header, hheader, hleak⟩ :=
        ((carries_forwarded rawHeaders .direct).occurs value (sought_of_recognised hvalue)).mpr
          ⟨cookie, hmem, hin⟩
      exact h.hidden .direct value hvalue header hheader hleak
  · intro h
    have hdrops : ∀ (path : Path) (cookie : Text), cookie ∈ requestCookies rawHeaders →
        path.drops cookie = startsWithSession cookie := by
      intro path cookie hcookie
      have hsame : startsWithSessionLower cookie = startsWithSession cookie :=
        Bool.eq_iff_iff.mpr ⟨h.lowercase cookie hcookie, startsWithSessionLower_of⟩
      cases path with
      | direct => rfl
      | _ => exact hsame
    have hparts : ∀ path : Path, (path.forwarded rawHeaders).flatMap cookiesOf =
        (requestCookies rawHeaders).filter fun cookie => !startsWithSession cookie := by
      intro path
      rw [(carries_forwarded rawHeaders path).parts]
      refine List.filter_congr fun cookie hcookie => ?_
      rw [hdrops path cookie hcookie]
    refine ⟨fun path value hvalue header hheader hleak => ?_, fun path => ?_, fun path path' => ?_⟩
    · obtain ⟨cookie, hcookie, hin⟩ :=
        ((carries_forwarded rawHeaders path).occurs value (sought_of_recognised hvalue)).mp
          ⟨header, hheader, hleak⟩
      obtain ⟨hmem, hkept⟩ := List.mem_filter.mp hcookie
      rw [hdrops path cookie hmem, h.contained value hvalue cookie hmem hin] at hkept
      cases hkept
    · rw [otherCookies, otherCookies, hparts, List.filter_filter]
      refine List.filter_congr fun cookie _ => ?_
      by_cases hstart : startsWithSession cookie = true
      · simp [isSession_of_startsWith hstart]
      · simp [hstart]
    · rw [hparts, hparts]

/-- A blank before the equals sign brings the session to the node. -/
theorem spaced_session_leaks : ¬∀ rawHeaders, Isolates rawHeaders := by
  intro h
  have hrecognised : recognised [("Cookie".toList, "dsh-orbit-hub-session =abc".toList)] =
      some "abc".toList := by decide +kernel
  have hforwarded : "dsh-orbit-hub-session =abc".toList ∈
      Path.direct.forwarded [("Cookie".toList, "dsh-orbit-hub-session =abc".toList)] := by
    decide +kernel
  exact (h _).hidden .direct _ hrecognised _ hforwarded (by decide +kernel)

end DshOrbit.RouteProxy
