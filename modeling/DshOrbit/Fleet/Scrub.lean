import DshOrbit.Lib.Json
import DshOrbit.Lib.Regex

/-!
# Credential scrubbing

The redaction of values for display (`registry/fleet-scheduler.mjs`): values under sensitive
names are replaced, and in every other text what looks like a credential.

## Main definitions

- `isSensitiveKey` — the names whose values are replaced
- `scrubString` — the replacements in a text
- `scrubSensitiveCredentials` — both, at every depth of a value
-/

namespace DshOrbit.Fleet

open DshOrbit.Lib DshOrbit.Lib.Regex

/-! ### Names -/

def containsText (part text : String) : Bool := includesChars part.toList text.toList

def startsWithText (part text : String) : Bool := part.toList.isPrefixOf text.toList

def endsWithText (part text : String) : Bool := part.toList.reverse.isPrefixOf text.toList.reverse

def plainIds : List String :=
  ["keyid", "tokenid", "nodeid", "requestid", "currentkeyid", "newkeyid"]

def plainNames : List String :=
  ["monkey", "hockey", "author", "authority", "routeauthority", "route_authority", "sessioncount",
    "session_count", "sessionstate", "session_state"]

def sensitiveParts : List String :=
  ["secret", "password", "passwd", "token", "apikey", "api_key", "api-key", "credential",
    "privatekey", "private_key", "private-key", "session", "cookie", "csrf"]

def isSensitiveKey (name : String) : Bool :=
  let lower := toLowerCase name
  if plainIds.contains lower then false
  else if plainNames.contains lower then false
  else
    sensitiveParts.any (containsText · lower) || lower == "key" || endsWithText "_key" lower ||
      endsWithText "-key" lower || lower == "auth" || lower == "authorization" ||
      startsWithText "auth" lower || endsWithText "auth" lower

/-! ### Texts -/

def isLetter (c : Char) : Bool := ('a' ≤ c && c ≤ 'z') || ('A' ≤ c && c ≤ 'Z')

def isAlphanumeric (c : Char) : Bool := isLetter c || isDigitChar c

def isHexDigit (c : Char) : Bool := isDigitChar c || ('a' ≤ c && c ≤ 'f') || ('A' ≤ c && c ≤ 'F')

def isBlank (c : Char) : Bool := c == ' ' || c == '\t'

def isQuote (c : Char) : Bool := c.toNat == 0x27 || c.toNat == 0x22

def isLineTerminator (c : Char) : Bool :=
  c == '\n' || c == '\r' || c.toNat == 0x2028 || c.toNat == 0x2029

/-- The characters of a PEM label, `[ A-Z0-9_-]`. -/
def isLabelChar (c : Char) : Bool :=
  c == ' ' || ('A' ≤ c && c ≤ 'Z') || isDigitChar c || c == '_' || c == '-'

/-- The characters of a bearer token. -/
def isTokenChar (c : Char) : Bool := isAlphanumeric c || charIn "._~+/-".toList c

def separators (c : Char) : Bool := isJsWhitespace c || c == ',' || c == ';'

def privateKeyBegin : Regex :=
  sequence [literal "-----BEGIN".toList, many isLabelChar, literal "PRIVATE KEY-----".toList]

def privateKeyBlock : Regex :=
  sequence [privateKeyBegin, .star false (.char fun _ => true), literal "-----END".toList,
    many isLabelChar, literal "PRIVATE KEY-----".toList]

def urlPassword : Regex :=
  sequence [
    .group 1 (sequence [.char isLetter, many fun c => isAlphanumeric c || charIn "+.-".toList c,
      literal "://".toList, many1 fun c => c != '/' && c != ':', literal ":".toList]),
    .group 2 (many1 fun c => c != '/' && c != '@'), .group 3 (literal "@".toList)]

def authorizationBearer : Regex :=
  sequence [literalAnyCase "authorization:".toList, many isBlank, literalAnyCase "bearer".toList,
    many1 isBlank, many1 isTokenChar, many (· == '=')]

def bearerToken : Regex :=
  sequence [.wordBoundary, literalAnyCase "bearer".toList, many1 isBlank, many1 isTokenChar,
    many (· == '=')]

def authorizationBasic : Regex :=
  sequence [literalAnyCase "authorization:".toList, many isBlank, literalAnyCase "basic".toList,
    many1 isBlank, atLeast 4 fun c => isAlphanumeric c || charIn "+/=".toList c]

def authorizationOther : Regex :=
  sequence [literalAnyCase "authorization:".toList, many isBlank,
    .notAhead (choice (literalAnyCase "bearer".toList)
      [literalAnyCase "basic".toList, literalAnyCase "[redacted".toList]),
    many1 fun c => !separators c,
    optional (.seq (many1 isBlank) (many1 fun c => !separators c))]

def curlUser : Regex :=
  sequence [
    .group 1 (sequence [literalAnyCase "curl".toList, many1 isJsWhitespace,
      .star false (.char fun c => !isLineTerminator c),
      choice (literalAnyCase "-u".toList) [literalAnyCase "--user".toList], many1 isJsWhitespace,
      optional (.char isQuote),
      many1 fun c => c != ':' && !isJsWhitespace c && !isQuote c, literal ":".toList]),
    .group 2 (many1 fun c => !isJsWhitespace c && !isQuote c)]

def sessionCookie : Regex :=
  .seq (literalAnyCase "dsh-orbit-hub-session=".toList)
    (many1 fun c => c != ';' && !isJsWhitespace c)

def sessionId : Regex :=
  sequence [.wordBoundary, literal "sess_".toList, atLeast 16 isHexDigit, .wordBoundary]

/-- `[_-]?` or `[_-]` between two words. -/
def joiner : Regex := .char fun c => c == '_' || c == '-'

def assignedNames : Regex :=
  choice
    (.seq (many isWordChar) (choice (literalAnyCase "token".toList)
      [literalAnyCase "secret".toList, literalAnyCase "password".toList,
        literalAnyCase "passwd".toList, literalAnyCase "credential".toList,
        sequence [literalAnyCase "session".toList, optional joiner, literalAnyCase "id".toList]]))
    [sequence [many isWordChar, joiner, literalAnyCase "key".toList],
      sequence [literalAnyCase "api".toList, optional joiner, literalAnyCase "key".toList],
      literalAnyCase "key".toList, literalAnyCase "auth".toList]

def assignment : Regex :=
  .seq
    (.group 1 (choice
      (sequence [.wordBoundary, assignedNames, .wordBoundary, many isJsWhitespace,
        .char fun c => c == ':' || c == '=', many isJsWhitespace])
      [sequence [.wordBoundary, literalAnyCase "authorization".toList, .wordBoundary,
        many isJsWhitespace, .char (· == '='), many isJsWhitespace]]))
    (choice
      (sequence [.char isQuote, many fun c => !isQuote c && c != '\r' && c != '\n', .char isQuote])
      [many1 fun c => !separators c])

/-- The replacements in their order. -/
def scrubChars (chars : List Char) : List Char :=
  let withoutKeys :=
    if privateKeyBegin.occurs chars then
      replaceAll privateKeyBlock [.text "[REDACTED_PRIVATE_KEY]".toList] chars
    else chars
  let replacements : List (Regex × List Piece) :=
    [(urlPassword, [.captured 1, .text "[REDACTED]".toList, .captured 3]),
      (authorizationBearer, [.text "Authorization: Bearer [REDACTED_TOKEN]".toList]),
      (bearerToken, [.text "Bearer [REDACTED_TOKEN]".toList]),
      (authorizationBasic, [.text "Authorization: Basic [REDACTED_AUTH]".toList]),
      (authorizationOther, [.text "Authorization: [REDACTED]".toList]),
      (curlUser, [.captured 1, .text "[REDACTED]".toList]),
      (sessionCookie, [.text "dsh-orbit-hub-session=[REDACTED_SESSION]".toList]),
      (sessionId, [.text "[REDACTED_SESSION]".toList]),
      (assignment, [.captured 1, .text "[REDACTED]".toList])]
  replacements.foldl (fun text entry => replaceAll entry.1 entry.2 text) withoutKeys

def scrubString (text : String) : String := String.ofList (scrubChars text.toList)

/-! ### Values -/

mutual

/-- The entries of an object are set one by one on a new one, where `__proto__` sets no
entry. -/
def scrubSensitiveCredentials : Json → Json
  | .str text => .str (scrubString text)
  | .arr items => .arr (scrubItems items)
  | .obj fields => .obj (scrubFields fields)
  | value => value

def scrubItems : List Json → List Json
  | [] => []
  | item :: rest => scrubSensitiveCredentials item :: scrubItems rest

def scrubFields : List (String × Json) → List (String × Json)
  | [] => []
  | (name, value) :: rest =>
    if name = "__proto__" then scrubFields rest
    else if isSensitiveKey name then (name, .str "[REDACTED]") :: scrubFields rest
    else (name, scrubSensitiveCredentials value) :: scrubFields rest

end

example : scrubString "DB_PASSWORD=pw123 ok" = "DB_PASSWORD=[REDACTED] ok" := by decide +kernel

end DshOrbit.Fleet
