import DshOrbit.Lib.JsString
import DshOrbit.Lib.Json

/-!
# Wire constants and signing strings

The fixed encodings of the machine and route protocols
(`registry/protocol.mjs`): time windows, identifier patterns, the strings that
are signed, and the route authority of a node.

## Main definitions

- `buildSigningString`, `buildRouteSigningString` — the signed texts
- `validateRouteDomain`, `computeRouteAuthority` — the authority of a node
- `isValidOriginFormTarget` — the accepted request targets
-/

namespace DshOrbit.Protocol

open DshOrbit.Lib

/-! ### Labels, windows and retentions -/

def machineV1Label : String := "ORBIT-MACHINE-V1"
def reenrollV1Label : String := "ORBIT-REENROLL-V1"
def routeV1Label : String := "ORBIT-ROUTE-V1"

/-- The accepted distance of a machine timestamp from the clock, in seconds. -/
def signatureSkewSeconds : ℤ := 30

/-- The accepted distance of a route timestamp from the clock, in milliseconds. -/
def routeSkewMs : ℤ := 30 * 1000

def nonceCacheRetentionMs : ℤ := 60 * 1000

def nonceRetentionMs : ℤ := 24 * 60 * 60 * 1000
def enrollmentResultRetentionMs : ℤ := 90 * 24 * 60 * 60 * 1000
def eventRetentionMs : ℤ := 90 * 24 * 60 * 60 * 1000
def reportRetentionMs : ℤ := 90 * 24 * 60 * 60 * 1000
def auditRetentionMs : ℤ := 365 * 24 * 60 * 60 * 1000
def eventRollupAfterMs : ℤ := 7 * 24 * 60 * 60 * 1000
def reportStalenessMs : ℤ := 7 * 24 * 60 * 60 * 1000
def sessionTtlMs : ℤ := 12 * 60 * 60 * 1000
def sessionIdleMs : ℤ := 30 * 60 * 1000

def tokenTtlSecondsDefault : ℤ := 10 * 60
def tokenTtlSecondsMin : ℤ := 60
def tokenTtlSecondsMax : ℤ := 60 * 60

def rotationOverlapHoursMin : ℤ := 1
def rotationOverlapHoursMax : ℤ := 168
def hubRouteRotationOverlapDaysMin : ℤ := 1
def hubRouteRotationOverlapDaysMax : ℤ := 30

def heartbeatMissedBeatsStale : ℤ := 3
def heartbeatLostMs : ℤ := 24 * 60 * 60 * 1000
def routeProbeFailureThreshold : ℕ := 3

/-! ### Patterns -/

/-- `NODE_ID_PATTERN`, `^node_[0-9a-f]{32}$`. -/
def isNodeId (s : String) : Bool :=
  "node_".toList.isPrefixOf s.toList && matchesHex 32 (String.ofList (s.toList.drop 5))

theorem isNodeId_ofList (chars : List Char) :
    isNodeId (String.ofList ('n' :: 'o' :: 'd' :: 'e' :: '_' :: chars)) =
      (chars.length == 32 && chars.all isLowerHexChar) := by
  have h : "node_".toList = ['n', 'o', 'd', 'e', '_'] := rfl
  simp only [isNodeId, String.toList_ofList, h, List.isPrefixOf, List.drop, beq_self_eq_true,
    Bool.true_and, matchesHex]

/-- `KEY_ID_PATTERN`, and likewise the patterns of nonces, tokens and request ids. -/
def isKeyId (s : String) : Bool := matchesHex 32 s
def isNonce (s : String) : Bool := matchesHex 32 s
def isToken (s : String) : Bool := matchesHex 32 s
def isRequestId (s : String) : Bool := matchesHex 32 s
def isPublicKey (s : String) : Bool := matchesHex 64 s
def isSignature (s : String) : Bool := matchesHex 128 s

/-! ### Signing strings -/

structure SigningFields where
  label : String
  method : String
  path : String
  timestamp : String
  nonce : String
  bodyHash : String
  nodeId : String

def buildSigningString (f : SigningFields) : String :=
  String.intercalate "\n" [f.label, f.method, f.path, f.timestamp, f.nonce, f.bodyHash, f.nodeId]

structure RouteSigningFields where
  label : String := routeV1Label
  nodeId : String
  routeAuthority : String
  method : String
  rawTarget : String
  timestamp : String
  nonce : String

def buildRouteSigningString (f : RouteSigningFields) : String :=
  String.intercalate "\n"
    [f.label, f.nodeId, f.routeAuthority, f.method, f.rawTarget, f.timestamp, f.nonce]

/-! ### Route authority -/

def isDomainChar (c : Char) : Bool :=
  ('a' ≤ c && c ≤ 'z') || isDigitChar c || c == '.' || c == '-'

/-- The pattern `^[a-z0-9.-]+(:[0-9]+)?$`. -/
def isDomainText (chars : List Char) : Bool :=
  let name := chars.takeWhile isDomainChar
  match chars.dropWhile isDomainChar with
  | [] => !name.isEmpty
  | c :: port => !name.isEmpty && c == ':' && !port.isEmpty && port.all isDigitChar

/-- `s.replace(/^\.+|\.+$/g, "")`. -/
def stripDots (chars : List Char) : List Char :=
  ((chars.dropWhile (· == '.')).reverse.dropWhile (· == '.')).reverse

def validateRouteDomain (value : String) : Except String String :=
  if trim value = "" then .error "routeDomain is required"
  else
    let trimmed := stripDots (toLowerCase (trim value)).toList
    if trimmed.any fun c => c == '/' || c == '?' || c == '#' || c == '@' then
      .error ("routeDomain must carry no scheme, path, query, or credentials (got " ++
        quoteJson value ++ ")")
    else if !isDomainText trimmed then
      .error ("routeDomain is malformed (got " ++ quoteJson value ++ ")")
    else .ok (String.ofList trimmed)

def computeRouteAuthority (nodeId routeDomain : String) : Except String String :=
  if !isNodeId nodeId then .error ("invalid nodeId for route authority: " ++ quoteJson nodeId)
  else do
    let cleanDomain ← validateRouteDomain routeDomain
    return "n-" ++ String.ofList (nodeId.toList.drop 5) ++ "." ++ cleanDomain

/-- RFC 9112 origin form: one leading slash, and neither a scheme nor a backslash
before the query. -/
def isValidOriginFormTarget (target : String) : Bool :=
  let chars := target.toList
  let pathOnly := chars.takeWhile (· ≠ '?')
  "/".toList.isPrefixOf chars && !"//".toList.isPrefixOf chars &&
    !("//".toList.isPrefixOf pathOnly || includesChars "://".toList pathOnly ||
      pathOnly.contains '\\')

end DshOrbit.Protocol
