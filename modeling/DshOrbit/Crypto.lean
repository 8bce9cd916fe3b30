import DshOrbit.Protocol
import DshOrbit.Lib.Bytes

/-!
# Protocol primitives

Key ids, digests and signature checks as the registry and the nodes compute them
(`registry/crypto.mjs`). The hash function and the Ed25519 check of the runtime
are parameters; the texts around them are the program's own.

## Main definitions

- `Crypto` — the primitives the runtime provides
- `deriveKeyId` — the first 16 bytes of the digest of a raw public key
- `verifySigningString` — a signature check over texts
-/

namespace DshOrbit

open Lib Protocol

/-- The primitives of `node:crypto`. -/
structure Crypto where
  sha256 : List UInt8 → List UInt8
  length_sha256 : ∀ data, (sha256 data).length = 32
  /-- The Ed25519 check of a signature over a message under a raw public key. -/
  verify : (publicKey message signature : List UInt8) → Bool

/-! ### Hexadecimal texts -/

def hexOfByte (b : UInt8) : List Char := [hexDigit (b.toNat / 16), hexDigit (b.toNat % 16)]

/-- `buffer.toString("hex")`. -/
def toHex (bytes : List UInt8) : String := String.ofList (bytes.flatMap hexOfByte)

def hexValue (c : Char) : Option ℕ :=
  let n := c.toNat
  if 48 ≤ n ∧ n ≤ 57 then some (n - 48)
  else if 97 ≤ n ∧ n ≤ 102 then some (n - 87)
  else if 65 ≤ n ∧ n ≤ 70 then some (n - 55)
  else none

/-- `Buffer.from(chars, "hex")`, which stops at the first pair that is not one of
hexadecimal digits. -/
def fromHex : List Char → List UInt8
  | high :: low :: rest =>
    match hexValue high, hexValue low with
    | some h, some l => UInt8.ofNat (16 * h + l) :: fromHex rest
    | _, _ => []
  | _ => []

theorem hexValue_of_isLowerHexChar {c : Char} (h : isLowerHexChar c = true) :
    (hexValue c).isSome = true := by
  simp only [isLowerHexChar, isDigitChar, Bool.or_eq_true, Bool.and_eq_true, decide_eq_true_eq,
    Char.le_def, UInt32.le_iff_toNat_le] at h
  have h0 : c.toNat = c.val.toNat := rfl
  simp only [hexValue]
  rcases h with ⟨h1, h2⟩ | ⟨h1, h2⟩
  · rw [if_pos ⟨h1, h2⟩]
    rfl
  · have h3 : 97 ≤ c.toNat := h1
    have h4 : c.toNat ≤ 102 := h2
    rw [if_neg (by omega), if_pos ⟨h3, h4⟩]
    rfl

/-- An even number of lower-case digits is one byte for each pair. -/
theorem length_fromHex {n : ℕ} {chars : List Char} (hlength : chars.length = 2 * n)
    (hhex : chars.all isLowerHexChar = true) : (fromHex chars).length = n := by
  induction n generalizing chars with
  | zero =>
    have : chars = [] := List.eq_nil_of_length_eq_zero (by omega)
    rw [this]
    rfl
  | succ n ih =>
    match chars, hlength with
    | high :: low :: rest, hlength =>
      simp only [List.all_cons, Bool.and_eq_true] at hhex
      obtain ⟨hh, hl, hrest⟩ := hhex
      obtain ⟨h, hh⟩ := Option.isSome_iff_exists.mp (hexValue_of_isLowerHexChar hh)
      obtain ⟨l, hl⟩ := Option.isSome_iff_exists.mp (hexValue_of_isLowerHexChar hl)
      simp only [List.length_cons] at hlength
      simp only [fromHex, hh, hl, List.length_cons, ih (by omega) hrest]

theorem isLowerHexChar_hexDigit {n : ℕ} (h : n < 16) : isLowerHexChar (hexDigit n) = true := by
  have : ∀ k : Fin 16, isLowerHexChar (hexDigit k) = true := by decide
  exact this ⟨n, h⟩

theorem length_flatMap_hexOfByte (bytes : List UInt8) :
    (bytes.flatMap hexOfByte).length = 2 * bytes.length := by
  induction bytes with
  | nil => rfl
  | cons b rest ih =>
    simp only [List.flatMap_cons, List.length_append, ih, List.length_cons]
    simp only [hexOfByte, List.length_cons, List.length_nil]
    omega

theorem all_flatMap_hexOfByte (bytes : List UInt8) :
    (bytes.flatMap hexOfByte).all isLowerHexChar = true := by
  rw [List.all_eq_true]
  intro c hc
  obtain ⟨b, -, hcb⟩ := List.mem_flatMap.mp hc
  have hb := b.toNat_lt
  simp only [hexOfByte, List.mem_cons, List.not_mem_nil, or_false] at hcb
  rcases hcb with rfl | rfl
  · exact isLowerHexChar_hexDigit (by omega)
  · exact isLowerHexChar_hexDigit (by omega)

/-- A buffer is written as two lower-case digits a byte. -/
theorem matchesHex_toHex (bytes : List UInt8) :
    matchesHex (2 * bytes.length) (toHex bytes) = true := by
  simp only [matchesHex, toHex, String.toList_ofList, length_flatMap_hexOfByte,
    all_flatMap_hexOfByte, beq_self_eq_true, Bool.and_self]

/-! ### Digests, key ids and signatures -/

def sha256Hex (crypto : Crypto) (data : List UInt8) : String := toHex (crypto.sha256 data)

def rawPublicKey (publicKeyHex : String) : Except String (List UInt8) :=
  if !isPublicKey publicKeyHex then
    .error ("registry wire contract: public key must be 64 lowercase hex chars (got " ++
      quoteJson publicKeyHex ++ ")")
  else .ok (fromHex publicKeyHex.toList)

def deriveKeyId (crypto : Crypto) (publicKeyHex : String) : Except String String := do
  let raw ← rawPublicKey publicKeyHex
  return String.ofList ((sha256Hex crypto raw).toList.take 32)

def verifySigningString (crypto : Crypto) (publicKeyHex signingString signatureHex : String) :
    Except String Bool :=
  let signature := fromHex signatureHex.toList
  if signature.length ≠ 64 then .ok false
  else do
    let raw ← rawPublicKey publicKeyHex
    return crypto.verify raw (utf8Bytes signingString) signature

/-- On a well-formed key and signature the check is that of the raw bytes. -/
theorem verifySigningString_eq {crypto : Crypto} {publicKeyHex signingString signatureHex : String}
    (hkey : isPublicKey publicKeyHex = true) (hsignature : isSignature signatureHex = true) :
    verifySigningString crypto publicKeyHex signingString signatureHex =
      .ok (crypto.verify (fromHex publicKeyHex.toList) (utf8Bytes signingString)
        (fromHex signatureHex.toList)) := by
  simp only [isSignature, matchesHex, Bool.and_eq_true, beq_iff_eq] at hsignature
  have hlen := length_fromHex (n := 64) hsignature.1 hsignature.2
  simp only [verifySigningString, hlen, ne_eq, not_true, if_false, rawPublicKey, hkey]
  rfl

theorem isKeyId_of_deriveKeyId {crypto : Crypto} {publicKeyHex keyId : String}
    (h : deriveKeyId crypto publicKeyHex = .ok keyId) :
    isPublicKey publicKeyHex = true ∧ isKeyId keyId = true := by
  cases hpk : isPublicKey publicKeyHex with
  | false =>
    simp only [deriveKeyId, rawPublicKey, hpk] at h
    cases h
  | true =>
    refine ⟨rfl, ?_⟩
    simp only [deriveKeyId, rawPublicKey, hpk] at h
    cases h
    have hlen := crypto.length_sha256 (fromHex publicKeyHex.toList)
    simp only [isKeyId, matchesHex, sha256Hex, toHex, String.toList_ofList, List.length_take,
      length_flatMap_hexOfByte, hlen, Bool.and_eq_true, beq_iff_eq]
    refine ⟨by norm_num, ?_⟩
    rw [List.all_eq_true]
    intro c hc
    exact List.all_eq_true.mp (all_flatMap_hexOfByte _) c (List.mem_of_mem_take hc)

end DshOrbit
