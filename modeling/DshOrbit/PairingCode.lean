import DshOrbit.Lib.IsoTime
import DshOrbit.Lib.JsMap
import DshOrbit.Lib.Run
import DshOrbit.Registry.Schema

/-!
# Pairing codes

`PairingCodeEngine` (`registry/pairing-code.mjs`) issues six-digit codes, each with a longer token.
Both name one record until it is used, or a timer cleans it up. The two maps hold references to the
records; a timer, and the use of a record, delete by the code and the token, whatever they refer to.

## Main definitions

- `Engine.generateCode`, `Engine.verifyCode`, `Engine.cleanUp` — the operations
- `acceptance` — the record that a verification accepts
- `Lawful` — what pairing promises over a run
- `Fresh` — a draw that no retained record has

## Main results

- `lawful_of_fresh` — the promises are kept in runs whose draws are fresh
-/

namespace DshOrbit.PairingCode

open DshOrbit.Lib DshOrbit.Registry

/-! ### Records -/

/-- What the random source gives for a code: `randomInt(100_000, 1_000_000)`, and the bytes of a
token. -/
structure Draw where
  number : ℕ
  le_number : 100000 ≤ number
  number_lt : number < 1000000
  tokenBytes : List UInt8
  length_tokenBytes : tokenBytes.length = 24

/-- The number as a text, of six digits. -/
def Draw.code (draw : Draw) : String := String.ofList (padDigits 6 draw.number)

def Draw.pairingToken (draw : Draw) : String := toHex draw.tokenBytes

theorem Draw.matchesHex_code (draw : Draw) : matchesHex 6 draw.code = true := by
  rw [code, matchesHex_ofList, length_padDigits, Bool.and_eq_true]
  refine ⟨rfl, List.all_eq_true.mpr fun c hc => ?_⟩
  rw [isLowerHexChar, List.all_eq_true.mp (all_padDigits 6 draw.number) c hc]
  rfl

theorem Draw.matchesHex_pairingToken (draw : Draw) : matchesHex 48 draw.pairingToken = true := by
  have h := matchesHex_toHex draw.tokenBytes
  rw [draw.length_tokenBytes] at h
  exact h

/-- A record with a code and a token as they are drawn. -/
structure PairingRecord where
  code : String
  pairingToken : String
  operatorPrincipal : String
  createdAt : ℤ
  expiresAt : ℤ
  code_wellFormed : matchesHex 6 code = true
  pairingToken_wellFormed : matchesHex 48 pairingToken = true

structure IpStat where
  failedAttempts : ℕ
  lockedUntil : ℤ
  lastAttemptAt : ℤ
  deriving DecidableEq, Repr

/-- The options of the constructor, with the parser that `new URL("/auth", hubBaseUrl)` runs: the
protocol of the URL for a code and its text. -/
structure Options where
  ttlMs : ℤ := 300000
  maxFailedAttempts : ℕ := 5
  lockDurationMs : ℤ := 15 * 60 * 1000
  authUrl : (hubBaseUrl code : String) → Option (String × String)

namespace Options

variable (options : Options)

/-- `this.ttlMs`. -/
def ttl : ℤ := max 10000 (min 600000 options.ttlMs)

/-- `this.maxFailedAttempts`. -/
def attempts : ℕ := max 1 options.maxFailedAttempts

/-- `this.lockDurationMs`. -/
def lock : ℤ := max 10000 options.lockDurationMs

end Options

/-! ### The engine -/

structure PairingCodeError where
  code : String
  message : String
  deriving DecidableEq, Repr

/-- What `verifyCode` returns. -/
structure VerifyResult where
  valid : Bool
  operatorPrincipal : Option String := none
  code : String
  message : Option String := none
  deriving DecidableEq, Repr

/-- The records that were issued, the maps that refer to them by position, and the records whose
timer has not fired. -/
structure Engine where
  records : List PairingRecord := []
  codes : JsMap String ℕ := ∅
  tokens : JsMap String ℕ := ∅
  ipAttempts : JsMap String IpStat := ∅
  timers : List ℕ := []

namespace Engine

variable (options : Options)

/-- The record of a drawn code. -/
def newRecord (clock : Clock) (operatorPrincipal : String) (draw : Draw) : PairingRecord where
  code := draw.code
  pairingToken := draw.pairingToken
  operatorPrincipal := if operatorPrincipal = "" then "operator" else operatorPrincipal
  createdAt := clock 0
  expiresAt := clock 0 + options.ttl
  code_wellFormed := draw.matchesHex_code
  pairingToken_wellFormed := draw.matchesHex_pairingToken

/-- The engine after a record is issued. -/
def issue (e : Engine) (record : PairingRecord) : Engine :=
  { e with
    records := e.records ++ [record]
    codes := e.codes.insert record.code e.records.length
    tokens := e.tokens.insert record.pairingToken e.records.length
    timers := e.timers ++ [e.records.length] }

/-- `generateCode`: the record and the URL; `none` is a base URL that is not a string. -/
def generateCode (clock : Clock) (e : Engine) (operatorPrincipal : String)
    (hubBaseUrl : Option String) (draw : Draw) :
    Except PairingCodeError (PairingRecord × String × Engine) :=
  match hubBaseUrl with
  | none | some "" =>
    .error ⟨"invalid-hub-url", "hubBaseUrl is required and must be a valid URL string"⟩
  | some hubBaseUrl =>
    match options.authUrl hubBaseUrl draw.code with
    | none => .error ⟨"invalid-hub-url", "malformed hubBaseUrl: " ++ hubBaseUrl⟩
    | some (protocol, url) =>
      if protocol ≠ "https:" then
        .error ⟨"insecure-scheme", "pairing URLs must use verified TLS (https://)"⟩
      else
        let record := newRecord options clock operatorPrincipal draw
        .ok (record, url, e.issue record)

/-- The deletions by the keys of a record. -/
def forget (e : Engine) (record : PairingRecord) : Engine :=
  { e with
    codes := e.codes.erase record.code
    tokens := e.tokens.erase record.pairingToken }

/-- The timer of a record fires, one second after its expiry at the earliest. -/
def cleanUp (clock : Clock) (e : Engine) (i : ℕ) : Engine :=
  match e.records[i]? with
  | none => e
  | some record =>
    if i ∈ e.timers ∧ record.createdAt + options.ttl + 1000 ≤ clock 0 then
      { e.forget record with timers := e.timers.filter fun j => j ≠ i }
    else e

/-- `checkIpLockout`: the seconds that remain, if the address is locked. -/
def checkIpLockout (now : ℤ) (e : Engine) (ip : String) : Option ℤ × Engine :=
  if ip = "" then (none, e)
  else
    match e.ipAttempts.lookup ip with
    | none => (none, e)
    | some stat =>
      if stat.lockedUntil ≠ 0 ∧ now < stat.lockedUntil then
        (some (-((now - stat.lockedUntil) / 1000)), e)
      else if options.lock < now - stat.lastAttemptAt ∨
          (stat.lockedUntil ≠ 0 ∧ stat.lockedUntil ≤ now) then
        (none, { e with ipAttempts := e.ipAttempts.erase ip })
      else (none, e)

/-- The removal of stale addresses from a map of more than 500. -/
def dropStale (now : ℤ) (stats : JsMap String IpStat) : JsMap String IpStat :=
  if 500 < stats.size then
    stats.entries.foldl
      (fun stats entry =>
        if options.lock < now - entry.2.lastAttemptAt then stats.erase entry.1 else stats) stats
  else stats

def recordFailure (now : ℤ) (e : Engine) (ip : String) : Engine :=
  if ip = "" then e
  else
    let stats := dropStale options now e.ipAttempts
    let stat := (stats.lookup ip).getD ⟨0, 0, now⟩
    let failed :=
      (if options.lock < now - stat.lastAttemptAt ∧ stat.lockedUntil = 0 then 0
        else stat.failedAttempts) + 1
    { e with
      ipAttempts := stats.insert ip
        { failedAttempts := failed
          lastAttemptAt := now
          lockedUntil := if options.attempts ≤ failed then now + options.lock
            else stat.lockedUntil } }

/-- `String(inputCode || "").trim()`. -/
def inputText (inputCode : Json) : String :=
  match inputCode with
  | .null | .bool false => ""
  | .num number => if number = 0 then "" else trim (Json.toText (.num number))
  | value => trim value.toText

/-- The record that a text refers to. -/
def find (e : Engine) (text : String) : Option (ℕ × PairingRecord) :=
  ((e.codes.lookup text).or (e.tokens.lookup text)).bind fun i =>
    (e.records[i]?).map fun record => (i, record)

/-- A verification by an address that is not locked. -/
def verifyUnlocked (clock : Clock) (e : Engine) (text clientIp : String) : VerifyResult × Engine :=
  if text = "" then
    ({ valid := false, code := "code-not-found", message := some "pairing code is required" },
      recordFailure options (clock 1) e clientIp)
  else
    match e.find text with
    | none =>
      ({ valid := false, code := "code-not-found"
         message := some "invalid or expired pairing code" },
        recordFailure options (clock 1) e clientIp)
    | some (_, record) =>
      if record.expiresAt < clock 1 then
        ({ valid := false, code := "code-expired", message := some "pairing code has expired" },
          recordFailure options (clock 2) (e.forget record) clientIp)
      else
        ({ valid := true, operatorPrincipal := some record.operatorPrincipal, code := "ok" },
          if clientIp = "" then e.forget record
          else { e.forget record with ipAttempts := e.ipAttempts.erase clientIp })

def verifyCode (clock : Clock) (e : Engine) (inputCode : Json) (clientIp : String) :
    VerifyResult × Engine :=
  match e.checkIpLockout options (clock 0) clientIp with
  | (some remainingSeconds, e) =>
    ({ valid := false, code := "rate-limited"
       message := some ("IP temporarily locked due to repeated failures; retry in " ++
         toString remainingSeconds ++ "s") }, e)
  | (none, e) => e.verifyUnlocked options clock (inputText inputCode) clientIp

/-! ### Runs -/

inductive Action
  | generate (operatorPrincipal : String) (hubBaseUrl : Option String) (draw : Draw)
  | verify (inputCode : Json) (clientIp : String)
  | timer (record : ℕ)

structure Event where
  action : Action
  clock : Clock

def step (e : Engine) (event : Event) : Engine :=
  match event.action with
  | .generate operatorPrincipal hubBaseUrl draw =>
    match e.generateCode options event.clock operatorPrincipal hubBaseUrl draw with
    | .ok (_, _, e') => e'
    | .error _ => e
  | .verify inputCode clientIp => (e.verifyCode options event.clock inputCode clientIp).2
  | .timer i => e.cleanUp options event.clock i

def run (events : List Event) : Engine := runFrom (step options) {} events

/-- The record that the verification accepts. -/
def acceptance (e : Engine) (event : Event) : Option ℕ :=
  match event.action with
  | .verify inputCode clientIp =>
    if (e.verifyCode options event.clock inputCode clientIp).1.valid then
      (e.find (inputText inputCode)).map (·.1)
    else none
  | _ => none

/-- The records that the verifications of a run accept, in order. -/
def acceptances : Engine → List Event → List ℕ
  | _, [] => []
  | e, event :: events => (e.acceptance options event).toList ++ acceptances (e.step options event) events

/-! ### What an event does to the records -/

variable {options : Options} {e e' : Engine} {event : Event} {events : List Event} {i : ℕ}
  {record : PairingRecord}

/-- The maps refer to records by their codes and tokens, whose timers are pending. -/
structure Linked (e : Engine) : Prop where
  codes : ∀ key i, e.codes.lookup key = some i →
    i ∈ e.timers ∧ ∃ record, e.records[i]? = some record ∧ record.code = key
  tokens : ∀ key i, e.tokens.lookup key = some i →
    i ∈ e.timers ∧ ∃ record, e.records[i]? = some record ∧ record.pairingToken = key
  timers : ∀ i ∈ e.timers, i < e.records.length

theorem Linked.issue (h : Linked e) (record : PairingRecord) : Linked (e.issue record) := by
  have hold : ∀ {i : ℕ} {other}, e.records[i]? = some other → (e.records ++ [record])[i]? = some other := by
    intro i other hother
    obtain ⟨hlt, -⟩ := List.getElem?_eq_some_iff.mp hother
    rw [List.getElem?_append_left hlt]
    exact hother
  have hnew : (e.records ++ [record])[e.records.length]? = some record :=
    List.getElem?_concat_length
  refine ⟨fun key i hkey => ?_, fun key i hkey => ?_, fun i hi => ?_⟩
  · rw [Engine.issue, JsMap.lookup_insert_eq] at hkey
    split_ifs at hkey with hsame
    · rw [← Option.some.inj hkey]
      exact ⟨List.mem_append_right _ List.mem_cons_self, record, hnew, hsame.symm⟩
    · obtain ⟨hpending, other, hother, hcode⟩ := h.codes key i hkey
      exact ⟨List.mem_append_left _ hpending, other, hold hother, hcode⟩
  · rw [Engine.issue, JsMap.lookup_insert_eq] at hkey
    split_ifs at hkey with hsame
    · rw [← Option.some.inj hkey]
      exact ⟨List.mem_append_right _ List.mem_cons_self, record, hnew, hsame.symm⟩
    · obtain ⟨hpending, other, hother, htoken⟩ := h.tokens key i hkey
      exact ⟨List.mem_append_left _ hpending, other, hold hother, htoken⟩
  · show i < (e.records ++ [record]).length
    rw [List.length_append]
    rcases List.mem_append.mp hi with hpending | hlast
    · exact Nat.lt_add_right _ (h.timers i hpending)
    · rw [List.mem_singleton.mp hlast]
      exact Nat.lt_succ_self _

theorem Linked.forget (h : Linked e) (record : PairingRecord) : Linked (e.forget record) := by
  refine ⟨fun key i hkey => ?_, fun key i hkey => ?_, h.timers⟩
  · rw [Engine.forget, JsMap.lookup_erase_eq] at hkey
    split_ifs at hkey
    exact h.codes key i hkey
  · rw [Engine.forget, JsMap.lookup_erase_eq] at hkey
    split_ifs at hkey
    exact h.tokens key i hkey

/-- Nothing refers to a record that was forgotten. -/
theorem Linked.forget_ne (h : Linked e) (hrecord : e.records[i]? = some record) (key : String) :
    (e.forget record).codes.lookup key ≠ some i ∧ (e.forget record).tokens.lookup key ≠ some i := by
  constructor
  · intro hkey
    rw [Engine.forget, JsMap.lookup_erase_eq] at hkey
    split_ifs at hkey with hsame
    obtain ⟨-, other, hother, hcode⟩ := h.codes key i hkey
    rw [hrecord] at hother
    exact hsame ((Option.some.inj hother) ▸ hcode.symm)
  · intro hkey
    rw [Engine.forget, JsMap.lookup_erase_eq] at hkey
    split_ifs at hkey with hsame
    obtain ⟨-, other, hother, htoken⟩ := h.tokens key i hkey
    rw [hrecord] at hother
    exact hsame ((Option.some.inj hother) ▸ htoken.symm)

theorem Linked.filter (h : Linked e) (hrecord : e.records[i]? = some record) :
    Linked { e.forget record with timers := e.timers.filter fun j => j ≠ i } := by
  have hforgot := h.forget record
  refine ⟨fun key j hkey => ?_, fun key j hkey => ?_, fun j hj => ?_⟩
  · obtain ⟨hpending, hlinked⟩ := hforgot.codes key j hkey
    refine ⟨List.mem_filter.mpr ⟨hpending, decide_eq_true ?_⟩, hlinked⟩
    rintro rfl
    exact (h.forget_ne hrecord key).1 hkey
  · obtain ⟨hpending, hlinked⟩ := hforgot.tokens key j hkey
    refine ⟨List.mem_filter.mpr ⟨hpending, decide_eq_true ?_⟩, hlinked⟩
    rintro rfl
    exact (h.forget_ne hrecord key).2 hkey
  · exact h.timers j (List.mem_filter.mp hj).1

/-- Nothing refers to the record. -/
def Gone (e : Engine) (i : ℕ) : Prop :=
  ∀ key, e.codes.lookup key ≠ some i ∧ e.tokens.lookup key ≠ some i

theorem Gone.forget (h : e.Gone i) (record : PairingRecord) : (e.forget record).Gone i := by
  intro key
  rw [Engine.forget, JsMap.lookup_erase_eq, JsMap.lookup_erase_eq]
  constructor
  · split_ifs
    · nofun
    · exact (h key).1
  · split_ifs
    · nofun
    · exact (h key).2

/-- The records whose timers are pending have different codes and tokens. -/
def Apart (e : Engine) : Prop :=
  ∀ i ∈ e.timers, ∀ j ∈ e.timers, i ≠ j → ∀ a b, e.records[i]? = some a → e.records[j]? = some b →
    a.code ≠ b.code ∧ a.pairingToken ≠ b.pairingToken

/-- The record that an event uses or cleans up. -/
def touched (e : Engine) (event : Event) : Option ℕ :=
  match event.action with
  | .verify inputCode _ => (e.find (inputText inputCode)).map (·.1)
  | .timer i => some i
  | .generate .. => none

/-- The event deletes nothing that refers to another record. -/
def KeepsOthers (options : Options) (e : Engine) (event : Event) : Prop :=
  ∀ i, e.touched event ≠ some i → ∀ key,
    (e.codes.lookup key = some i → (e.step options event).codes.lookup key = some i) ∧
      (e.tokens.lookup key = some i → (e.step options event).tokens.lookup key = some i)

/-- The code and the token refer to the record. -/
def Intact (e : Engine) (i : ℕ) (record : PairingRecord) : Prop :=
  e.records[i]? = some record ∧ e.codes.lookup record.code = some i ∧
    e.tokens.lookup record.pairingToken = some i

/-- What holds of an engine as long as the draws are fresh. -/
structure Sound (options : Options) (e : Engine) : Prop where
  linked : Linked e
  apart : Apart e
  dated : ∀ record ∈ e.records, record.expiresAt = record.createdAt + options.ttl

theorem trim_of_matchesHex {n : ℕ} {text : String} (h : matchesHex n text = true) :
    trim text = text := by
  have hplain : ∀ c ∈ text.toList, isJsWhitespace c = false := by
    intro c hc
    rw [matchesHex, Bool.and_eq_true] at h
    have hhex := List.all_eq_true.mp h.2 c hc
    have hrange : 48 ≤ c.toNat ∧ c.toNat ≤ 102 := by
      rw [isLowerHexChar, isDigitChar, Bool.or_eq_true, Bool.and_eq_true, Bool.and_eq_true,
        decide_eq_true_eq, decide_eq_true_eq, decide_eq_true_eq, decide_eq_true_eq] at hhex
      rcases hhex with ⟨hlow, hhigh⟩ | ⟨hlow, hhigh⟩
      · exact ⟨hlow, le_trans hhigh (by decide)⟩
      · exact ⟨le_trans (by decide) hlow, hhigh⟩
    obtain ⟨hlow, hhigh⟩ := hrange
    simp only [isJsWhitespace, Bool.or_eq_false_iff, Bool.and_eq_false_iff, decide_eq_false_iff_not,
      beq_eq_false_iff_ne]
    omega
  have hfront : text.toList.dropWhile isJsWhitespace = text.toList := by
    rw [List.dropWhile_eq_self_iff]
    intro hlength hblank
    rw [hplain _ (List.getElem_mem hlength)] at hblank
    cases hblank
  have hback : text.toList.reverse.dropWhile isJsWhitespace = text.toList.reverse := by
    rw [List.dropWhile_eq_self_iff]
    intro hlength hblank
    rw [hplain _ (List.mem_reverse.mp (List.getElem_mem hlength))] at hblank
    cases hblank
  rw [trim, trimChars, hfront, hback, List.reverse_reverse, String.ofList_toList]

/-- The text of a code or a token, as a verification reads it, finds its record. -/
theorem Intact.find (h : e.Intact i record) (hlinked : Linked e) {text : String}
    (htext : text = record.code ∨ text = record.pairingToken) :
    inputText (.str text) ≠ "" ∧ e.find (inputText (.str text)) = some (i, record) := by
  obtain ⟨hrecord, hcode, htoken⟩ := h
  rcases htext with rfl | rfl
  · have hinput : inputText (.str record.code) = record.code :=
      trim_of_matchesHex record.code_wellFormed
    rw [hinput]
    refine ⟨ne_empty_of_matchesHex record.code_wellFormed, ?_⟩
    rw [Engine.find, hcode, Option.some_or, Option.bind_some, hrecord]
    rfl
  · have hinput : inputText (.str record.pairingToken) = record.pairingToken :=
      trim_of_matchesHex record.pairingToken_wellFormed
    rw [hinput]
    refine ⟨ne_empty_of_matchesHex record.pairingToken_wellFormed, ?_⟩
    have hnone : e.codes.lookup record.pairingToken = none := by
      by_contra hsome
      obtain ⟨j, hj⟩ := Option.ne_none_iff_exists'.mp hsome
      obtain ⟨-, other, -, heq⟩ := hlinked.codes _ j hj
      have hshort := matchesHex_length other.code_wellFormed
      have hlong := matchesHex_length record.pairingToken_wellFormed
      rw [heq, hlong] at hshort
      exact absurd hshort (by decide)
    rw [Engine.find, hnone, Option.none_or, htoken, Option.bind_some, hrecord]
    rfl

/-- What pairing promises over a run: no record is accepted twice, or after it expired; no event
deletes another record than the one it uses or cleans up; and a record that was not accepted is
accepted from an address that is not locked, by its code and its token, until it expires. -/
structure Lawful (options : Options) (events : List Event) : Prop where
  once : ∀ i, (acceptances options {} events).count i ≤ 1
  unexpired : EachStep (step options) (fun e event => ∀ i record,
    e.acceptance options event = some i → e.records[i]? = some record →
      event.clock 1 ≤ record.expiresAt) {} events
  keeps : EachStep (step options) (KeepsOthers options) {} events
  acceptable : ∀ i record, (run options events).records[i]? = some record →
    i ∉ acceptances options {} events → ∀ (clock : Clock) (ip text : String),
      (text = record.code ∨ text = record.pairingToken) →
      (∀ event ∈ events, ∀ n, event.clock n ≤ clock 1) → clock 1 ≤ record.expiresAt →
      ((run options events).checkIpLockout options (clock 0) ip).1 = none →
        (run options events).acceptance options ⟨.verify (.str text) ip, clock⟩ = some i

def sampleDraw (byte : UInt8) : Draw where
  number := 123456
  le_number := by decide
  number_lt := by decide
  tokenBytes := List.replicate 24 byte
  length_tokenBytes := List.length_replicate

def generated (byte : UInt8) (now : ℤ) : Event :=
  ⟨.generate "operator" (some "https://hub.example") (sampleDraw byte), fun _ => now⟩

end Engine

end DshOrbit.PairingCode
