import DshOrbit.Lib.IsoTime
import DshOrbit.Lib.Json
import DshOrbit.Lib.Outcome
import DshOrbit.Lib.Regex
import Mathlib.Data.List.Nodup
import Mathlib.Data.List.Sort
import Mathlib.Logic.Function.Basic
import Mathlib.Tactic.SplitIfs

/-!
# Compatibility reports

`createCompatibilityReport` (`compatibility-report.mjs`) makes a report of the evidence that a
verification collected, and the Hub applies it again to every report that is uploaded. The verdict
and the readiness for promotion are derived from the evidence, not read from it.

## Main definitions

- `CheckName`, `Check` — the known checks and what is reported of one
- `deriveCompatibility`, `derivePromotionReadiness` — the verdicts
- `createCompatibilityReport` — the function of that name
- `Report.toJson` — the report as the value it is

## Main results

- `resanitized_iff` — when a report is what the Hub makes of it
-/

namespace DshOrbit.Upgrade

open DshOrbit.Lib DshOrbit.Lib.Regex

/-! ### Checks -/

/-- `KNOWN_CHECKS`. -/
inductive CheckName
  | globalPatch
  | profilePatch
  | runtimeReadiness
  | settingsRead
  | settingsNoopWrite
  | authorizationSmoke
  | sessionResume
  | webPluginRoutes
  | longLivedTransport
  | webSocketTransport
  | terminalFence
  | terminalPtty
  deriving DecidableEq, Repr

namespace CheckName

def text : CheckName → String
  | globalPatch => "globalPatch"
  | profilePatch => "profilePatch"
  | runtimeReadiness => "runtimeReadiness"
  | settingsRead => "settingsRead"
  | settingsNoopWrite => "settingsNoopWrite"
  | authorizationSmoke => "authorizationSmoke"
  | sessionResume => "sessionResume"
  | webPluginRoutes => "webPluginRoutes"
  | longLivedTransport => "longLivedTransport"
  | webSocketTransport => "webSocketTransport"
  | terminalFence => "terminalFence"
  | terminalPtty => "terminalPtty"

/-- `REQUIRED_CHECKS`. -/
def required : CheckName → Bool
  | longLivedTransport | webSocketTransport | terminalFence | terminalPtty => false
  | _ => true

def all : List CheckName :=
  [globalPatch, profilePatch, runtimeReadiness, settingsRead, settingsNoopWrite,
    authorizationSmoke, sessionResume, webPluginRoutes, longLivedTransport, webSocketTransport,
    terminalFence, terminalPtty]

theorem mem_all (name : CheckName) : name ∈ all := by
  cases name <;> decide

theorem nodup_all : all.Nodup := by decide

end CheckName

/-- `CHECK_STATUSES`. -/
inductive CheckStatus
  | pass
  | fail
  | notRun
  deriving DecidableEq, Repr

def CheckStatus.text : CheckStatus → String
  | pass => "pass"
  | fail => "fail"
  | notRun => "not_run"

def CheckStatus.ofText : String → Option CheckStatus
  | "pass" => some pass
  | "fail" => some fail
  | "not_run" => some notRun
  | _ => none

theorem CheckStatus.ofText_text (status : CheckStatus) : ofText status.text = some status := by
  cases status <;> rfl

/-- What is reported of a check; whether it is required goes by its name. -/
structure Check where
  status : CheckStatus
  detail : String
  deriving DecidableEq, Repr

abbrev Checks := CheckName → Check

/-! ### Texts -/

/-- A text that is not blank. -/
abbrev RequiredText := { s : String // trim s ≠ "" }

/-- A text that is not empty. -/
abbrev GivenText := { s : String // s ≠ "" }

def requiredString (value : Option Json) (label : String) : Except String RequiredText :=
  match value with
  | some (.str s) =>
    if h : trim s ≠ "" then .ok ⟨s, h⟩
    else .error ("compatibility report: " ++ label ++ " is required")
  | _ => .error ("compatibility report: " ++ label ++ " is required")

def optionalString (value : Option Json) (label : String) : Except String (Option GivenText) :=
  match value with
  | none | some .null => .ok none
  | some (.str s) => if h : s ≠ "" then .ok (some ⟨s, h⟩) else .ok none
  | some _ => .error ("compatibility report: " ++ label ++ " must be a string or null")

/-- A text or `null`. -/
def nullable : Option GivenText → Json
  | none => .null
  | some s => .str s

@[simp]
theorem requiredString_text (s : RequiredText) (label : String) :
    requiredString (some (.str s)) label = .ok s := dif_pos s.2

@[simp]
theorem optionalString_nullable (s : Option GivenText) (label : String) :
    optionalString (some (nullable s)) label = .ok s := by
  cases s with
  | none => rfl
  | some s => exact dif_pos s.2

mutual

/-- Whether `String(value)` is defined: an own `toString` that is no function hides the one that
every object has. -/
def convertible : Json → Bool
  | .obj fields => fields.all fun entry => entry.1 != "toString"
  | .arr items => convertibleItems items
  | _ => true

def convertibleItems : List Json → Bool
  | [] => true
  | item :: rest => convertible item && convertibleItems rest

end

def redact (text secret : String) : String :=
  if secret = "" then text
  else String.ofList
    (replaceAll (literal secret.toList) [.text "[redacted]".toList] text.toList)

def sanitizeDetail (value : Json) (redactions : List String) : Except String String :=
  if convertible value then .ok (redactions.foldl redact value.toText)
  else .error "Cannot convert object to primitive value"

/-! ### The checks of an input -/

/-- The array index that a property name is; such names come first among the keys. -/
def arrayIndex (name : String) : Option ℕ :=
  if isDigits name ∧ (name = "0" ∨ name.toList.head? ≠ some '0') ∧ ofDigits name < 4294967295 then
    some (ofDigits name)
  else none

/-- `Object.keys(value ?? {})`. -/
def objectKeys : Option Json → List String
  | some (.obj fields) =>
    let names := (fields.map (·.1)).eraseDups
    let indices := names.filter fun name => (arrayIndex name).isSome
    indices.insertionSort (fun a b => (arrayIndex a).getD 0 ≤ (arrayIndex b).getD 0) ++
      names.filter fun name => (arrayIndex name).isNone
  | some (.arr items) => (List.range items.length).map toString
  | some (.str s) => (List.range s.toList.length).map toString
  | _ => []

def isKnownCheck (name : String) : Bool := CheckName.all.any fun known => known.text == name

/-- The entry of one known check. -/
def normalizeCheck (inputChecks : Option Json) (redactions : List String) (name : CheckName) :
    Except String Check :=
  match inputChecks.bind (Json.field name.text) with
  | none | some .null => .ok ⟨.notRun, ""⟩
  | some entry =>
    match ((entry.field "status").bind Json.str?).bind CheckStatus.ofText with
    | none =>
      .error ("compatibility report: check " ++ name.text ++ " has invalid status " ++
        stringifyText (entry.field "status") ++ " (expected one of pass, fail, not_run)")
    | some status =>
      match entry.field "detail" with
      | none => .ok ⟨status, ""⟩
      | some detail => do
        let detail ← sanitizeDetail detail redactions
        return ⟨status, detail⟩

/-- The results for all names, the first error first. -/
def collect (check : CheckName → Except String Check) : Except String Checks :=
  CheckName.all.foldlM
    (fun checks name => do
      let entry ← check name
      return Function.update checks name entry)
    fun _ => ⟨.notRun, ""⟩

def normalizeChecks (inputChecks : Option Json) (redactions : List String) :
    Except String Checks :=
  match (objectKeys inputChecks).find? fun name => !isKnownCheck name with
  | some name => .error ("compatibility report: unknown check " ++ quoteJson name)
  | none => collect (normalizeCheck inputChecks redactions)

/-! ### Verdicts -/

/-- A compatibility outcome and its reasons. -/
structure Compatibility where
  passes : Bool
  reasons : List String
  deriving DecidableEq, Repr

/-- The reason that a check gives against compatibility. -/
def failureReason (checks : Checks) (name : CheckName) : Option String :=
  match (checks name).status with
  | .fail => some (name.text ++ "=fail")
  | .notRun => if name.required then some (name.text ++ "=not_run") else none
  | .pass => none

def deriveCompatibility (checks : Checks) : Compatibility :=
  let reasons := CheckName.all.filterMap (failureReason checks)
  ⟨reasons.isEmpty, reasons⟩

/-- `PROMOTION_OUTCOMES`. -/
inductive PromotionOutcome
  | eligible
  | notEligible
  | notEvaluated
  deriving DecidableEq, Repr

def PromotionOutcome.text : PromotionOutcome → String
  | eligible => "eligible-for-manual-promotion"
  | notEligible => "not-eligible-for-promotion"
  | notEvaluated => "promotion-readiness-not-evaluated"

structure PromotionReadiness where
  outcome : PromotionOutcome
  reasons : List String
  deriving DecidableEq, Repr

structure Orbit where
  version : RequiredText
  revision : Option GivenText

structure Baseline where
  image : Option GivenText
  orbitRevision : Option GivenText
  dshVersion : Option GivenText

structure Candidate where
  dshVersion : RequiredText
  profile : Option GivenText

structure Snapshot where
  reference : Option GivenText
  failure : Option GivenText

/-- The reason that a missing text gives. -/
def missing (text : Option GivenText) (reason : String) : List String :=
  if text.isNone then [reason] else []

def snapshotReasons (snapshot : Snapshot) : List String :=
  match snapshot.failure with
  | some failure => ["snapshot=" ++ failure]
  | none => missing snapshot.reference "snapshot reference missing"

def derivePromotionReadiness (compatibility : Compatibility) (orbit : Orbit)
    (candidate : Candidate) (baseline : Baseline) (snapshot : Snapshot)
    (promotionEvaluated : Bool) : PromotionReadiness :=
  if !promotionEvaluated then ⟨.notEvaluated, []⟩
  else
    let reasons := compatibility.reasons ++ missing orbit.revision "orbit.revision missing" ++
      missing candidate.profile "candidate.profile missing" ++
      missing baseline.image "baseline.image missing" ++
      missing baseline.orbitRevision "baseline.orbitRevision missing" ++
      missing baseline.dshVersion "baseline.dshVersion missing" ++ snapshotReasons snapshot
    ⟨if reasons.isEmpty then .eligible else .notEligible, reasons⟩

/-! ### Reports -/

structure Report where
  generatedAt : ℤ
  orbit : Orbit
  baseline : Baseline
  candidate : Candidate
  checks : Checks
  snapshot : Snapshot
  compatibility : Compatibility
  promotionReadiness : PromotionReadiness

/-- `input.redactions ?? []`, an array of texts. -/
def redactionsOf (value : Option Json) : Except String (List String) :=
  match value with
  | none | some .null => .ok []
  | some (.arr items) =>
    if items.all fun item => item.str?.isSome then .ok (items.filterMap Json.str?)
    else .error "compatibility report: redactions must be an array of strings"
  | some _ => .error "compatibility report: redactions must be an array of strings"

def promotionEvaluatedOf (value : Option Json) : Except String Bool :=
  match value with
  | none => .ok true
  | some (.bool evaluated) => .ok evaluated
  | some _ => .error "compatibility report: promotionEvaluated must be a boolean"

/-- `typeof baseline === "object" && baseline !== null`, where it is given. -/
def checkBaseline (value : Option Json) : Except String Unit :=
  match value with
  | none | some (.obj _) | some (.arr _) => .ok ()
  | some _ => .error "compatibility report: baseline must be an object when provided"

/-- `input[outer]?.[inner]`. -/
def nested (input : Json) (outer inner : String) : Option Json :=
  (input.field outer).bind (Json.field inner)

def createCompatibilityReport (now : ℤ) (input : Json) : Except String Report :=
  match input with
  | .obj _ => do
    let redactions ← redactionsOf (input.field "redactions")
    let promotionEvaluated ← promotionEvaluatedOf (input.field "promotionEvaluated")
    checkBaseline (input.field "baseline")
    let version ← requiredString (nested input "orbit" "version") "orbit.version"
    let revision ← optionalString (nested input "orbit" "revision") "orbit.revision"
    let image ← optionalString (nested input "baseline" "image") "baseline.image"
    let orbitRevision ←
      optionalString (nested input "baseline" "orbitRevision") "baseline.orbitRevision"
    let baselineVersion ←
      optionalString (nested input "baseline" "dshVersion") "baseline.dshVersion"
    let dshVersion ← requiredString (nested input "candidate" "dshVersion") "candidate.dshVersion"
    let profile ← optionalString (nested input "candidate" "profile") "candidate.profile"
    let checks ← normalizeChecks (input.field "checks") redactions
    let reference ← optionalString (nested input "snapshot" "reference") "snapshot.reference"
    let failure ← optionalString (nested input "snapshot" "failure") "snapshot.failure"
    let orbit : Orbit := ⟨version, revision⟩
    let baseline : Baseline := ⟨image, orbitRevision, baselineVersion⟩
    let candidate : Candidate := ⟨dshVersion, profile⟩
    let snapshot : Snapshot := ⟨reference, failure⟩
    let compatibility := deriveCompatibility checks
    return {
      generatedAt := now
      orbit, baseline, candidate, checks, snapshot, compatibility
      promotionReadiness := derivePromotionReadiness compatibility orbit candidate baseline
        snapshot promotionEvaluated }
  | _ => .error "compatibility report: evidence input must be an object"

/-- The entry of a check in a report. -/
def Check.toJson (name : CheckName) (check : Check) : Json :=
  .obj [("status", .str check.status.text), ("required", .bool name.required),
    ("detail", .str check.detail)]

/-- The report as the value that is written and uploaded. -/
def Report.toJson (r : Report) : Json :=
  .obj [("schemaVersion", .num 2), ("generatedAt", .str (toIsoString r.generatedAt)),
    ("orbit", .obj [("version", .str r.orbit.version), ("revision", nullable r.orbit.revision)]),
    ("baseline", .obj [("image", nullable r.baseline.image),
      ("orbitRevision", nullable r.baseline.orbitRevision),
      ("dshVersion", nullable r.baseline.dshVersion)]),
    ("candidate", .obj [("dshVersion", .str r.candidate.dshVersion),
      ("profile", nullable r.candidate.profile)]),
    ("checks", .obj (CheckName.all.map fun name => (name.text, (r.checks name).toJson name))),
    ("snapshot", .obj [("reference", nullable r.snapshot.reference),
      ("failure", nullable r.snapshot.failure)]),
    ("compatibility", .obj [("outcome", .str (if r.compatibility.passes then "pass" else "fail")),
      ("reasons", .arr (r.compatibility.reasons.map .str))]),
    ("promotionReadiness", .obj [("outcome", .str r.promotionReadiness.outcome.text),
      ("reasons", .arr (r.promotionReadiness.reasons.map .str))])]

/-! ### What a report is made of -/

variable {now now' : ℤ} {input : Json} {report : Report}

theorem collect_fold {check : CheckName → Except String Check} {names : List CheckName}
    (hnodup : names.Nodup) {initial checks : Checks}
    (h : ∀ name ∈ names, check name = .ok (checks name)) (hrest : ∀ name ∉ names,
      checks name = initial name) :
    names.foldlM
      (fun checks name => do
        let entry ← check name
        return Function.update checks name entry) initial = .ok checks := by
  induction names generalizing initial with
  | nil => exact congrArg Except.ok (funext fun name => (hrest name List.not_mem_nil).symm)
  | cons first names ih =>
    rw [List.forall_mem_cons] at h
    rw [List.nodup_cons] at hnodup
    refine bind_eq_ok.mpr ⟨Function.update initial first (checks first),
      bind_eq_ok.mpr ⟨_, h.1, rfl⟩, ih hnodup.2 h.2 fun name hname => ?_⟩
    by_cases hfirst : name = first
    · rw [hfirst, Function.update_self]
    · rw [Function.update_of_ne hfirst]
      exact hrest name (List.not_mem_cons_of_ne_of_not_mem hfirst hname)

/-- The checks are collected where every entry is accepted. -/
theorem collect_eq_ok {check : CheckName → Except String Check} {checks : Checks}
    (h : ∀ name, check name = .ok (checks name)) : collect check = .ok checks :=
  collect_fold CheckName.nodup_all (fun name _ => h name) fun name hname =>
    absurd (CheckName.mem_all name) hname

theorem nested_toJson_checks (r : Report) (name : CheckName) :
    (Json.obj (CheckName.all.map fun name => (name.text, (r.checks name).toJson name))).field
      name.text = some ((r.checks name).toJson name) := by
  cases name <;> rfl

theorem mem_of_mem_objectKeys {fields : List (String × Json)} {name : String}
    (h : name ∈ objectKeys (some (.obj fields))) : name ∈ fields.map (·.1) := by
  rw [objectKeys, List.mem_append, List.mem_insertionSort, List.mem_filter, List.mem_filter] at h
  obtain ⟨h, -⟩ | ⟨h, -⟩ := h
  · exact List.mem_eraseDups.mp h
  · exact List.mem_eraseDups.mp h

theorem isKnownCheck_text (name : CheckName) : isKnownCheck name.text = true :=
  List.any_eq_true.mpr ⟨name, CheckName.mem_all name, beq_self_eq_true _⟩

theorem normalizeCheck_toJson (r : Report) (name : CheckName) :
    normalizeCheck (r.toJson.field "checks") [] name = .ok (r.checks name) := by
  have hchecks : r.toJson.field "checks" = some (.obj (CheckName.all.map fun name =>
      (name.text, (r.checks name).toJson name))) := rfl
  have hstatus : ((((r.checks name).toJson name).field "status").bind Json.str?).bind
      CheckStatus.ofText = some (r.checks name).status := CheckStatus.ofText_text _
  have hdetail : ((r.checks name).toJson name).field "detail" =
      some (.str (r.checks name).detail) := rfl
  rw [hchecks, normalizeCheck, Option.bind_some, nested_toJson_checks, Check.toJson]
  rw [Check.toJson] at hstatus hdetail
  dsimp only
  rw [hstatus, hdetail]
  rfl

theorem normalizeChecks_toJson (r : Report) :
    normalizeChecks (r.toJson.field "checks") [] = .ok r.checks := by
  have hknown : (objectKeys (r.toJson.field "checks")).find? (fun name => !isKnownCheck name) =
      none := by
    rw [List.find?_eq_none]
    intro key hkey
    have hmem := mem_of_mem_objectKeys hkey
    rw [List.map_map] at hmem
    obtain ⟨name, -, rfl⟩ := List.mem_map.mp hmem
    rw [Function.comp_apply, isKnownCheck_text]
    decide
  rw [normalizeChecks, hknown]
  exact collect_eq_ok (normalizeCheck_toJson r)

/-- A report that is made again: only the readiness for promotion may differ, which is derived as
if promotion was evaluated. -/
theorem createCompatibilityReport_toJson (r : Report)
    (h : r.compatibility = deriveCompatibility r.checks) (now : ℤ) :
    createCompatibilityReport now r.toJson = .ok { r with
      generatedAt := now
      promotionReadiness := derivePromotionReadiness r.compatibility r.orbit r.candidate r.baseline
        r.snapshot true } := by
  have hbaseline : checkBaseline (r.toJson.field "baseline") = .ok () := rfl
  refine bind_eq_ok.mpr ⟨[], rfl, bind_eq_ok.mpr ⟨true, rfl, bind_eq_ok.mpr ⟨(), hbaseline, ?_⟩⟩⟩
  refine bind_eq_ok.mpr ⟨r.orbit.version, requiredString_text .., ?_⟩
  refine bind_eq_ok.mpr ⟨r.orbit.revision, optionalString_nullable .., ?_⟩
  refine bind_eq_ok.mpr ⟨r.baseline.image, optionalString_nullable .., ?_⟩
  refine bind_eq_ok.mpr ⟨r.baseline.orbitRevision, optionalString_nullable .., ?_⟩
  refine bind_eq_ok.mpr ⟨r.baseline.dshVersion, optionalString_nullable .., ?_⟩
  refine bind_eq_ok.mpr ⟨r.candidate.dshVersion, requiredString_text .., ?_⟩
  refine bind_eq_ok.mpr ⟨r.candidate.profile, optionalString_nullable .., ?_⟩
  refine bind_eq_ok.mpr ⟨r.checks, normalizeChecks_toJson r, ?_⟩
  refine bind_eq_ok.mpr ⟨r.snapshot.reference, optionalString_nullable .., ?_⟩
  refine bind_eq_ok.mpr ⟨r.snapshot.failure, optionalString_nullable .., ?_⟩
  rw [h]
  rfl

/-- What a report holds of the input that it is made of. -/
structure Made (input : Json) (report : Report) : Prop where
  revision : optionalString (nested input "orbit" "revision") "orbit.revision" =
    .ok report.orbit.revision
  image : optionalString (nested input "baseline" "image") "baseline.image" =
    .ok report.baseline.image
  orbitRevision : optionalString (nested input "baseline" "orbitRevision")
    "baseline.orbitRevision" = .ok report.baseline.orbitRevision
  dshVersion : optionalString (nested input "baseline" "dshVersion") "baseline.dshVersion" =
    .ok report.baseline.dshVersion
  profile : optionalString (nested input "candidate" "profile") "candidate.profile" =
    .ok report.candidate.profile
  checks : ∃ redactions, redactionsOf (input.field "redactions") = .ok redactions ∧
    normalizeChecks (input.field "checks") redactions = .ok report.checks
  reference : optionalString (nested input "snapshot" "reference") "snapshot.reference" =
    .ok report.snapshot.reference
  failure : optionalString (nested input "snapshot" "failure") "snapshot.failure" =
    .ok report.snapshot.failure
  compatibility : report.compatibility = deriveCompatibility report.checks
  promotionReadiness : ∃ evaluated,
    promotionEvaluatedOf (input.field "promotionEvaluated") = .ok evaluated ∧
      report.promotionReadiness = derivePromotionReadiness report.compatibility report.orbit
        report.candidate report.baseline report.snapshot evaluated

theorem createCompatibilityReport_made (h : createCompatibilityReport now input = .ok report) :
    Made input report := by
  cases input with
  | obj fields =>
    obtain ⟨redactions, hredactions, h⟩ := bind_eq_ok.mp h
    obtain ⟨evaluated, hevaluated, h⟩ := bind_eq_ok.mp h
    obtain ⟨-, -, h⟩ := bind_eq_ok.mp h
    obtain ⟨version, -, h⟩ := bind_eq_ok.mp h
    obtain ⟨revision, hrevision, h⟩ := bind_eq_ok.mp h
    obtain ⟨image, himage, h⟩ := bind_eq_ok.mp h
    obtain ⟨orbitRevision, horbitRevision, h⟩ := bind_eq_ok.mp h
    obtain ⟨baselineVersion, hbaselineVersion, h⟩ := bind_eq_ok.mp h
    obtain ⟨dshVersion, -, h⟩ := bind_eq_ok.mp h
    obtain ⟨profile, hprofile, h⟩ := bind_eq_ok.mp h
    obtain ⟨checks, hchecks, h⟩ := bind_eq_ok.mp h
    obtain ⟨reference, hreference, h⟩ := bind_eq_ok.mp h
    obtain ⟨failure, hfailure, h⟩ := bind_eq_ok.mp h
    obtain rfl := pure_eq_ok.mp h
    exact ⟨hrevision, himage, horbitRevision, hbaselineVersion, hprofile,
      ⟨redactions, hredactions, hchecks⟩, hreference, hfailure, rfl, evaluated, hevaluated, rfl⟩
  | _ => cases h

theorem promotionEvaluatedOf_eq {value : Option Json} {evaluated : Bool}
    (h : promotionEvaluatedOf value = .ok evaluated) :
    evaluated = false ↔ value = some (.bool false) := by
  unfold promotionEvaluatedOf at h
  split at h
  · cases h
    simp
  · cases h
    simp
  · cases h

theorem derivePromotionReadiness_evaluated (compatibility : Compatibility) (orbit : Orbit)
    (candidate : Candidate) (baseline : Baseline) (snapshot : Snapshot) :
    (derivePromotionReadiness compatibility orbit candidate baseline snapshot true).outcome ≠
      .notEvaluated := by
  rw [derivePromotionReadiness, if_neg (by decide)]
  dsimp only
  split_ifs
  · exact PromotionOutcome.noConfusion
  · exact PromotionOutcome.noConfusion

/-- A report is what the Hub makes of it, apart from the time, if and only if promotion was
evaluated: a report does not say that it was not. The checks and the compatibility are always
those of the report. -/
theorem resanitized_iff (now now' : ℤ) (input : Json) (report : Report)
    (h : createCompatibilityReport now input = .ok report) :
    (∃ again, createCompatibilityReport now' report.toJson = .ok again ∧
      again.checks = report.checks ∧ again.compatibility = report.compatibility) ∧
    (createCompatibilityReport now' report.toJson = .ok { report with generatedAt := now' } ↔
      input.field "promotionEvaluated" ≠ some (.bool false)) := by
  have hmade := createCompatibilityReport_made h
  obtain ⟨evaluated, hevaluated, hreadiness⟩ := hmade.promotionReadiness
  have hagain := createCompatibilityReport_toJson report hmade.compatibility now'
  refine ⟨⟨_, hagain, rfl, rfl⟩, ?_⟩
  rw [hagain, ne_eq, ← promotionEvaluatedOf_eq hevaluated]
  constructor
  · intro hsame hfalse
    have houtcome := congrArg (fun r => r.promotionReadiness.outcome) (Except.ok.inj hsame)
    dsimp only at houtcome
    refine derivePromotionReadiness_evaluated report.compatibility report.orbit report.candidate
      report.baseline report.snapshot ?_
    rw [houtcome, hreadiness, hfalse]
    rfl
  · intro htrue
    rw [Bool.not_eq_false] at htrue
    rw [htrue] at hreadiness
    rw [← hreadiness]

/-! ### A report of a verification only -/

/-- The evidence of a verification that does not ask for promotion. -/
def sampleEvidence (promotionEvaluated : Bool) : Json :=
  .obj [("promotionEvaluated", .bool promotionEvaluated),
    ("orbit", .obj [("version", .str "0.7.0")]),
    ("candidate", .obj [("dshVersion", .str "0.1.1-rc.2")]),
    ("checks", .obj ((CheckName.all.filter CheckName.required).map fun name =>
      (name.text, .obj [("status", .str "pass")]))),
    ("snapshot", .obj [("reference", .null), ("failure", .null)])]

def sampleChecks : Checks := fun name => ⟨if name.required then .pass else .notRun, ""⟩

theorem trim_version : trim "0.7.0" ≠ "" := by decide

theorem trim_dshVersion : trim "0.1.1-rc.2" ≠ "" := by decide

def sampleReport (promotionEvaluated : Bool) : Report where
  generatedAt := 1700000000000
  orbit := ⟨⟨"0.7.0", trim_version⟩, none⟩
  baseline := ⟨none, none, none⟩
  candidate := ⟨⟨"0.1.1-rc.2", trim_dshVersion⟩, none⟩
  checks := sampleChecks
  snapshot := ⟨none, none⟩
  compatibility := deriveCompatibility sampleChecks
  promotionReadiness := derivePromotionReadiness (deriveCompatibility sampleChecks)
    ⟨⟨"0.7.0", trim_version⟩, none⟩ ⟨⟨"0.1.1-rc.2", trim_dshVersion⟩, none⟩ ⟨none, none, none⟩
    ⟨none, none⟩ promotionEvaluated

theorem createCompatibilityReport_sample (promotionEvaluated : Bool) :
    createCompatibilityReport 1700000000000 (sampleEvidence promotionEvaluated) =
      .ok (sampleReport promotionEvaluated) := by
  have hchecks : normalizeChecks ((sampleEvidence promotionEvaluated).field "checks") [] =
      .ok sampleChecks := by
    have hknown : (objectKeys ((sampleEvidence promotionEvaluated).field "checks")).find?
        (fun name => !isKnownCheck name) = none := by
      rw [List.find?_eq_none]
      intro key hkey
      have hmem := mem_of_mem_objectKeys hkey
      rw [List.map_map] at hmem
      obtain ⟨name, -, rfl⟩ := List.mem_map.mp hmem
      rw [Function.comp_apply, isKnownCheck_text]
      decide
    rw [normalizeChecks, hknown]
    refine collect_eq_ok fun name => ?_
    cases name <;> rfl
  refine bind_eq_ok.mpr ⟨[], rfl, bind_eq_ok.mpr ⟨promotionEvaluated, rfl, ?_⟩⟩
  refine bind_eq_ok.mpr ⟨(), rfl, bind_eq_ok.mpr ⟨⟨"0.7.0", trim_version⟩, ?_, ?_⟩⟩
  · exact requiredString_text ⟨"0.7.0", trim_version⟩ _
  refine bind_eq_ok.mpr ⟨none, rfl, bind_eq_ok.mpr ⟨none, rfl, bind_eq_ok.mpr ⟨none, rfl, ?_⟩⟩⟩
  refine bind_eq_ok.mpr ⟨none, rfl, bind_eq_ok.mpr ⟨⟨"0.1.1-rc.2", trim_dshVersion⟩, ?_, ?_⟩⟩
  · exact requiredString_text ⟨"0.1.1-rc.2", trim_dshVersion⟩ _
  refine bind_eq_ok.mpr ⟨none, rfl, bind_eq_ok.mpr ⟨sampleChecks, hchecks, ?_⟩⟩
  exact bind_eq_ok.mpr ⟨none, rfl, bind_eq_ok.mpr ⟨none, rfl, rfl⟩⟩

/-- The Hub evaluates a report that was made without an evaluation. -/
theorem resanitized_unevaluated : ∃ report again,
    createCompatibilityReport 1700000000000 (sampleEvidence false) = .ok report ∧
    createCompatibilityReport 1700000001000 report.toJson = .ok again ∧
    report.promotionReadiness.outcome = .notEvaluated ∧
    again.promotionReadiness.outcome = .notEligible := by
  refine ⟨_, _, createCompatibilityReport_sample false,
    createCompatibilityReport_toJson (sampleReport false) rfl _, rfl, ?_⟩
  decide

theorem resanitized_iff_evaluated :
    createCompatibilityReport 1700000001000 (sampleReport true).toJson =
      .ok { sampleReport true with generatedAt := 1700000001000 } :=
  (resanitized_iff _ _ _ _ (createCompatibilityReport_sample true)).2.mpr (by
    rw [show (sampleEvidence true).field "promotionEvaluated" = some (.bool true) from rfl]
    simp)

end DshOrbit.Upgrade
