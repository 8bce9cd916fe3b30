import DshOrbit.Upgrade.Verification

/-!
# The candidate workflow

`runCandidateWorkflow` (`upgrade-runner.mjs`) takes a snapshot, builds and starts a candidate, binds
it to this run, verifies it, and derives from the evidence whether it is eligible for promotion.

## Main definitions

- `runCandidateWorkflow` — the function of that name
- `Gate` — what a candidate has to show
- `OtherwisePasses` — what the workflow is answered, read as the workflow reads it

## Main results

- `promotion_gate_iff` — when an eligible candidate has shown what it has to
-/

namespace DshOrbit.Upgrade

open DshOrbit.Lib

/-! ### Evidence -/

/-- The names that every object of the platform inherits. -/
def inheritedNames : List String :=
  ["constructor", "hasOwnProperty", "isPrototypeOf", "propertyIsEnumerable", "toLocaleString",
    "toString", "valueOf", "__defineGetter__", "__defineSetter__", "__lookupGetter__",
    "__lookupSetter__", "__proto__"]

/-- `compatibilityFor(version)` does not throw. -/
def hasCompatibility (version : String) : Bool :=
  version == "0.1.1-rc.2" || inheritedNames.contains version

/-- The recorded checks as a value. -/
def checksJson (checks : CheckName → Option Check) : Json :=
  .obj (CheckName.all.filterMap fun name => (checks name).map fun check =>
    (name.text, .obj [("status", .str check.status.text), ("detail", .str check.detail)]))

def evidence (config : Config) (fingerprint : String) (checks : CheckName → Option Check)
    (snapshot : Except String Json) : Json :=
  let profile := if hasCompatibility config.dshVersion then .str config.dshVersion else .null
  let ofSnapshot : Json × Json :=
    match snapshot with
    | .ok manifest => ((manifest.field "restoreReference").getD .null, .null)
    | .error error => (.null, .str error)
  .obj [("promotionEvaluated", .bool true),
    ("orbit", .obj [("version", .str config.orbitVersion),
      ("revision", .str config.orbitRevision)]),
    ("baseline", .obj [("image", .str config.baselineImage),
      ("orbitRevision", .str config.baselineOrbitRevision),
      ("dshVersion", .str config.baselineDshVersion)]),
    ("candidate", .obj [("dshVersion", .str config.dshVersion), ("profile", profile),
      ("image", .str config.candidateImage), ("endpoint", .str config.candidateEndpoint),
      ("gatewayIdentityFingerprint", .str fingerprint)]),
    ("checks", checksJson checks),
    ("snapshot", .obj [("reference", ofSnapshot.1), ("failure", ofSnapshot.2)])]

/-! ### The workflow -/

structure WorkflowResult where
  eligible : Bool
  compatible : Bool
  exitCode : ℕ
  banner : String
  report : Report

variable (w : World) (config : Config)

def buildCommand : Command :=
  ⟨"docker", composeArgs config ["build"],
    [("DSH_VERSION", config.dshVersion), ("DSH_PUBLIC_HOST", config.publicHost)]⟩

def upCommand : Command := ⟨"docker", composeArgs config ["up", "-d", "--wait"], []⟩

def snapshotRequest : SnapshotRequest where
  snapshotId := w.snapshotId
  dataRoot := config.productionDataRoot
  orbitRevision := config.orbitRevision
  dshVersion := config.baselineDshVersion
  candidateDshVersion := some config.dshVersion
  startedAt := w.hook.startedAt

/-- The snapshot of this run. -/
def takeSnapshot : Except String (Except String Json) :=
  runSnapshotHook config.snapshotHook (config.workdir ++ "/snapshot-manifest.json")
    config.snapshotTimeoutSeconds (snapshotRequest w config) w.hook

/-- The checks of a candidate that was not verified. -/
def onlyFailed (name : CheckName) (detail : String) : CheckName → Option Check :=
  Function.update (fun _ => none) name (some ⟨.fail, detail⟩)

/-- Build, start, bind and verify the candidate. -/
def verifyCandidate (identity : GatewayIdentity) : Run (CheckName → Option Check) := do
  let build ← w.runCommand (buildCommand config)
  if build.code ≠ some 0 then
    return onlyFailed .globalPatch
      "candidate build failed: unsupported version, source mismatch, or unverifiable patch"
  else
    let up ← w.runCommand (upCommand config)
    if up.code ≠ some 0 then
      return onlyFailed .runtimeReadiness
        "candidate stack did not become healthy on the isolated endpoint"
    else
      probeCandidateToken w config
      let _ ← attempt w.identityCa
      verifyGatewayIdentity w config identity
      let progress ← runVerificationSequence w config
      return progress.checks

def runCandidateWorkflow : Run WorkflowResult := do
  attempt (w.writeFile config.workdir)
  let snapshot ← attempt (takeSnapshot w config)
  let identity ← generateGatewayIdentityCertificate w config
  attempt (w.writeFile (config.workdir ++ "/compose.override.yaml"))
  let _ ← resolveCandidateBinding w config identity
  let checks ← verifyCandidate w config identity
  let report ←
    attempt (createCompatibilityReport w.now (evidence config identity.fingerprint checks snapshot))
  attempt (w.writeFile (config.workdir ++ "/evidence.json"))
  attempt (w.writeFile (config.workdir ++ "/report.json"))
  let eligible : Bool := report.promotionReadiness.outcome = .eligible
  return {
    eligible
    compatible := report.compatibility.passes
    exitCode := if eligible then 0 else 1
    banner := if eligible then "CANDIDATE PASSED - ELIGIBLE FOR MANUAL PROMOTION"
      else "CANDIDATE FAILED - NOT ELIGIBLE FOR PROMOTION"
    report }

/-! ### What is asked of a candidate -/

/-- The snapshot hook succeeded with a manifest that answers the request; the compose binding, the
token and the identity of the gateway were verified; build and start succeeded; every required check
was carried out and passed, and no check is recorded as failed. -/
structure Gate (trace : List Action) (result : WorkflowResult) : Prop where
  snapshot : ∃ manifest, takeSnapshot w config = .ok (.ok manifest) ∧ w.hook.timedOut = false ∧
    (∃ signal, w.hook.exit = .closed (some 0) signal) ∧
    Bound w.hook.dateParse manifest (snapshotRequest w config)
  bound : ∃ identity, BindingVerified w config identity trace ∧ IdentityVerified w identity trace
  token : TokenVerified w config trace
  build : Exited w trace (buildCommand config)
  start : Exited w trace (upCommand config)
  required : ∀ name : CheckName, name.required = true →
    (result.report.checks name).status = .pass ∧ Executed w config trace name
  failures : ∀ name, (result.report.checks name).status ≠ .fail

/-- The workflow is answered everything that it asks for: of the patch check it asks the output
alone. -/
structure OtherwisePasses : Prop where
  snapshot : ∃ manifest, takeSnapshot w config = .ok (.ok manifest)
  profile : hasCompatibility config.dshVersion = true
  orbitRevision : config.orbitRevision ≠ ""
  baselineImage : config.baselineImage ≠ ""
  baselineOrbitRevision : config.baselineOrbitRevision ≠ ""
  baselineDshVersion : config.baselineDshVersion ≠ ""
  build : Answers w (buildCommand config) fun result => result.code = some 0
  start : Answers w (upCommand config) fun result => result.code = some 0
  stages : ∀ stage : Stage, stage.Passes w config

/-! ### The report of a candidate -/

variable {w : World} {config : Config} {trace trace' : List Action} {checks : CheckName → Option Check}

theorem CheckName.text_injective : Function.Injective CheckName.text := by
  intro a b h
  have hof : ∀ name : CheckName, (CheckName.all.find? fun known => known.text == name.text) =
      some name := fun name => by cases name <;> rfl
  have ha := hof a
  rw [h, hof b] at ha
  exact (Option.some.inj ha).symm

theorem find_entries {entry : CheckName → Option Json} {names : List CheckName}
    (hnodup : names.Nodup) (name : CheckName) :
    ((names.filterMap fun name => (entry name).map fun value => (name.text, value)).reverse.find?
      fun found => found.1 == name.text).map (·.2) =
        if name ∈ names then entry name else none := by
  induction names with
  | nil => rfl
  | cons first names ih =>
    rw [List.nodup_cons] at hnodup
    have hrest := ih hnodup.2
    cases hentry : entry first with
    | none =>
      rw [List.filterMap_cons_none (by rw [hentry]; rfl), hrest]
      by_cases hfirst : name = first
      · rw [if_pos (List.mem_cons.mpr (.inl hfirst)), if_neg (hfirst ▸ hnodup.1), hfirst, hentry]
      · simp [hfirst]
    | some value =>
      rw [List.filterMap_cons_some (by rw [hentry]; rfl), List.reverse_cons, List.find?_append,
        Option.map_or, hrest]
      by_cases hfirst : name = first
      · rw [if_neg (hfirst ▸ hnodup.1), if_pos (List.mem_cons.mpr (.inl hfirst)), hfirst, hentry]
        simp
      · have hother : (first.text == name.text) = false :=
          beq_false_of_ne fun heq => hfirst (CheckName.text_injective heq).symm
        simp [hfirst, hother]

/-- The checks of a report are those that were recorded. -/
theorem normalizeChecks_evidence (checks : CheckName → Option Check) :
    normalizeChecks (some (checksJson checks)) [] =
      .ok fun name => (checks name).getD ⟨.notRun, ""⟩ := by
  have hknown : (objectKeys (some (checksJson checks))).find? (fun name => !isKnownCheck name) =
      none := by
    rw [List.find?_eq_none]
    intro key hkey
    obtain ⟨_, hentry, rfl⟩ := List.mem_map.mp (mem_of_mem_objectKeys hkey)
    obtain ⟨name, -, hname⟩ := List.mem_filterMap.mp hentry
    obtain ⟨check, -, rfl⟩ := Option.map_eq_some_iff.mp hname
    rw [isKnownCheck_text]
    decide
  rw [normalizeChecks, hknown]
  refine collect_eq_ok fun name => ?_
  have hfield : (checksJson checks).field name.text = (checks name).map fun check =>
      .obj [("status", .str check.status.text), ("detail", .str check.detail)] := by
    have hfound := @find_entries (fun name => (checks name).map fun check =>
      .obj [("status", .str check.status.text), ("detail", .str check.detail)]) _
      CheckName.nodup_all name
    rw [if_pos (CheckName.mem_all name)] at hfound
    simpa [checksJson, Json.field, Function.comp_def] using hfound
  rw [normalizeCheck, Option.bind_some, hfield]
  cases hcheck : checks name with
  | none => rfl
  | some check =>
    have hstatus : (((Json.obj [("status", .str check.status.text),
        ("detail", .str check.detail)]).field "status").bind Json.str?).bind CheckStatus.ofText =
          some check.status := CheckStatus.ofText_text _
    rw [Option.map_some]
    dsimp only
    rw [hstatus]
    rfl

theorem reasons_eq_nil_iff (checks : Checks) : (deriveCompatibility checks).reasons = [] ↔
    ∀ name, (checks name).status ≠ .fail ∧
      (name.required = true → (checks name).status = .pass) := by
  have hreason (name : CheckName) : failureReason checks name = none ↔
      (checks name).status ≠ .fail ∧ (name.required = true → (checks name).status = .pass) := by
    rw [failureReason]
    cases (checks name).status with
    | pass => simp
    | fail => simp
    | notRun => simp
  show CheckName.all.filterMap (failureReason checks) = [] ↔ _
  rw [List.filterMap_eq_nil_iff]
  exact ⟨fun h name => (hreason name).mp (h name (CheckName.mem_all name)),
    fun h name _ => (hreason name).mpr (h name)⟩

theorem missing_eq_nil_iff (text : Option GivenText) (reason : String) :
    missing text reason = [] ↔ text ≠ none := by
  cases text with
  | none => simp [missing]
  | some text => simp [missing]

/-- A report is eligible when nothing speaks against it. -/
theorem eligible_iff {compatibility : Compatibility} {orbit : Orbit} {candidate : Candidate}
    {baseline : Baseline} {snapshot : Snapshot} :
    (derivePromotionReadiness compatibility orbit candidate baseline snapshot true).outcome =
        .eligible ↔
      compatibility.reasons = [] ∧ orbit.revision ≠ none ∧ candidate.profile ≠ none ∧
        baseline.image ≠ none ∧ baseline.orbitRevision ≠ none ∧ baseline.dshVersion ≠ none ∧
        snapshotReasons snapshot = [] := by
  rw [derivePromotionReadiness, if_neg (by decide)]
  dsimp only
  split_ifs with hempty
  · rw [List.isEmpty_iff] at hempty
    simp only [List.append_eq_nil_iff, missing_eq_nil_iff, and_assoc] at hempty
    exact iff_of_true rfl hempty
  · rw [List.isEmpty_iff] at hempty
    simp only [List.append_eq_nil_iff, missing_eq_nil_iff, and_assoc] at hempty
    exact iff_of_false not_false hempty

theorem optionalString_ne_none {text label : String} {value : Option GivenText}
    (h : optionalString (some (.str text)) label = .ok value) : value ≠ none ↔ text ≠ "" := by
  rw [optionalString] at h
  split_ifs at h with htext
  · cases h
    exact iff_of_true (Option.some_ne_none _) htext
  · cases h
    exact iff_of_false (fun hne => hne rfl) htext

theorem ne_empty_of_hasCompatibility (h : hasCompatibility config.dshVersion = true) :
    config.dshVersion ≠ "" := by
  intro hempty
  rw [hempty] at h
  revert h
  decide

/-- The snapshot speaks against a candidate unless it counts. -/
theorem snapshotReasons_eq_nil_iff {fingerprint : String} {snapshot : Except String Json}
    {report : Report} (hmade : Made (evidence config fingerprint checks snapshot) report)
    (hsnapshot : ∀ manifest, snapshot = .ok manifest →
      isFilled (manifest.field "restoreReference") = true)
    (herror : snapshot ≠ .error "") :
    snapshotReasons report.snapshot = [] ↔ ∃ manifest, snapshot = .ok manifest := by
  cases snapshot with
  | ok manifest =>
    refine iff_of_true ?_ ⟨manifest, rfl⟩
    obtain ⟨text, htext, hfilled⟩ : ∃ text, manifest.field "restoreReference" =
        some (.str text) ∧ trim text ≠ "" := by
      have h := hsnapshot manifest rfl
      rw [isFilled, Option.any_eq_true] at h
      obtain ⟨text, htext, hfilled⟩ := h
      obtain ⟨value, hvalue, hstr⟩ := Option.bind_eq_some_iff.mp htext
      cases value with
      | str s =>
        obtain rfl := Option.some.inj hstr
        exact ⟨s, hvalue, of_decide_eq_true hfilled⟩
      | _ => cases hstr
    have hreference : optionalString (some ((manifest.field "restoreReference").getD .null)) _ =
        .ok report.snapshot.reference := hmade.reference
    have hfailure : .ok none = Except.ok report.snapshot.failure := hmade.failure
    rw [htext, Option.getD_some] at hreference
    have hne : text ≠ "" := by
      rintro rfl
      exact hfilled rfl
    rw [snapshotReasons, ← Except.ok.inj hfailure]
    exact (missing_eq_nil_iff _ _).mpr ((optionalString_ne_none hreference).mpr hne)
  | error message =>
    refine iff_of_false ?_ (by rintro ⟨manifest, h⟩; cases h)
    have hfailure : optionalString (some (.str message)) _ = .ok report.snapshot.failure :=
      hmade.failure
    have hne : message ≠ "" := fun h => herror (congrArg Except.error h)
    obtain ⟨failure, hsome⟩ :=
      Option.ne_none_iff_exists'.mp ((optionalString_ne_none hfailure).mpr hne)
    rw [snapshotReasons, hsome]
    exact List.cons_ne_nil _ _

/-- Whether the report of a candidate says that it is eligible. -/
theorem eligible_evidence {fingerprint : String} {snapshot : Except String Json} {now : ℤ}
    {report : Report}
    (h : createCompatibilityReport now (evidence config fingerprint checks snapshot) = .ok report)
    (hsnapshot : ∀ manifest, snapshot = .ok manifest →
      isFilled (manifest.field "restoreReference") = true)
    (herror : snapshot ≠ .error "") :
    report.checks = (fun name => (checks name).getD ⟨.notRun, ""⟩) ∧
      (report.promotionReadiness.outcome = .eligible ↔
        (deriveCompatibility report.checks).reasons = [] ∧ config.orbitRevision ≠ "" ∧
          hasCompatibility config.dshVersion = true ∧ config.baselineImage ≠ "" ∧
          config.baselineOrbitRevision ≠ "" ∧ config.baselineDshVersion ≠ "" ∧
          ∃ manifest, snapshot = .ok manifest) := by
  have hmade := createCompatibilityReport_made h
  obtain ⟨redactions, hredactions, hchecks⟩ := hmade.checks
  obtain rfl : [] = redactions := Except.ok.inj hredactions
  have hsame := Except.ok.inj (hchecks.symm.trans (normalizeChecks_evidence checks))
  refine ⟨hsame, ?_⟩
  obtain ⟨evaluated, hevaluated, hreadiness⟩ := hmade.promotionReadiness
  obtain rfl : true = evaluated := Except.ok.inj hevaluated
  have hprofile : report.candidate.profile ≠ none ↔ hasCompatibility config.dshVersion = true := by
    have hread : optionalString (some (if hasCompatibility config.dshVersion then
        .str config.dshVersion else .null)) _ = .ok report.candidate.profile := hmade.profile
    by_cases hhas : hasCompatibility config.dshVersion = true
    · rw [if_pos hhas] at hread
      exact iff_of_true ((optionalString_ne_none hread).mpr (ne_empty_of_hasCompatibility hhas)) hhas
    · rw [if_neg hhas] at hread
      exact iff_of_false (fun hne => hne (Except.ok.inj hread).symm) hhas
  have hreasons := snapshotReasons_eq_nil_iff hmade hsnapshot herror
  rw [hreadiness, eligible_iff, hmade.compatibility, hprofile, hreasons,
    optionalString_ne_none hmade.revision, optionalString_ne_none hmade.image,
    optionalString_ne_none hmade.orbitRevision, optionalString_ne_none hmade.dshVersion]

/-! ### Runs of the workflow -/

/-- How the candidate fares: its checks are those of a failure before the verification, or of the
verification sequence after everything else was verified. -/
inductive Fares (w : World) (config : Config) (identity : GatewayIdentity) (trace' : List Action)
    (checks : CheckName → Option Check) : Prop
  | failed (name : CheckName) (detail : String) (hchecks : checks = onlyFailed name detail)
      (hnot : ¬(Answers w (buildCommand config) (fun result => result.code = some 0) ∧
        Answers w (upCommand config) fun result => result.code = some 0))
  | verified (progress : Progress) (hchecks : checks = progress.checks)
      (hbuild : Exited w trace' (buildCommand config)) (hup : Exited w trace' (upCommand config))
      (htoken : TokenVerified w config trace') (hidentity : IdentityVerified w identity trace')
      (hends : ((∀ stage : Stage, stage.Passes w config) ∧
          ∀ name, Recorded w config trace' progress name) ∨
        (¬(∀ stage : Stage, stage.Passes w config) ∧
          ∃ name check, progress.checks name = some check ∧ check.status = .fail))

theorem verifyCandidate_ok {identity : GatewayIdentity}
    (h : verifyCandidate w config identity trace = .ok (checks, trace')) :
    trace ⊆ trace' ∧ Fares w config identity trace' checks := by
  obtain ⟨build, trace1, hbuild, h⟩ := run_bind_ok h
  obtain ⟨hbuildRun, rfl⟩ := perform_ok hbuild
  split_ifs at h with hbuildCode
  · obtain ⟨rfl, rfl⟩ := pure_ok h
    refine ⟨List.subset_append_left _ _, .failed _ _ rfl fun hboth => hbuildCode ?_⟩
    exact (answers_iff hbuildRun).mp hboth.1
  rw [not_not] at hbuildCode
  obtain ⟨up, trace1, hup, h⟩ := run_bind_ok h
  obtain ⟨hupRun, rfl⟩ := perform_ok hup
  split_ifs at h with hupCode
  · obtain ⟨rfl, rfl⟩ := pure_ok h
    refine ⟨?_, .failed _ _ rfl fun hboth => hupCode ?_⟩
    · rw [List.append_assoc]
      exact List.subset_append_left _ _
    · exact (answers_iff hupRun).mp hboth.2
  rw [not_not] at hupCode
  obtain ⟨_, trace1, htoken, h⟩ := run_bind_ok h
  obtain ⟨hsubset1, htokenVerified⟩ := probeCandidateToken_ok htoken
  obtain ⟨_, trace2, hca, h⟩ := run_bind_ok h
  obtain ⟨-, rfl⟩ := attempt_ok hca
  obtain ⟨_, trace2, hidentity, h⟩ := run_bind_ok h
  obtain ⟨hsubset2, hidentityVerified⟩ := verifyGatewayIdentity_ok hidentity
  obtain ⟨progress, trace3, hsequence, h⟩ := run_bind_ok h
  obtain ⟨hsubset3, hends⟩ := runVerificationSequence_ok hsequence
  obtain ⟨rfl, rfl⟩ := pure_ok h
  have hlate := List.Subset.trans hsubset2 hsubset3
  have hall := List.Subset.trans hsubset1 hlate
  refine ⟨fun action haction => hall (by simp [haction]), .verified progress rfl ?_ ?_ ?_ ?_ hends⟩
  · exact Exited.later (exited_of_run hbuildRun hbuildCode) fun action haction =>
      hall (List.mem_append_left _ haction)
  · exact Exited.later (exited_of_run hupRun hupCode) hall
  · exact ⟨htokenVerified.exited.later hlate, htokenVerified.carried⟩
  · obtain ⟨endpoint, hendpoint, hprobed, hpresented⟩ := hidentityVerified
    exact ⟨endpoint, hendpoint, hsubset3 hprobed, hpresented⟩

/-- A run of the workflow that does not throw. -/
structure Completed (w : World) (config : Config) (result : WorkflowResult)
    (trace : List Action) : Prop where
  snapshot : ∃ snapshot, takeSnapshot w config = .ok snapshot ∧ ∃ identity checks,
    BindingVerified w config identity trace ∧ Fares w config identity trace checks ∧
    createCompatibilityReport w.now (evidence config identity.fingerprint checks snapshot) =
      .ok result.report
  exitCode : result.exitCode = 0 ↔ result.report.promotionReadiness.outcome = .eligible

theorem runCandidateWorkflow_ok {result : WorkflowResult}
    (h : runCandidateWorkflow w config [] = .ok (result, trace)) :
    Completed w config result trace := by
  obtain ⟨_, _, hdir, h⟩ := run_bind_ok h
  obtain ⟨-, rfl⟩ := attempt_ok hdir
  obtain ⟨snapshot, _, hsnapshot, h⟩ := run_bind_ok h
  obtain ⟨htaken, rfl⟩ := attempt_ok hsnapshot
  obtain ⟨identity, trace1, hidentity, h⟩ := run_bind_ok h
  obtain ⟨_, _, hoverride, h⟩ := run_bind_ok h
  obtain ⟨-, rfl⟩ := attempt_ok hoverride
  obtain ⟨_, trace2, hbinding, h⟩ := run_bind_ok h
  obtain ⟨-, hbound⟩ := resolveCandidateBinding_ok hbinding
  obtain ⟨checks, trace3, hverify, h⟩ := run_bind_ok h
  obtain ⟨hsubset, hfares⟩ := verifyCandidate_ok hverify
  obtain ⟨report, _, hreport, h⟩ := run_bind_ok h
  obtain ⟨hmade, rfl⟩ := attempt_ok hreport
  obtain ⟨_, _, hevidence, h⟩ := run_bind_ok h
  obtain ⟨-, rfl⟩ := attempt_ok hevidence
  obtain ⟨_, _, hwritten, h⟩ := run_bind_ok h
  obtain ⟨-, rfl⟩ := attempt_ok hwritten
  obtain ⟨rfl, rfl⟩ := pure_ok h
  refine ⟨⟨snapshot, htaken, identity, checks, ?_, hfares, hmade⟩, ?_⟩
  · exact ⟨hbound.base.later hsubset, hbound.resolved.later hsubset, hbound.verified⟩
  · dsimp only
    by_cases heligible : report.promotionReadiness.outcome = .eligible
    · exact iff_of_true (if_pos (decide_eq_true heligible)) heligible
    · rw [if_neg fun htrue => heligible (of_decide_eq_true htrue)]
      exact iff_of_false Nat.one_ne_zero heligible

theorem not_reasons_nil {checks : CheckName → Option Check} {name : CheckName} {check : Check}
    (hcheck : checks name = some check) (hstatus : check.status = .fail) :
    (deriveCompatibility fun name => (checks name).getD ⟨.notRun, ""⟩).reasons ≠ [] := by
  intro hnil
  have hname := ((reasons_eq_nil_iff _).mp hnil name).1
  rw [hcheck] at hname
  exact hname hstatus

/-- The recorded checks speak for a candidate that was verified and answers every step. -/
theorem Fares.reasons_iff {identity : GatewayIdentity} (h : Fares w config identity trace checks) :
    (deriveCompatibility fun name => (checks name).getD ⟨.notRun, ""⟩).reasons = [] ↔
      Answers w (buildCommand config) (fun result => result.code = some 0) ∧
        Answers w (upCommand config) (fun result => result.code = some 0) ∧
        ∀ stage : Stage, stage.Passes w config := by
  cases h with
  | failed name detail hchecks hnot =>
    subst hchecks
    refine iff_of_false (not_reasons_nil (Function.update_self ..) rfl) fun hall => ?_
    exact hnot ⟨hall.1, hall.2.1⟩
  | verified progress hchecks hbuild hup _ _ hends =>
    subst hchecks
    obtain ⟨hstages, hrecorded⟩ | ⟨hnot, name, check, hcheck, hstatus⟩ := hends
    · refine iff_of_true ((reasons_eq_nil_iff _).mpr fun name => ?_) ⟨hbuild.2, hup.2, hstages⟩
      obtain ⟨check, hcheck, hstatus, hpassed⟩ := hrecorded name
      rw [hcheck]
      exact ⟨hstatus, fun hrequired => (hpassed hrequired).1⟩
    · exact iff_of_false (not_reasons_nil hcheck hstatus) fun hall => hnot hall.2.2

theorem Completed.eligible_iff {result : WorkflowResult} (h : Completed w config result trace) :
    result.exitCode = 0 ↔ OtherwisePasses w config := by
  obtain ⟨snapshot, htaken, identity, checks, -, hfares, hmade⟩ := h.snapshot
  have hfilled : ∀ manifest, snapshot = .ok manifest →
      isFilled (manifest.field "restoreReference") = true := by
    rintro manifest rfl
    exact (runSnapshotHook_ok htaken).2.2.2.restoreReference
  have herror : snapshot ≠ .error "" := by
    rintro rfl
    exact runSnapshotHook_ne htaken
  obtain ⟨hchecks, heligible⟩ := eligible_evidence hmade hfilled herror
  rw [h.exitCode, heligible, hchecks, hfares.reasons_iff]
  constructor
  · rintro ⟨⟨hbuild, hup, hstages⟩, hrevision, hprofile, himage, horbit, hversion, manifest, rfl⟩
    exact ⟨⟨manifest, htaken⟩, hprofile, hrevision, himage, horbit, hversion, hbuild, hup, hstages⟩
  · intro hpasses
    obtain ⟨manifest, hmanifest⟩ := hpasses.snapshot
    refine ⟨⟨hpasses.build, hpasses.start, hpasses.stages⟩, hpasses.orbitRevision, hpasses.profile,
      hpasses.baselineImage, hpasses.baselineOrbitRevision, hpasses.baselineDshVersion, manifest, ?_⟩
    exact Except.ok.inj (htaken.symm.trans hmanifest)

/-- What an eligible candidate has shown, where the patch check exits with code 0. -/
theorem Completed.gate {result : WorkflowResult} (h : Completed w config result trace)
    (hpasses : OtherwisePasses w config) (hexits : PatchCheckExits w config) :
    Gate w config trace result := by
  obtain ⟨snapshot, htaken, identity, checks, hbound, hfares, hmade⟩ := h.snapshot
  obtain ⟨manifest, hmanifest⟩ := hpasses.snapshot
  obtain rfl := Except.ok.inj (htaken.symm.trans hmanifest)
  obtain ⟨hintime, hexit, -, hbinds⟩ := runSnapshotHook_ok htaken
  obtain ⟨hchecks, -⟩ := eligible_evidence hmade (fun other hother => by
    obtain rfl := Except.ok.inj hother
    exact hbinds.restoreReference) (by rintro ⟨⟩)
  cases hfares with
  | failed name detail _ hnot => exact absurd ⟨hpasses.build, hpasses.start⟩ hnot
  | verified progress hsame hbuild hup htoken hidentity hends =>
    obtain ⟨-, hrecorded⟩ := hends.resolve_right fun hfails => hfails.1 hpasses.stages
    subst hsame
    have hreported {name : CheckName} {check : Check} (hcheck : progress.checks name = some check) :
        result.report.checks name = check := by
      rw [hchecks]
      exact congrArg (fun found : Option Check => found.getD ⟨.notRun, ""⟩) hcheck
    refine ⟨⟨manifest, htaken, hintime, hexit, hbinds⟩, ⟨identity, hbound, hidentity⟩, htoken,
      hbuild, hup, fun name hrequired => ?_, fun name => ?_⟩
    · obtain ⟨check, hcheck, -, hpassed⟩ := hrecorded name
      rw [hreported hcheck]
      exact ⟨(hpassed hrequired).1, (hpassed hrequired).2 hexits⟩
    · obtain ⟨check, hcheck, hstatus, -⟩ := hrecorded name
      rw [hreported hcheck]
      exact hstatus

/-- An eligible candidate has shown what it has to if and only if the patch check exits with code 0,
or something else that the workflow asks for is not answered. -/
theorem promotion_gate_iff (w : World) (config : Config) (result : WorkflowResult)
    (trace : List Action) (h : runCandidateWorkflow w config [] = .ok (result, trace)) :
    (result.exitCode = 0 → Gate w config trace result) ↔
      (PatchCheckExits w config ∨ ¬OtherwisePasses w config) := by
  have hcompleted := runCandidateWorkflow_ok h
  rw [hcompleted.eligible_iff]
  constructor
  · intro hgate
    by_cases hpasses : OtherwisePasses w config
    · obtain ⟨-, -, patch, hpatch, hcode⟩ := (hgate hpasses).required .globalPatch rfl
      refine .inl fun result hresult => ?_
      obtain rfl := Except.ok.inj (hpatch.symm.trans hresult)
      exact hcode
    · exact .inr hpasses
  · rintro (hexits | hnot) hpasses
    · exact hcompleted.gate hpasses hexits
    · exact absurd hpasses hnot

/-! ### A sample candidate -/

def sampleConfig : Config where
  dshVersion := "0.1.1-rc.2"
  orbitRevision := "r2"
  orbitVersion := "0.7.0"
  baselineImage := "b"
  baselineOrbitRevision := "r1"
  baselineDshVersion := "0.1.1-rc.1"
  candidateImage := "c"
  candidateDataRoot := "/d"
  candidateWorkspaceRoot := "/s"
  candidateHostPort := 9443
  productionDataRoot := "/p"
  candidateEndpoint := "https://h"
  publicHost := "h"
  basicUser := "u"
  basicPassword := "w"
  smokeOrigin := none
  sshPatchEnabled := false
  sessionId := "s"
  snapshotHook := "h.sh"
  snapshotTimeoutSeconds := 900
  gatewayService := "g"
  gatewayCertTarget := "/c"
  gatewayKeyTarget := "/k"
  project := "o"
  composeService := none
  composeFile := "f"
  composeOverrideFile := none
  workdir := "/w"

def sampleManifest : Json :=
  .obj [("snapshotId", .str "i"), ("createdAt", .str "t"), ("orbitRevision", .str "r2"),
    ("dshVersion", .str "0.1.1-rc.1"), ("dataRoot", .str "/p"), ("method", .str "m"),
    ("restoreReference", .str "x"), ("status", .str "complete"),
    ("candidateDshVersion", .str "0.1.1-rc.2")]

def sampleMount (source target : String) : Json :=
  .obj [("source", .str source), ("target", .str target)]

/-- The resolved compose configuration; the base file has the same gateway. -/
def sampleResolved : Json :=
  .obj [("name", .str "o"), ("services", .obj [
    ("dsh", .obj [("image", .str "c"), ("user", .str "1:1"),
      ("volumes", .arr [sampleMount "/d" "/data", sampleMount "/s" "/workspace"]),
      ("ports", .arr [.obj [("target", .num 9443), ("published", .str "9443"),
        ("host_ip", .str "127.0.0.1")]]),
      ("environment", .obj [("DSH_ORBIT_CANDIDATE_TOKEN", .str "t")])]),
    ("g", .obj [("user", .str "1:1"), ("volumes", .arr [
      sampleMount "/w/gateway-identity-cert.pem" "/c",
      sampleMount "/w/gateway-identity-key.pem" "/k"])])])]

/-- A world in which everything succeeds, but for the exit code of the patch check. -/
def sampleWorld (patchCode : ℤ) : World where
  run command :=
    if command.args.contains "--check" then
      .ok ⟨some patchCode, "DSH upstream: 0.1.1-rc.2\n/g: ok\n/p: ok", ""⟩
    else if command.args.contains "printenv" then .ok ⟨some 0, "t", ""⟩
    else .ok ⟨some 0, "settings.describe: ok settings.mutate: ok", ""⟩
  fetch _ _ := .ok ⟨some 200, some "src=\"/plugins/a\""⟩
  tlsProbe _ := .ok (some "F")
  endpoint := .ok ⟨"h", "", false⟩
  writeFile _ := .ok ()
  certificate := .ok "F"
  identityCa := .ok ""
  hook :=
    { removal := .ok ()
      startedAt := 0
      timedOut := false
      exit := .closed (some 0) none
      manifestText := some ""
      parseJson := fun _ => some sampleManifest
      dateParse := fun _ => some 0 }
  snapshotId := "i"
  candidateToken := "t"
  now := 0
  execPath := "node"
  script name := name
  parseJson _ := some sampleResolved

def exitCodeOf (w : World) (config : Config) : Option ℕ :=
  match runCandidateWorkflow w config [] with
  | .ok (result, _) => some result.exitCode
  | .error _ => none

theorem exitCodeOf_sample : ∀ patchCode ∈ [(0 : ℤ), 1],
    exitCodeOf (sampleWorld patchCode) sampleConfig = some 0 := by
  decide +kernel

theorem run_of_exitCodeOf {code : ℕ} (h : exitCodeOf w config = some code) :
    ∃ result trace, runCandidateWorkflow w config [] = .ok (result, trace) ∧
      result.exitCode = code := by
  rw [exitCodeOf] at h
  split at h
  case h_1 result trace hrun => exact ⟨result, trace, hrun, Option.some.inj h⟩
  case h_2 => cases h

theorem run_patchCommand (patchCode : ℤ) :
    (sampleWorld patchCode).run (patchCommand sampleConfig) =
      .ok ⟨some patchCode, "DSH upstream: 0.1.1-rc.2\n/g: ok\n/p: ok", ""⟩ := by
  have hcheck : (patchCommand sampleConfig).args.contains "--check" = true := by decide +kernel
  simp only [sampleWorld, hcheck, if_true]

/-- A candidate is eligible although its patch check exits with code 1. -/
theorem promotion_gate_open : ∃ result trace,
    runCandidateWorkflow (sampleWorld 1) sampleConfig [] = .ok (result, trace) ∧
      result.exitCode = 0 ∧ ¬Gate (sampleWorld 1) sampleConfig trace result := by
  obtain ⟨result, trace, hrun, hcode⟩ := run_of_exitCodeOf (exitCodeOf_sample 1 (by decide))
  refine ⟨result, trace, hrun, hcode, fun hgate => ?_⟩
  obtain ⟨-, -, patch, hpatch, hzero⟩ := hgate.required .globalPatch rfl
  obtain rfl := Except.ok.inj ((run_patchCommand 1).symm.trans hpatch)
  exact absurd hzero (by decide)

/-- With exit code 0 it has shown what it has to. -/
theorem promotion_gate_iff_sample : ∃ result trace,
    runCandidateWorkflow (sampleWorld 0) sampleConfig [] = .ok (result, trace) ∧
      Gate (sampleWorld 0) sampleConfig trace result := by
  obtain ⟨result, trace, hrun, hcode⟩ := run_of_exitCodeOf (exitCodeOf_sample 0 (by decide))
  refine ⟨result, trace, hrun, (promotion_gate_iff _ _ result trace hrun).mpr (.inl ?_) hcode⟩
  intro patch hpatch
  obtain rfl := Except.ok.inj ((run_patchCommand 0).symm.trans hpatch)
  rfl

end DshOrbit.Upgrade
