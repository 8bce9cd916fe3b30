import DshOrbit.Upgrade.Report

/-!
# Snapshots before a candidate

A hook takes the snapshot and writes a manifest (`snapshot-contract.mjs`). The snapshot counts when
the hook succeeds and its manifest is complete and answers this request.

## Main definitions

- `validateSnapshotManifest`, `bindSnapshotManifest` — the checks of a manifest
- `runSnapshotHook` — the function of that name
- `Manifest.Bound` — the manifest answers the request

## Main results

- `runSnapshotHook_ok` — a snapshot that counts
-/

namespace DshOrbit.Upgrade

open DshOrbit.Lib

def snapshotManifestFields : List String :=
  ["snapshotId", "createdAt", "orbitRevision", "dshVersion", "dataRoot", "method",
    "restoreReference", "status"]

def snapshotOptionalManifestFields : List String := ["candidateDshVersion"]

def snapshotClockToleranceMs : ℤ := 5000

/-- What is asked of the hook. -/
structure SnapshotRequest where
  snapshotId : String
  dataRoot : String
  orbitRevision : String
  dshVersion : String
  candidateDshVersion : Option String
  startedAt : ℤ

/-- A value that is a text and not blank. -/
def isFilled (value : Option Json) : Bool :=
  (value.bind Json.str?).any fun text => trim text ≠ ""

/-- `validateSnapshotManifest`: the error, if there is one. -/
def validateSnapshotManifest (manifest : Json) : Option String :=
  match manifest with
  | .obj _ =>
    let unknown := (objectKeys (some manifest)).filter fun field =>
      !(snapshotManifestFields ++ snapshotOptionalManifestFields).contains field
    let missing := snapshotManifestFields.filter fun field => !isFilled (manifest.field field)
    let optionalInvalid := snapshotOptionalManifestFields.filter fun field =>
      (manifest.field field).isSome && !isFilled (manifest.field field)
    if unknown ≠ [] then
      some ("snapshot manifest has unknown fields: " ++ String.intercalate ", " unknown)
    else if missing ≠ [] then
      some ("snapshot manifest is missing required fields: " ++ String.intercalate ", " missing)
    else if optionalInvalid ≠ [] then
      some ("snapshot manifest optional fields must be non-empty strings when present: " ++
        String.intercalate ", " optionalInvalid)
    else if (manifest.field "status").bind Json.str? ≠ some "complete" then
      some "snapshot manifest status is not complete"
    else none
  | _ => some "snapshot manifest must be a JSON object"

/-- The fields in which a manifest differs from the request. -/
def mismatched (manifest : Json) (request : SnapshotRequest) : List String :=
  ([("snapshotId", request.snapshotId), ("dataRoot", request.dataRoot),
    ("orbitRevision", request.orbitRevision), ("dshVersion", request.dshVersion)].filter
      fun entry => (manifest.field entry.1).bind Json.str? ≠ some entry.2).map (·.1) ++
    match request.candidateDshVersion with
    | none => []
    | some version =>
      if (manifest.field "candidateDshVersion").bind Json.str? ≠ some version then
        ["candidateDshVersion"]
      else []

/-- `bindSnapshotManifest`, with `Date.parse`: the error, if there is one. -/
def bindSnapshotManifest (dateParse : String → Option ℤ) (manifest : Json)
    (request : SnapshotRequest) : Option String :=
  if mismatched manifest request ≠ [] then
    some ("snapshot manifest does not match this snapshot request (mismatched fields: " ++
      String.intercalate ", " (mismatched manifest request) ++ ")")
  else
    match dateParse (joinText (manifest.field "createdAt")) with
    | none => some "snapshot manifest createdAt is not a valid timestamp"
    | some createdAt =>
      if createdAt < request.startedAt - snapshotClockToleranceMs then
        some "snapshot manifest createdAt predates the snapshot request"
      else none

/-! ### The hook -/

/-- How the process of the hook ends: it cannot be started, or it closes with a code or by a
signal. -/
inductive HookExit
  | failed (message : String)
  | closed (code : Option ℤ) (signal : Option String)

/-- What the hook does: whether its time runs out, its end, the text it leaves at the path of the
manifest, and what `JSON.parse` and `Date.parse` make of texts. -/
structure HookRun where
  removal : Except String Unit
  startedAt : ℤ
  timedOut : Bool
  exit : HookExit
  manifestText : Option String
  parseJson : String → Option Json
  dateParse : String → Option ℤ

/-- The last `.` of the path and what follows, if there is one. -/
def extensionOf (hookPath : String) : String :=
  let chars := hookPath.toList
  if chars.contains '.' then
    String.ofList ('.' :: (chars.reverse.takeWhile fun c => c ≠ '.').reverse)
  else ""

def snapshotHookRunner (hookPath : String) : Except String String :=
  match extensionOf hookPath with
  | ".mjs" | ".js" => .ok "node"
  | ".sh" => .ok "sh"
  | _ => .error ("unsupported snapshot hook " ++ hookPath ++ ": expected one of .mjs, .js, .sh")

/-- The error of a hook that did not succeed. -/
def hookError (timeoutSeconds : ℤ) (hook : HookRun) : Option String :=
  if hook.timedOut then
    some ("snapshot hook timed out after " ++ toString timeoutSeconds ++ "s")
  else
    match hook.exit with
    | .failed message => some ("snapshot hook failed to start: " ++ message)
    | .closed code signal =>
      if code = some 0 then none
      else some ("snapshot hook exited with " ++
        signal.getD ("code " ++ (code.map toString).getD "null"))

def readSnapshotManifest (manifestPath : String) (hook : HookRun) : Except String Json :=
  match hook.manifestText with
  | none => .error ("snapshot manifest was not written to " ++ manifestPath)
  | some raw =>
    match hook.parseJson raw with
    | none => .error "snapshot manifest is not valid JSON"
    | some manifest =>
      match validateSnapshotManifest manifest with
      | some error => .error error
      | none => .ok manifest

/-- `runSnapshotHook`: it throws, or returns the manifest or an error. -/
def runSnapshotHook (hookPath manifestPath : String) (timeoutSeconds : ℤ)
    (request : SnapshotRequest) (hook : HookRun) : Except String (Except String Json) :=
  match snapshotHookRunner hookPath with
  | .error error => .ok (.error error)
  | .ok _ => do
    hook.removal
    return match hookError timeoutSeconds hook with
      | some error => .error error
      | none => do
        let manifest ← readSnapshotManifest manifestPath hook
        match bindSnapshotManifest hook.dateParse manifest
          { request with startedAt := hook.startedAt } with
        | some error => .error error
        | none => return manifest

/-! ### Snapshots that count -/

/-- The manifest answers the request: it names the same snapshot, data and versions, it is
complete, and it was not made before the request. -/
structure Bound (dateParse : String → Option ℤ) (manifest : Json) (request : SnapshotRequest) :
    Prop where
  snapshotId : (manifest.field "snapshotId").bind Json.str? = some request.snapshotId
  dataRoot : (manifest.field "dataRoot").bind Json.str? = some request.dataRoot
  orbitRevision : (manifest.field "orbitRevision").bind Json.str? = some request.orbitRevision
  dshVersion : (manifest.field "dshVersion").bind Json.str? = some request.dshVersion
  candidateDshVersion : ∀ version, request.candidateDshVersion = some version →
    (manifest.field "candidateDshVersion").bind Json.str? = some version
  status : (manifest.field "status").bind Json.str? = some "complete"
  restoreReference : isFilled (manifest.field "restoreReference") = true
  createdAt : ∃ createdAt, dateParse (joinText (manifest.field "createdAt")) = some createdAt ∧
    request.startedAt - snapshotClockToleranceMs ≤ createdAt

variable {dateParse : String → Option ℤ} {manifest : Json} {request : SnapshotRequest}

theorem validateSnapshotManifest_none (h : validateSnapshotManifest manifest = none) :
    (manifest.field "status").bind Json.str? = some "complete" ∧
      ∀ field ∈ snapshotManifestFields, isFilled (manifest.field field) = true := by
  cases manifest with
  | obj fields =>
    rw [validateSnapshotManifest] at h
    split_ifs at h with _ hmissing _ hstatus
    refine ⟨not_not.mp hstatus, fun field hfield => ?_⟩
    by_contra hnot
    refine List.ne_nil_of_mem (List.mem_filter.mpr ⟨hfield, ?_⟩) (not_not.mp hmissing)
    rw [Bool.eq_false_iff.mpr hnot]
    rfl
  | _ => cases h

theorem bindSnapshotManifest_none (hvalid : validateSnapshotManifest manifest = none)
    (h : bindSnapshotManifest dateParse manifest request = none) :
    Bound dateParse manifest request := by
  rw [bindSnapshotManifest] at h
  split_ifs at h with hsame
  have hnone := List.append_eq_nil_iff.mp (not_not.mp hsame)
  have hfields : ∀ entry ∈ [("snapshotId", request.snapshotId), ("dataRoot", request.dataRoot),
      ("orbitRevision", request.orbitRevision), ("dshVersion", request.dshVersion)],
      (manifest.field entry.1).bind Json.str? = some entry.2 := by
    intro entry hentry
    have hkept := List.filter_eq_nil_iff.mp (List.map_eq_nil_iff.mp hnone.1) entry hentry
    simpa using hkept
  obtain ⟨hstatus, hfilled⟩ := validateSnapshotManifest_none hvalid
  refine ⟨hfields ("snapshotId", request.snapshotId) (by simp),
    hfields ("dataRoot", request.dataRoot) (by simp),
    hfields ("orbitRevision", request.orbitRevision) (by simp),
    hfields ("dshVersion", request.dshVersion) (by simp), ?_, hstatus,
    hfilled "restoreReference" (by decide), ?_⟩
  · intro version hversion
    have hlast := hnone.2
    rw [hversion] at hlast
    dsimp only at hlast
    split_ifs at hlast with hother
    exact not_not.mp hother
  · split at h
    case h_1 => cases h
    case h_2 createdAt hcreated =>
      split_ifs at h with hbefore
      exact ⟨createdAt, hcreated, not_lt.mp hbefore⟩

theorem hookError_none {timeoutSeconds : ℤ} {hook : HookRun}
    (h : hookError timeoutSeconds hook = none) :
    hook.timedOut = false ∧ ∃ signal, hook.exit = .closed (some 0) signal := by
  rw [hookError] at h
  split_ifs at h with htimedOut
  refine ⟨Bool.eq_false_iff.mpr htimedOut, ?_⟩
  split at h
  case h_1 => cases h
  case h_2 code signal hexit =>
    split_ifs at h with hcode
    exact ⟨signal, hcode ▸ hexit⟩

theorem readSnapshotManifest_ok {manifestPath : String} {hook : HookRun}
    (h : readSnapshotManifest manifestPath hook = .ok manifest) :
    (∃ raw, hook.manifestText = some raw ∧ hook.parseJson raw = some manifest) ∧
      validateSnapshotManifest manifest = none := by
  rw [readSnapshotManifest] at h
  split at h
  case h_1 => cases h
  case h_2 raw hraw =>
    split at h
    case h_1 => cases h
    case h_2 read hread =>
      split at h
      case h_1 => cases h
      case h_2 hvalid =>
        obtain rfl := Except.ok.inj h
        exact ⟨⟨raw, hraw, hread⟩, hvalid⟩

/-- A snapshot counts when the hook exits with code 0 in its time, and its manifest answers the
request. -/
theorem runSnapshotHook_ok {hookPath manifestPath : String} {timeoutSeconds : ℤ} {hook : HookRun}
    (h : runSnapshotHook hookPath manifestPath timeoutSeconds request hook = .ok (.ok manifest)) :
    hook.timedOut = false ∧ (∃ signal, hook.exit = .closed (some 0) signal) ∧
      (∃ raw, hook.manifestText = some raw ∧ hook.parseJson raw = some manifest) ∧
      Bound hook.dateParse manifest { request with startedAt := hook.startedAt } := by
  rw [runSnapshotHook] at h
  split at h
  case h_1 => cases Except.ok.inj h
  case h_2 =>
    obtain ⟨-, -, h⟩ := bind_eq_ok.mp h
    have h := pure_eq_ok.mp h
    split at h
    case h_1 => cases h
    case h_2 herror =>
      obtain ⟨read, hread, h⟩ := bind_eq_ok.mp h
      split at h
      case h_1 => cases h
      case h_2 hbound =>
        obtain rfl := pure_eq_ok.mp h
        obtain ⟨hraw, hvalid⟩ := readSnapshotManifest_ok hread
        obtain ⟨hintime, hexit⟩ := hookError_none herror
        exact ⟨hintime, hexit, hraw, bindSnapshotManifest_none hvalid hbound⟩

/-! ### Errors -/

theorem append_ne_empty {first : String} (h : first ≠ "") (second : String) :
    first ++ second ≠ "" := by
  intro hempty
  have hlist := congrArg String.toList hempty
  rw [String.toList_append] at hlist
  exact h (String.toList_eq_nil_iff.mp (List.append_eq_nil_iff.mp hlist).1)

theorem validateSnapshotManifest_ne (manifest : Json) :
    validateSnapshotManifest manifest ≠ some "" := by
  cases manifest with
  | obj fields =>
    intro h
    rw [validateSnapshotManifest] at h
    split_ifs at h
    · exact append_ne_empty (by decide) _ (Option.some.inj h)
    · exact append_ne_empty (by decide) _ (Option.some.inj h)
    · exact append_ne_empty (by decide) _ (Option.some.inj h)
    · exact absurd (Option.some.inj h) (by decide)
  | _ => exact fun h => absurd (Option.some.inj h) (by decide)

theorem bindSnapshotManifest_ne (dateParse : String → Option ℤ) (manifest : Json)
    (request : SnapshotRequest) : bindSnapshotManifest dateParse manifest request ≠ some "" := by
  intro h
  rw [bindSnapshotManifest] at h
  split_ifs at h
  · exact append_ne_empty (append_ne_empty (by decide) _) _ (Option.some.inj h)
  · split at h
    · exact absurd (Option.some.inj h) (by decide)
    · split_ifs at h
      exact absurd (Option.some.inj h) (by decide)

theorem hookError_ne (timeoutSeconds : ℤ) (hook : HookRun) :
    hookError timeoutSeconds hook ≠ some "" := by
  intro h
  rw [hookError] at h
  split_ifs at h
  · exact append_ne_empty (append_ne_empty (by decide) _) _ (Option.some.inj h)
  · split at h
    · exact append_ne_empty (by decide) _ (Option.some.inj h)
    · split_ifs at h
      exact append_ne_empty (by decide) _ (Option.some.inj h)

theorem readSnapshotManifest_ne (manifestPath : String) (hook : HookRun) :
    readSnapshotManifest manifestPath hook ≠ .error "" := by
  intro h
  rw [readSnapshotManifest] at h
  split at h
  · exact append_ne_empty (by decide) _ (Except.error.inj h)
  · split at h
    · exact absurd (Except.error.inj h) (by decide)
    · split at h
      case h_1 error herror =>
        exact validateSnapshotManifest_ne _ (herror.trans (congrArg some (Except.error.inj h)))
      case h_2 => cases h

/-- The error of a snapshot that does not count is not empty. -/
theorem runSnapshotHook_ne {hookPath manifestPath : String} {timeoutSeconds : ℤ}
    {hook : HookRun} :
    runSnapshotHook hookPath manifestPath timeoutSeconds request hook ≠ .ok (.error "") := by
  intro h
  rw [runSnapshotHook] at h
  split at h
  case h_1 error hrunner =>
    rw [snapshotHookRunner] at hrunner
    obtain rfl : error = "" := Except.error.inj (Except.ok.inj h)
    split at hrunner
    · cases hrunner
    · cases hrunner
    · cases hrunner
    · exact append_ne_empty (append_ne_empty (by decide) _) _ (Except.error.inj hrunner)
  case h_2 =>
    obtain ⟨-, -, h⟩ := bind_eq_ok.mp h
    have h := pure_eq_ok.mp h
    split at h
    case h_1 error herror =>
      exact hookError_ne timeoutSeconds hook (herror.trans (congrArg some (Except.error.inj h)))
    case h_2 =>
      cases hread : readSnapshotManifest manifestPath hook with
      | error error =>
        rw [hread] at h
        obtain rfl : error = "" := Except.error.inj h
        exact readSnapshotManifest_ne manifestPath hook hread
      | ok manifest =>
        rw [hread] at h
        change (match bindSnapshotManifest hook.dateParse manifest
          { request with startedAt := hook.startedAt } with
          | some error => .error error
          | none => .ok manifest : Except String Json) = .error "" at h
        split at h
        case h_1 error herror =>
          exact bindSnapshotManifest_ne _ _ _ (herror.trans (congrArg some (Except.error.inj h)))
        case h_2 => cases h

end DshOrbit.Upgrade
