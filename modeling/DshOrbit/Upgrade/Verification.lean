import DshOrbit.Upgrade.Binding

/-!
# The verification sequence

`runVerificationSequence` (`upgrade-runner.mjs`) runs the checks of a candidate in order, and stops
after the first that fails: the later ones are recorded as not run.

## Main definitions

- `Stage` — the steps of the sequence, each for one or two checks
- `runVerificationSequence` — the function of that name
- `Stage.Passes` — what a step has to be answered
- `Executed` — a check was carried out, and what it ran succeeded

## Main results

- `runVerificationSequence_ok` — what is recorded, by the answers
-/

namespace DshOrbit.Upgrade

open DshOrbit.Lib DshOrbit.Lib.Regex

/-! ### Records -/

/-- The checks that are recorded, and the one after which the sequence stopped. -/
structure Progress where
  checks : CheckName → Option Check := fun _ => none
  stoppedAfter : Option CheckName := none

def Progress.record (p : Progress) (name : CheckName) (status : CheckStatus) (detail : String) :
    Progress where
  checks := Function.update p.checks name (some ⟨status, detail⟩)
  stoppedAfter := if status = .fail then some name else p.stoppedAfter

/-- The checks of a step that is skipped. -/
def Progress.skip (p : Progress) (names : List CheckName) (after : CheckName) : Progress :=
  { p with
    checks := names.foldl
      (fun checks name => Function.update checks name
        (some ⟨.notRun, "skipped after " ++ after.text ++ " failed"⟩)) p.checks }

/-- A check that passes or fails. -/
def statusOf (ok : Bool) : CheckStatus := if ok then .pass else .fail

/-! ### Steps -/

inductive Stage
  | runtimeReadiness
  | patches
  | settings
  | authorizationSmoke
  | sessionResume
  | webPluginRoutes
  | longLivedTransport
  | webSocketTransport
  | terminalFence
  | terminalPtty
  deriving DecidableEq, Repr

def Stage.names : Stage → List CheckName
  | runtimeReadiness => [.runtimeReadiness]
  | patches => [.globalPatch, .profilePatch]
  | settings => [.settingsRead, .settingsNoopWrite]
  | authorizationSmoke => [.authorizationSmoke]
  | sessionResume => [.sessionResume]
  | webPluginRoutes => [.webPluginRoutes]
  | longLivedTransport => [.longLivedTransport]
  | webSocketTransport => [.webSocketTransport]
  | terminalFence => [.terminalFence]
  | terminalPtty => [.terminalPtty]

/-- `steps`, in order. -/
def stages : List Stage :=
  [.runtimeReadiness, .patches, .settings, .authorizationSmoke, .sessionResume, .webPluginRoutes,
    .longLivedTransport, .webSocketTransport, .terminalFence, .terminalPtty]

variable (w : World) (config : Config)

/-- `smokeEnv(extra)`, with the certificate of the gateway. -/
def smokeEnv (extra : List (String × String)) : List (String × String) :=
  [("DSH_SMOKE_URL", config.candidateEndpoint), ("DSH_SMOKE_BASIC_USER", config.basicUser),
    ("DSH_SMOKE_BASIC_PASSWORD", config.basicPassword)] ++
    (match config.smokeOrigin with
      | none | some "" => []
      | some origin => [("DSH_SMOKE_ORIGIN", origin)]) ++
    [("NODE_EXTRA_CA_CERTS", config.workdir ++ "/gateway-identity-cert.pem")] ++ extra

def patchCommand : Command :=
  ⟨"docker", composeArgs config ["exec", "-T", config.service, "node",
    "/usr/local/lib/dsh-orbit/bin/dsh-orbit-patch.mjs", "--check"], []⟩

/-- One of the scripts under `scripts/`. -/
def smokeCommand (script : String) (extra : List (String × String)) : Command :=
  ⟨w.execPath, [w.script script], smokeEnv config extra⟩

def settingsCommand : Command := smokeCommand w config "smoke-settings.mjs" []

def authCommand : Command := smokeCommand w config "smoke-auth.mjs" []

def sessionCommand : Command :=
  smokeCommand w config "smoke-session-resume.mjs" [("DSH_SMOKE_SESSION_ID", config.sessionId)]

def webSocketCommand : Command := smokeCommand w config "smoke-websocket.mjs" []

def terminalCommand : Command := smokeCommand w config "smoke-terminal.mjs" []

def homeUrl : String := config.candidateEndpoint ++ "/"

/-! ### What outputs say -/

def containsPart (part text : String) : Bool := includesChars part.toList text.toList

def beginsWith (start text : String) : Bool := start.toList.isPrefixOf text.toList

/-- The lines that a patch check prints. -/
def patchLines (stdout : String) : List String := (splitLines stdout).map trim

def upstreamVersion (stdout : String) : Option String :=
  ((patchLines stdout).find? (beginsWith "DSH upstream:")).map fun line =>
    trim (String.ofList (line.toList.drop 13))

/-- The roots that a patch check reports. -/
def patchRoots (stdout : String) : List String := (patchLines stdout).filter (beginsWith "/")

/-- A root is reported as verified. -/
def rootOk (stdout : String) (i : ℕ) : Bool := (patchRoots stdout)[i]?.any (containsPart ": ok")

def versionOk (stdout : String) : Bool := upstreamVersion stdout = some config.dshVersion

/-- `/src="(\/plugins\/[^"]+)"/`. -/
def pluginPattern : Regex :=
  sequence [literal "src=\"".toList,
    .group 1 (.seq (literal "/plugins/".toList) (many1 fun c => c ≠ '"')), .char (· == '"')]

def pluginPath (page : Page) : Option String :=
  page.body.bind fun body => (matchGroup pluginPattern 1 body.toList).map String.ofList

def isLineTerminator (c : Char) : Bool :=
  c.toNat == 0x0A || c.toNat == 0x0D || c.toNat == 0x2028 || c.toNat == 0x2029

/-- `/webSocketTransport:\s*pass\s*\((.+)\)$/` with the flag `m`. -/
def webSocketPattern : Regex :=
  sequence [literal "webSocketTransport:".toList, many isJsWhitespace, literal "pass".toList,
    many isJsWhitespace, .char (· == '('), .group 1 (many1 fun c => !isLineTerminator c),
    .char (· == ')'), .notAhead (.char fun c => !isLineTerminator c)]

/-- The detail that a WebSocket check prints on a line of its own. -/
def webSocketDetailFrom : List Char → List Char → Option (List Char)
  | _, [] => none
  | before, c :: rest =>
    let here :=
      if before.head?.all isLineTerminator then
        (webSocketPattern.run { before := before, rest := c :: rest } some).bind fun cursor =>
          (cursor.groups.find? fun entry => entry.1 == 1).map (·.2)
      else none
    here.or (webSocketDetailFrom (c :: before) rest)

def webSocketDetail (stdout : String) : String :=
  ((webSocketDetailFrom [] (trim stdout).toList).map String.ofList).getD
    "WebSocket 101 upgrade handshake successful"

/-! ### The sequence -/

def statusText (status : Option ℤ) : String := (status.map toString).getD "undefined"

/-- A check that passes when its command exits with code 0. -/
def commandCheck (name : CheckName) (command : Command) (detail : String → String) (p : Progress) :
    Run Progress := do
  let result ← w.runCommand command
  let ok : Bool := result.code = some 0
  return p.record name (statusOf ok)
    (if ok then detail result.stdout
      else failDetail result.stderr ("exit " ++ codeText result.code))

def runReadiness (p : Progress) : Run Progress := do
  let home ← w.fetchPage .readiness (homeUrl config)
  return p.record .runtimeReadiness (statusOf (home.status = some 200))
    ("GET / with authenticated gateway headers -> HTTP " ++ statusText home.status)

def runPatches (p : Progress) : Run Progress := do
  let patch ← w.runCommand (patchCommand config)
  let globalOk := rootOk patch.stdout 0
  let profileOk := rootOk patch.stdout 1
  let globalDetail :=
    if !versionOk config patch.stdout then
      "patch check reported DSH upstream " ++
        ((upstreamVersion patch.stdout).map quoteJson).getD "null" ++ ", expected " ++
        quoteJson config.dshVersion
    else if globalOk then (patchRoots patch.stdout)[0]?.getD ""
    else failDetail patch.stderr ("patch check exit " ++ codeText patch.code)
  let p := p.record .globalPatch (statusOf (globalOk && versionOk config patch.stdout)) globalDetail
  return p.record .profilePatch (statusOf profileOk)
    (if profileOk then (patchRoots patch.stdout)[1]?.getD ""
      else "patch check did not report a verified profile root")

def runSettings (p : Progress) : Run Progress := do
  let settings ← w.runCommand (settingsCommand w config)
  let describeOk := containsPart "settings.describe: ok" settings.stdout
  let mutateOk : Bool :=
    settings.code = some 0 && containsPart "settings.mutate: ok" settings.stdout
  let p := p.record .settingsRead (statusOf describeOk)
    (if describeOk then "settings.describe: ok"
      else failDetail settings.stderr ("exit " ++ codeText settings.code))
  return p.record .settingsNoopWrite (statusOf mutateOk)
    (if mutateOk then "settings.mutate: ok (no-op)" else "no-op settings.mutate did not succeed")

def runPlugins (p : Progress) : Run Progress := do
  let home ← w.fetchPage .plugins (homeUrl config)
  match pluginPath home with
  | none => return p.record .webPluginRoutes .fail "the web UI references no plugin asset"
  | some path =>
    let asset ← w.fetchPage .asset (config.candidateEndpoint ++ path)
    return p.record .webPluginRoutes (statusOf (asset.status = some 200))
      ("plugin asset " ++ path ++ " -> HTTP " ++ statusText asset.status)

def runTerminal (p : Progress) : Run Progress :=
  if !config.sshPatchEnabled then
    pure (p.record .terminalFence .notRun
      "dsh-ssh fence patch not enabled (set DSH_ORBIT_PATCH_DSH_SSH=1 to automate)")
  else commandCheck w .terminalFence (terminalCommand w config)
    (fun _ => "terminal fence probe: 6/6 authorization cases matched") p

def Stage.run (p : Progress) : Stage → Run Progress
  | runtimeReadiness => runReadiness w config p
  | patches => runPatches w config p
  | settings => runSettings w config p
  | authorizationSmoke => commandCheck w .authorizationSmoke (authCommand w config)
      (fun _ => "6/6 authorization cases matched") p
  | sessionResume => commandCheck w .sessionResume (sessionCommand w config)
      (fun _ => "existing session resumed, current model re-selected") p
  | webPluginRoutes => runPlugins w config p
  | longLivedTransport =>
    pure (p.record .longLivedTransport .notRun ("automated check not implemented; long-lived " ++
      "transport manually verified during Stage 7 acceptance"))
  | webSocketTransport =>
    commandCheck w .webSocketTransport (webSocketCommand w config) webSocketDetail p
  | terminalFence => runTerminal w config p
  | terminalPtty =>
    pure (p.record .terminalPtty .notRun ("actual PTY runtime evidence is recorded by the " ++
      "Stage 7 manual acceptance (see the release attestation); the automated fence result is " ++
      "reported separately as terminalFence"))

/-- One step of the loop. -/
def Stage.step (p : Progress) (stage : Stage) : Run Progress :=
  match p.stoppedAfter with
  | some after => return p.skip stage.names after
  | none => stage.run w config p

def runVerificationSequence : Run Progress := stages.foldlM (Stage.step w config) {}

/-! ### What passes -/

/-- The command is answered, with exit code 0 and an output of a kind. -/
def Answers (command : Command) (p : CommandResult → Prop) : Prop :=
  ∃ result, w.run command = .ok result ∧ p result

/-- What a step has to be answered so that none of its checks fails. The patch check is read by its
output alone. -/
def Stage.Passes : Stage → Prop
  | runtimeReadiness => ∃ home, w.fetch .readiness (homeUrl config) = .ok home ∧
      home.status = some 200
  | patches => Answers w (patchCommand config) fun patch =>
      rootOk patch.stdout 0 = true ∧ versionOk config patch.stdout = true ∧
        rootOk patch.stdout 1 = true
  | settings => Answers w (settingsCommand w config) fun settings => settings.code = some 0 ∧
      containsPart "settings.describe: ok" settings.stdout = true ∧
      containsPart "settings.mutate: ok" settings.stdout = true
  | authorizationSmoke => Answers w (authCommand w config) fun result => result.code = some 0
  | sessionResume => Answers w (sessionCommand w config) fun result => result.code = some 0
  | webPluginRoutes => ∃ home path asset, w.fetch .plugins (homeUrl config) = .ok home ∧
      pluginPath home = some path ∧
      w.fetch .asset (config.candidateEndpoint ++ path) = .ok asset ∧ asset.status = some 200
  | webSocketTransport =>
    Answers w (webSocketCommand w config) fun result => result.code = some 0
  | terminalFence => config.sshPatchEnabled = true →
      Answers w (terminalCommand w config) fun result => result.code = some 0
  | longLivedTransport | terminalPtty => True

/-- A required check was carried out: its command was run and exited with code 0, or its pages were
fetched with status 200. -/
def Executed (trace : List Action) : CheckName → Prop
  | .globalPatch | .profilePatch => Exited w trace (patchCommand config)
  | .runtimeReadiness => .fetch .readiness (homeUrl config) ∈ trace ∧
      ∃ home, w.fetch .readiness (homeUrl config) = .ok home ∧ home.status = some 200
  | .settingsRead | .settingsNoopWrite => Exited w trace (settingsCommand w config)
  | .authorizationSmoke => Exited w trace (authCommand w config)
  | .sessionResume => Exited w trace (sessionCommand w config)
  | .webPluginRoutes => ∃ path, .fetch .asset (config.candidateEndpoint ++ path) ∈ trace ∧
      ∃ asset, w.fetch .asset (config.candidateEndpoint ++ path) = .ok asset ∧
        asset.status = some 200
  | _ => True

/-- The patch check, if it is answered, exits with code 0. -/
def PatchCheckExits : Prop :=
  ∀ result, w.run (patchCommand config) = .ok result → result.code = some 0

/-- A check that did not fail; a required one passed and was carried out, if the patch check exits
with code 0. -/
def Recorded (trace : List Action) (p : Progress) (name : CheckName) : Prop :=
  ∃ check, p.checks name = some check ∧ check.status ≠ .fail ∧
    (name.required = true → check.status = .pass ∧
      (PatchCheckExits w config → Executed w config trace name))

/-- The sequence stopped after the check, which failed. -/
def Failing (p : Progress) (name : CheckName) : Prop :=
  p.stoppedAfter = some name ∧ ∃ check, p.checks name = some check ∧ check.status = .fail

/-! ### Steps of the sequence -/

variable {w : World} {config : Config} {trace trace' : List Action} {p p' : Progress}
  {name first second : CheckName} {ok : Bool} {detail : String} {passes : Prop}

/-- What a step leaves: its checks are recorded and the sequence goes on, or stops after one of
them. -/
structure Outcome (w : World) (config : Config) (passes : Prop) (names : List CheckName)
    (p p' : Progress) (trace trace' : List Action) : Prop where
  others : ∀ name ∉ names, p'.checks name = p.checks name
  trace_subset : trace ⊆ trace'
  ends : (passes ∧ p'.stoppedAfter = none ∧ ∀ name ∈ names, Recorded w config trace' p' name) ∨
    (¬passes ∧ ∃ name ∈ names, Failing p' name)

theorem Progress.record_checks_of_ne {status : CheckStatus} (h : name ≠ first) :
    (p.record first status detail).checks name = p.checks name := Function.update_of_ne h _ _

theorem Progress.record_checks_self {status : CheckStatus} :
    (p.record name status detail).checks name = some ⟨status, detail⟩ := Function.update_self ..

theorem Progress.record_stoppedAfter (h : p.stoppedAfter = none) :
    (p.record name (statusOf ok) detail).stoppedAfter = if ok then none else some name := by
  cases ok with
  | true => exact h
  | false => rfl

theorem statusOf_ne_fail (h : ok = true) : statusOf ok = .pass := by rw [h]; rfl

/-- A step with one check. -/
theorem outcome_single (hp : p.stoppedAfter = none) (hsubset : trace ⊆ trace')
    (hpasses : passes ↔ ok = true)
    (hexecuted : ok = true → name.required = true → Executed w config trace' name) :
    Outcome w config passes [name] p (p.record name (statusOf ok) detail) trace trace' := by
  refine ⟨fun other hother => Progress.record_checks_of_ne (List.ne_of_not_mem_cons hother),
    hsubset, ?_⟩
  cases hok : ok with
  | true =>
    refine .inl ⟨hpasses.mpr hok, hp, fun other hother => ?_⟩
    obtain rfl := List.mem_singleton.mp hother
    exact ⟨_, Progress.record_checks_self, CheckStatus.noConfusion,
      fun hrequired => ⟨rfl, fun _ => hexecuted hok hrequired⟩⟩
  | false =>
    refine .inr ⟨fun h => ?_, name, List.mem_singleton_self name, rfl, _,
      Progress.record_checks_self, rfl⟩
    rw [hpasses.mp h] at hok
    cases hok

/-- A step whose one check is not run. -/
theorem outcome_notRun (hp : p.stoppedAfter = none) (hpasses : passes)
    (hrequired : name.required = false) :
    Outcome w config passes [name] p (p.record name .notRun detail) trace trace := by
  refine ⟨fun other hother => Progress.record_checks_of_ne (List.ne_of_not_mem_cons hother),
    List.Subset.refl trace, .inl ⟨hpasses, hp, fun other hother => ?_⟩⟩
  obtain rfl := List.mem_singleton.mp hother
  refine ⟨_, Progress.record_checks_self, CheckStatus.noConfusion, fun h => ?_⟩
  rw [hrequired] at h
  cases h

/-- A step with two checks. -/
theorem outcome_double {ok' : Bool} {detail' : String} (hp : p.stoppedAfter = none)
    (hsubset : trace ⊆ trace') (hne : first ≠ second) (hpasses : passes ↔ ok = true ∧ ok' = true)
    (hexecuted : ok = true → ok' = true → PatchCheckExits w config →
      Executed w config trace' first ∧ Executed w config trace' second) :
    Outcome w config passes [first, second] p
      ((p.record first (statusOf ok) detail).record second (statusOf ok') detail') trace trace' := by
  have hfirst : ((p.record first (statusOf ok) detail).record second (statusOf ok') detail').checks
      first = some ⟨statusOf ok, detail⟩ := by
    rw [Progress.record_checks_of_ne hne, Progress.record_checks_self]
  refine ⟨fun other hother => ?_, hsubset, ?_⟩
  · rw [List.mem_cons, List.mem_singleton, not_or] at hother
    rw [Progress.record_checks_of_ne hother.2, Progress.record_checks_of_ne hother.1]
  · cases hok' : ok' with
    | false =>
      refine .inr ⟨fun h => ?_, second, by simp, rfl, _, Progress.record_checks_self, rfl⟩
      rw [(hpasses.mp h).2] at hok'
      cases hok'
    | true =>
      rw [hok'] at hfirst hpasses hexecuted
      cases hok : ok with
      | false =>
        rw [hok] at hfirst hpasses
        refine .inr ⟨fun h => ?_, first, by simp, rfl, _, hfirst, rfl⟩
        cases (hpasses.mp h).1
      | true =>
        rw [hok] at hfirst
        refine .inl ⟨hpasses.mpr ⟨hok, rfl⟩, hp, fun other hother => ?_⟩
        obtain rfl | hother := List.mem_cons.mp hother
        · exact ⟨_, hfirst, CheckStatus.noConfusion,
            fun _ => ⟨rfl, fun hpatch => (hexecuted hok rfl hpatch).1⟩⟩
        · obtain rfl := List.mem_singleton.mp hother
          exact ⟨_, Progress.record_checks_self, CheckStatus.noConfusion,
            fun _ => ⟨rfl, fun hpatch => (hexecuted hok rfl hpatch).2⟩⟩

theorem answers_iff {command : Command} {result : CommandResult} {q : CommandResult → Prop}
    (h : w.run command = .ok result) : Answers w command q ↔ q result := by
  constructor
  · rintro ⟨other, hother, hq⟩
    obtain rfl := Except.ok.inj (h.symm.trans hother)
    exact hq
  · exact fun hq => ⟨result, h, hq⟩

theorem exited_of_run {command : Command} {result : CommandResult}
    (h : w.run command = .ok result) (hcode : result.code = some 0) :
    Exited w (trace ++ [.run command]) command := ⟨by simp, result, h, hcode⟩

/-- A check of one command. -/
theorem commandCheck_ok {command : Command} {text : String → String}
    (h : commandCheck w name command text p trace = .ok (p', trace')) (hp : p.stoppedAfter = none)
    (hexecuted : ∀ trace, Exited w trace command → Executed w config trace name) :
    Outcome w config (Answers w command fun result => result.code = some 0) [name] p p' trace
      trace' := by
  obtain ⟨result, trace1, hresult, h⟩ := run_bind_ok h
  obtain ⟨hrun, rfl⟩ := perform_ok hresult
  obtain ⟨rfl, rfl⟩ := pure_ok h
  refine outcome_single hp (List.subset_append_left _ _) ?_ fun hok _ =>
    hexecuted _ (exited_of_run hrun (of_decide_eq_true hok))
  rw [answers_iff hrun, decide_eq_true_eq]

theorem runReadiness_ok (h : runReadiness w config p trace = .ok (p', trace'))
    (hp : p.stoppedAfter = none) :
    Outcome w config (Stage.Passes w config .runtimeReadiness) [.runtimeReadiness] p p' trace
      trace' := by
  obtain ⟨home, trace1, hhome, h⟩ := run_bind_ok h
  obtain ⟨hfetch, rfl⟩ := perform_ok hhome
  obtain ⟨rfl, rfl⟩ := pure_ok h
  refine outcome_single hp (List.subset_append_left _ _) ?_ fun hok _ =>
    ⟨by simp, home, hfetch, of_decide_eq_true hok⟩
  rw [decide_eq_true_eq]
  constructor
  · rintro ⟨other, hother, hstatus⟩
    obtain rfl := Except.ok.inj (hfetch.symm.trans hother)
    exact hstatus
  · exact fun hstatus => ⟨home, hfetch, hstatus⟩

theorem runPatches_ok (h : runPatches w config p trace = .ok (p', trace'))
    (hp : p.stoppedAfter = none) :
    Outcome w config (Stage.Passes w config .patches) [.globalPatch, .profilePatch] p p' trace
      trace' := by
  obtain ⟨patch, trace1, hpatch, h⟩ := run_bind_ok h
  obtain ⟨hrun, rfl⟩ := perform_ok hpatch
  obtain ⟨rfl, rfl⟩ := pure_ok h
  refine outcome_double hp (List.subset_append_left _ _) (by decide) ?_ fun _ _ hexits => ?_
  · rw [Stage.Passes, answers_iff hrun, Bool.and_eq_true, and_assoc]
  · exact ⟨exited_of_run hrun (hexits patch hrun), exited_of_run hrun (hexits patch hrun)⟩

theorem runSettings_ok (h : runSettings w config p trace = .ok (p', trace'))
    (hp : p.stoppedAfter = none) :
    Outcome w config (Stage.Passes w config .settings) [.settingsRead, .settingsNoopWrite] p p'
      trace trace' := by
  obtain ⟨settings, trace1, hsettings, h⟩ := run_bind_ok h
  obtain ⟨hrun, rfl⟩ := perform_ok hsettings
  obtain ⟨rfl, rfl⟩ := pure_ok h
  refine outcome_double hp (List.subset_append_left _ _) (by decide) ?_ fun _ hok' _ => ?_
  · rw [Stage.Passes, answers_iff hrun, Bool.and_eq_true, decide_eq_true_eq]
    exact ⟨fun h => ⟨h.2.1, h.1, h.2.2⟩, fun h => ⟨h.2.1, h.1, h.2.2⟩⟩
  · rw [Bool.and_eq_true, decide_eq_true_eq] at hok'
    exact ⟨exited_of_run hrun hok'.1, exited_of_run hrun hok'.1⟩

theorem runPlugins_ok (h : runPlugins w config p trace = .ok (p', trace'))
    (hp : p.stoppedAfter = none) :
    Outcome w config (Stage.Passes w config .webPluginRoutes) [.webPluginRoutes] p p' trace
      trace' := by
  obtain ⟨home, trace1, hhome, h⟩ := run_bind_ok h
  obtain ⟨hfetch, rfl⟩ := perform_ok hhome
  cases hpath : pluginPath home with
  | none =>
    rw [hpath] at h
    obtain ⟨rfl, rfl⟩ := pure_ok h
    refine @outcome_single _ _ _ _ _ _ false _ _ hp (List.subset_append_left _ _) ?_ nofun
    refine iff_of_false ?_ Bool.noConfusion
    rintro ⟨other, path, _, hother, hpath', -⟩
    obtain rfl := Except.ok.inj (hfetch.symm.trans hother)
    cases hpath.symm.trans hpath'
  | some path =>
    rw [hpath] at h
    obtain ⟨asset, trace1, hasset, h⟩ := run_bind_ok h
    obtain ⟨hfetched, rfl⟩ := perform_ok hasset
    obtain ⟨rfl, rfl⟩ := pure_ok h
    refine outcome_single hp ?_ ?_ fun hok _ =>
      ⟨path, by simp, asset, hfetched, of_decide_eq_true hok⟩
    · rw [List.append_assoc]
      exact List.subset_append_left _ _
    · rw [decide_eq_true_eq]
      constructor
      · rintro ⟨other, path', asset', hother, hpath', hasset', hstatus⟩
        obtain rfl := Except.ok.inj (hfetch.symm.trans hother)
        obtain rfl := Option.some.inj (hpath.symm.trans hpath')
        obtain rfl := Except.ok.inj (hfetched.symm.trans hasset')
        exact hstatus
      · exact fun hstatus => ⟨home, path, asset, hfetch, hpath, hfetched, hstatus⟩

theorem runTerminal_ok (h : runTerminal w config p trace = .ok (p', trace'))
    (hp : p.stoppedAfter = none) :
    Outcome w config (Stage.Passes w config .terminalFence) [.terminalFence] p p' trace trace' := by
  by_cases henabled : config.sshPatchEnabled = true
  · rw [runTerminal, if_neg (by rw [henabled]; decide)] at h
    obtain ⟨hothers, hsubset, hends⟩ := commandCheck_ok h hp fun _ _ => trivial
    refine ⟨hothers, hsubset, ?_⟩
    rw [Stage.Passes, forall_prop_of_true henabled]
    exact hends
  · rw [Bool.not_eq_true] at henabled
    rw [runTerminal, if_pos (by rw [henabled]; rfl)] at h
    obtain ⟨rfl, rfl⟩ := pure_ok h
    refine outcome_notRun hp (fun h => ?_) rfl
    rw [henabled] at h
    cases h

/-- What a step of the sequence leaves. -/
theorem Stage.run_ok {stage : Stage} (h : stage.run w config p trace = .ok (p', trace'))
    (hp : p.stoppedAfter = none) :
    Outcome w config (stage.Passes w config) stage.names p p' trace trace' := by
  cases stage with
  | runtimeReadiness => exact runReadiness_ok h hp
  | patches => exact runPatches_ok h hp
  | settings => exact runSettings_ok h hp
  | authorizationSmoke =>
    rw [Stage.run] at h
    exact commandCheck_ok h hp fun _ hexited => hexited
  | sessionResume =>
    rw [Stage.run] at h
    exact commandCheck_ok h hp fun _ hexited => hexited
  | webPluginRoutes => exact runPlugins_ok h hp
  | longLivedTransport =>
    obtain ⟨rfl, rfl⟩ := pure_ok h
    exact outcome_notRun hp trivial rfl
  | webSocketTransport =>
    rw [Stage.run] at h
    exact commandCheck_ok h hp fun _ _ => trivial
  | terminalFence => exact runTerminal_ok h hp
  | terminalPtty =>
    obtain ⟨rfl, rfl⟩ := pure_ok h
    exact outcome_notRun hp trivial rfl

/-! ### The whole sequence -/

theorem Executed.later (h : Executed w config trace name) (hle : trace ⊆ trace') :
    Executed w config trace' name := by
  cases name with
  | runtimeReadiness => exact ⟨hle h.1, h.2⟩
  | webPluginRoutes =>
    obtain ⟨path, hfetched, hasset⟩ := h
    exact ⟨path, hle hfetched, hasset⟩
  | globalPatch => exact Exited.later h hle
  | profilePatch => exact Exited.later h hle
  | settingsRead => exact Exited.later h hle
  | settingsNoopWrite => exact Exited.later h hle
  | authorizationSmoke => exact Exited.later h hle
  | sessionResume => exact Exited.later h hle
  | _ => exact trivial

theorem Recorded.later {q : Progress} (h : Recorded w config trace p name)
    (hle : trace ⊆ trace') (hsame : q.checks name = p.checks name) :
    Recorded w config trace' q name := by
  obtain ⟨check, hcheck, hstatus, hpassed⟩ := h
  exact ⟨check, hsame.trans hcheck, hstatus, fun hrequired =>
    ⟨(hpassed hrequired).1, fun hexits => ((hpassed hrequired).2 hexits).later hle⟩⟩

theorem skip_checks (names : List CheckName) (after : CheckName) (hname : name ∉ names) :
    (p.skip names after).checks name = p.checks name := by
  suffices hfold : ∀ checks : CheckName → Option Check, names.foldl
      (fun checks name => Function.update checks name
        (some ⟨.notRun, "skipped after " ++ after.text ++ " failed"⟩)) checks name =
      checks name from hfold p.checks
  induction names with
  | nil => exact fun _ => rfl
  | cons first names ih =>
    intro checks
    rw [List.mem_cons, not_or] at hname
    rw [List.foldl_cons, ih hname.2, Function.update_of_ne hname.1]

/-- After the sequence has stopped, the later steps are skipped. -/
theorem sequence_stopped {steps : List Stage} {after : CheckName}
    (h : steps.foldlM (Stage.step w config) p trace = .ok (p', trace'))
    (hp : p.stoppedAfter = some after) :
    p'.stoppedAfter = some after ∧ trace = trace' ∧
      ∀ name ∉ steps.flatMap Stage.names, p'.checks name = p.checks name := by
  induction steps generalizing p with
  | nil =>
    obtain ⟨rfl, rfl⟩ := pure_ok h
    exact ⟨hp, rfl, fun _ _ => rfl⟩
  | cons stage steps ih =>
    obtain ⟨q, trace1, hstep, h⟩ := run_bind_ok h
    rw [Stage.step, hp] at hstep
    obtain ⟨rfl, rfl⟩ := pure_ok hstep
    obtain ⟨hstopped, htrace, hothers⟩ := ih h hp
    refine ⟨hstopped, htrace, fun name hname => ?_⟩
    rw [List.flatMap_cons, List.mem_append, not_or] at hname
    rw [hothers name hname.2, skip_checks _ _ hname.1]

/-- What a sequence of steps leaves. -/
theorem sequence_ok {steps : List Stage} (hnodup : (steps.flatMap Stage.names).Nodup)
    (h : steps.foldlM (Stage.step w config) p trace = .ok (p', trace'))
    (hp : p.stoppedAfter = none) :
    Outcome w config (∀ stage ∈ steps, stage.Passes w config) (steps.flatMap Stage.names) p p'
      trace trace' := by
  induction steps generalizing p trace with
  | nil =>
    obtain ⟨rfl, rfl⟩ := pure_ok h
    exact ⟨fun _ _ => rfl, List.Subset.refl _, .inl ⟨fun _ hstage => absurd hstage List.not_mem_nil,
      hp, fun _ hname => absurd hname List.not_mem_nil⟩⟩
  | cons stage steps ih =>
    obtain ⟨q, trace1, hstep, h⟩ := run_bind_ok h
    rw [Stage.step, hp] at hstep
    rw [List.flatMap_cons] at hnodup ⊢
    obtain ⟨-, hrest, hdisjoint⟩ := List.nodup_append.mp hnodup
    have hfresh : ∀ name ∈ stage.names, name ∉ steps.flatMap Stage.names := fun name hname hmem =>
      hdisjoint name hname name hmem rfl
    obtain ⟨hothers, hsubset, ⟨hpasses, hq, hrecorded⟩ | ⟨hfails, name, hname, hstopped, hfailed⟩⟩ :=
      Stage.run_ok hstep hp
    · obtain ⟨hothers', hsubset', hends⟩ := ih hrest h hq
      refine ⟨fun other hother => ?_, List.Subset.trans hsubset hsubset', ?_⟩
      · rw [List.mem_append, not_or] at hother
        rw [hothers' other hother.2, hothers other hother.1]
      · obtain ⟨hall, hp', hrecorded'⟩ | ⟨hnot, other, hother, hfailing⟩ := hends
        · refine .inl ⟨List.forall_mem_cons.mpr ⟨hpasses, hall⟩, hp', fun other hother => ?_⟩
          obtain hother | hother := List.mem_append.mp hother
          · exact (hrecorded other hother).later hsubset' (hothers' other (hfresh other hother))
          · exact hrecorded' other hother
        · exact .inr ⟨fun hall => hnot (List.forall_mem_cons.mp hall).2, other,
            List.mem_append_right _ hother, hfailing⟩
    · obtain ⟨hstopped', rfl, hothers'⟩ := sequence_stopped h hstopped
      refine ⟨fun other hother => ?_, hsubset, .inr ⟨fun hall => hfails
        (List.forall_mem_cons.mp hall).1, name, List.mem_append_left _ hname, hstopped', ?_⟩⟩
      · rw [List.mem_append, not_or] at hother
        rw [hothers' other hother.2, hothers other hother.1]
      · rw [hothers' name (hfresh name hname)]
        exact hfailed

/-- When every step is answered as it has to be, no check fails, the required ones pass, and they
were carried out if the patch check exits with code 0. Otherwise a check fails. -/
theorem runVerificationSequence_ok
    (h : runVerificationSequence w config trace = .ok (p', trace')) :
    trace ⊆ trace' ∧
      (((∀ stage : Stage, stage.Passes w config) ∧ ∀ name, Recorded w config trace' p' name) ∨
        (¬(∀ stage : Stage, stage.Passes w config) ∧
          ∃ name check, p'.checks name = some check ∧ check.status = .fail)) := by
  obtain ⟨-, hsubset, hends⟩ := sequence_ok (by decide) h rfl
  have hstages : ∀ stage : Stage, stage ∈ stages := fun stage => by cases stage <;> decide
  have hnames : ∀ name : CheckName, name ∈ stages.flatMap Stage.names := fun name => by
    cases name <;> decide
  refine ⟨hsubset, ?_⟩
  obtain ⟨hall, -, hrecorded⟩ | ⟨hnot, name, -, -, check, hcheck, hstatus⟩ := hends
  · exact .inl ⟨fun stage => hall stage (hstages stage), fun name => hrecorded name (hnames name)⟩
  · exact .inr ⟨fun hall => hnot fun stage _ => hall stage, name, check, hcheck, hstatus⟩

end DshOrbit.Upgrade
