import DshOrbit.Upgrade.Snapshot

/-!
# The binding of a candidate

Before a candidate is verified, the runner checks that it talks to the stack it means
(`upgrade-runner.mjs`): the resolved compose configuration is the one of the candidate, the running
container carries the token of this run, and the endpoint presents the certificate of this run.

## Main definitions

- `World` — what commands, pages and files answer
- `Run` — a computation that records what it does, and may throw
- `verifyResolvedComposeConfig`, `resolveCandidateBinding`, `probeCandidateToken`,
  `verifyGatewayIdentity` — the functions of those names

## Main results

- `resolveCandidateBinding_ok`, `probeCandidateToken_ok`, `verifyGatewayIdentity_ok` — what was
  verified when they do not throw
-/

namespace DshOrbit.Upgrade

open DshOrbit.Lib

/-! ### Commands and pages -/

structure Command where
  file : String
  args : List String
  env : List (String × String) := []
  deriving DecidableEq, Repr

/-- How a command ended: without a code if a signal ended it. -/
structure CommandResult where
  code : Option ℤ
  stdout : String
  stderr : String

/-- A fetched page; the body where it is a text. -/
structure Page where
  status : Option ℤ
  body : Option String

/-- `new URL(config.candidateEndpoint)`. -/
structure Endpoint where
  hostname : String
  port : String
  isIp : Bool
  deriving DecidableEq, Repr

/-- What a page is fetched for. -/
inductive PageUse
  | readiness
  | plugins
  | asset
  deriving DecidableEq, Repr

/-- What the runner does and is answered. -/
inductive Action
  | run (command : Command)
  | fetch (use : PageUse) (url : String)
  | tlsProbe (endpoint : Endpoint)
  deriving DecidableEq, Repr

/-- What happens around the runner: commands, pages (the same one may be answered differently when
it is fetched again), certificates, files, the snapshot hook, and the functions of the platform. -/
structure World where
  run : Command → Except String CommandResult
  fetch : PageUse → String → Except String Page
  tlsProbe : Endpoint → Except String (Option String)
  endpoint : Except String Endpoint
  writeFile : String → Except String Unit
  certificate : Except String String
  identityCa : Except String String
  hook : HookRun
  snapshotId : String
  candidateToken : String
  now : ℤ
  execPath : String
  script : String → String
  parseJson : String → Option Json

/-- A computation that records its actions and may throw. -/
abbrev Run := StateT (List Action) (Except String)

def perform {α : Type} (action : Action) (answer : Except String α) : Run α := fun trace =>
  answer.map fun a => (a, trace ++ [action])

/-- A computation that is no action, and may throw. -/
def attempt {α : Type} (answer : Except String α) : Run α := fun trace =>
  answer.map fun a => (a, trace)

def World.runCommand (w : World) (command : Command) : Run CommandResult :=
  perform (.run command) (w.run command)

def World.fetchPage (w : World) (use : PageUse) (url : String) : Run Page :=
  perform (.fetch use url) (w.fetch use url)

/-! ### Configuration -/

structure Config where
  dshVersion : String
  orbitRevision : String
  orbitVersion : String
  baselineImage : String
  baselineOrbitRevision : String
  baselineDshVersion : String
  candidateImage : String
  candidateDataRoot : String
  candidateWorkspaceRoot : String
  candidateHostPort : ℤ
  productionDataRoot : String
  candidateEndpoint : String
  publicHost : String
  basicUser : String
  basicPassword : String
  smokeOrigin : Option String
  sshPatchEnabled : Bool
  sessionId : String
  snapshotHook : String
  snapshotTimeoutSeconds : ℤ
  gatewayService : String
  gatewayCertTarget : String
  gatewayKeyTarget : String
  project : String
  composeService : Option String
  composeFile : String
  composeOverrideFile : Option String
  workdir : String

structure GatewayIdentity where
  certPath : String
  keyPath : String
  fingerprint : String

def candidateTokenEnv : String := "DSH_ORBIT_CANDIDATE_TOKEN"

variable (w : World) (config : Config)

/-- `composeService(config)`. -/
def Config.service : String := config.composeService.getD "dsh"

def composeArgs (subcommand : List String) : List String :=
  let overrideFile :=
    config.composeOverrideFile.getD (config.workdir ++ "/compose.override.yaml")
  ["compose", "-f", config.composeFile] ++
    (if overrideFile = "" then [] else ["-f", overrideFile]) ++ ["-p", config.project] ++ subcommand

/-- `text.split("\n")`. -/
def splitLines (text : String) : List String :=
  (text.toList.splitOn '\n').map String.ofList

/-- The first line that is not blank. -/
def failDetail (output fallback : String) : String :=
  ((splitLines (trim output)).find? fun line => trim line ≠ "").getD fallback

def codeText (code : Option ℤ) : String := (code.map toString).getD "null"

/-! ### The resolved configuration -/

def isNull : Json → Bool
  | .null => true
  | _ => false

/-- `value?.[name]`, where `null` counts as `undefined`. -/
def given (value : Json) (name : String) : Option Json :=
  (value.field name).filter fun found => !isNull found

/-- `Boolean(value)`. -/
def truthy : Option Json → Bool
  | none | some .null => false
  | some (.bool value) => value
  | some (.num value) => value ≠ 0
  | some (.str value) => value ≠ ""
  | some _ => true

/-- `String(value ?? "")`. -/
def textOf (value : Option Json) : Except String String :=
  match value with
  | none => .ok ""
  | some value =>
    if convertible value then .ok value.toText
    else .error "Cannot convert object to primitive value"

/-- The items of `value ?? []`, on which the method is called. -/
def itemsOf (value : Option Json) (call : String) : Except String (List Json) :=
  match value with
  | none => .ok []
  | some (.arr items) => .ok items
  | some _ => .error (call ++ " is not a function")

def resolvedPortOf (entry : Json) : Except String String := do
  let text ← textOf ((given entry "published").or (given entry "Published"))
  return String.ofList ((text.toList.splitOn ':').getLastD [])

def resolvedSourceOf (volume : Json) : Json :=
  ((given volume "source").or (given volume "Source")).getD (.str "")

def resolvedTargetOf (volume : Json) : Json :=
  ((given volume "target").or (given volume "Destination")).getD (.str "")

/-- The mount at a target. -/
def mountAt (volumes : List Json) (target : String) : Option Json :=
  volumes.find? fun volume => (resolvedTargetOf volume).str? = some target

/-- The safe integer that a text of digits denotes. -/
def safeInteger (digits : List Char) : Option ℕ :=
  let text := String.ofList digits
  if isDigits text ∧ ofDigits text ≤ 9007199254740991 then some (ofDigits text) else none

def parseUidGid (value : String) : Option (ℕ × ℕ) :=
  match value.toList.splitOn ':' with
  | [uid, gid] => do
    let uid ← safeInteger uid
    let gid ← safeInteger gid
    return (uid, gid)
  | _ => none

def isExplicitNonRootUser (value : String) : Bool :=
  (parseUidGid value).any fun ids => ids.1 ≠ 0

/-- The problem that a mount has, if it is not of its source. -/
def mountProblem (mount : Option Json) (source : String) (text : String → String) : List String :=
  if (mount.map resolvedSourceOf).bind Json.str? = some source then []
  else [text (stringifyText ((mount.map resolvedSourceOf).or (some .null)))]

/-- `(dsh.ports ?? []).find((entry) => String(entry?.target) === "9443")`. -/
def findPort : List Json → Except String (Option Json)
  | [] => .ok none
  | entry :: rest => do
    let target ←
      match entry.field "target" with
      | none => .ok "undefined"
      | some target => textOf (some target)
    if target = "9443" then return some entry else findPort rest

def portProblems (port : Option Json) : Except String (List String) :=
  match port with
  | none => .ok ["resolved configuration publishes no 9443 port"]
  | some port => do
    let publishedPort ← resolvedPortOf port
    let hostIp := (given port "host_ip").or (given port "HostIp")
    let hostText ← textOf hostIp
    let shown : Option Json := if truthy hostIp then hostIp else some (.str "all interfaces")
    return (if publishedPort = toString config.candidateHostPort then []
      else ["resolved published port " ++ quoteJson publishedPort ++
        " is not the candidate port " ++ quoteJson (toString config.candidateHostPort)]) ++
      (if hostText = "127.0.0.1" ∨ hostText = "::1" then []
      else ["resolved published port must bind to loopback (127.0.0.1 or ::1), got " ++
        stringifyText shown])

/-- The token that an environment sets; the value of an entry that is no text. -/
def tokenProblem (environment : Option Json) : List String :=
  let value := environment.bind (Json.field candidateTokenEnv)
  let tokenValue : Option Json :=
    match value with
    | some (.str text) => some (.str text)
    | _ => value.bind (Json.field "value")
  match tokenValue with
  | none | some (.str "") => ["resolved configuration does not set " ++ candidateTokenEnv]
  | some _ => []

def userProblem (service : String) (definition : Json) : Except String (List String) := do
  let user ← textOf (given definition "user")
  return if isExplicitNonRootUser user then []
    else ["resolved " ++ service ++ " service must use an explicit non-root uid:gid, got " ++
      stringifyText ((given definition "user").or (some .null))]

def gatewayProblems (resolved : Json) (gatewayIdentity : GatewayIdentity) :
    Except String (List String) :=
  match (given resolved "services").bind (Json.field config.gatewayService) with
  | none => .ok ["resolved configuration has no " ++ config.gatewayService ++ " service"]
  | some gateway =>
    if !truthy (some gateway) then
      .ok ["resolved configuration has no " ++ config.gatewayService ++ " service"]
    else do
      let user ← userProblem config.gatewayService gateway
      let volumes ← itemsOf (given gateway "volumes") "gatewayVolumes.find"
      let mount (target source : String) : List String :=
        mountProblem (mountAt volumes target) source fun found =>
          "resolved gateway mount " ++ found ++ " for " ++ target ++
            " is not the per-run identity file " ++ quoteJson source
      return user ++ mount config.gatewayCertTarget gatewayIdentity.certPath ++
        mount config.gatewayKeyTarget gatewayIdentity.keyPath

/-- The problems of the service that is verified. -/
def serviceProblems (dsh : Json) : Except String (List String) := do
  let user ← userProblem config.service dsh
  let volumes ← itemsOf (given dsh "volumes") "volumes.find"
  let ports ← itemsOf (given dsh "ports") "(dsh.ports ?? []).find"
  let port ← findPort ports
  let ofPort ← portProblems config port
  return (if (dsh.field "image").bind Json.str? = some config.candidateImage then []
    else ["resolved image " ++ stringifyText (dsh.field "image") ++
      " is not the candidate image " ++ config.candidateImage]) ++ user ++
    mountProblem (mountAt volumes "/data") config.candidateDataRoot (fun found =>
      "resolved /data mount " ++ found ++ " is not the candidate data root " ++
        quoteJson config.candidateDataRoot) ++
    mountProblem (mountAt volumes "/workspace") config.candidateWorkspaceRoot (fun found =>
      "resolved /workspace mount " ++ found ++ " is not the candidate workspace root " ++
        quoteJson config.candidateWorkspaceRoot) ++
    ofPort ++ tokenProblem (given dsh "environment")

def bindingError (problems : List String) : String :=
  "candidate compose binding verification failed: " ++ String.intercalate "; " problems

def verifyResolvedComposeConfig (resolved : Json) (gatewayIdentity : GatewayIdentity) :
    Except String Unit := do
  let name := if (resolved.field "name").bind Json.str? = some config.project then []
    else ["resolved project name " ++ stringifyText (resolved.field "name") ++ " is not " ++
      quoteJson config.project]
  let service := (given resolved "services").bind (Json.field config.service)
  if !truthy service then
    throw (bindingError (name ++
      ["resolved configuration has no " ++ config.service ++ " service"]))
  let ofService ← serviceProblems config (service.getD .null)
  let ofGateway ← gatewayProblems config resolved gatewayIdentity
  let problems := name ++ ofService ++ ofGateway
  if problems ≠ [] then throw (bindingError problems)

/-! ### The functions of the runner -/

/-- `docker compose config` of the base file alone. -/
def baseConfigCommand : Command :=
  ⟨"docker", ["compose", "-f", config.composeFile, "-p", config.project, "config", "--format",
    "json"], []⟩

def resolvedConfigCommand : Command :=
  ⟨"docker", composeArgs config ["config", "--format", "json"], []⟩

/-- The gateway of the base file mounts its certificates at the targets. -/
def checkBaseConfig (baseConfig : Json) : Except String Unit := do
  let gateway := (given baseConfig "services").bind (Json.field config.gatewayService)
  if !truthy gateway then
    throw ("the base compose file defines no " ++ config.gatewayService ++
      " service; the candidate gateway must exist to bind the endpoint identity")
  let volumes ← itemsOf (given (gateway.getD .null) "volumes") "gatewayVolumes.some"
  for target in [config.gatewayCertTarget, config.gatewayKeyTarget] do
    if (mountAt volumes target).isNone then
      throw ("the base " ++ config.gatewayService ++ " service mounts no certificate at " ++
        quoteJson target ++ "; set DSH_UPGRADE_GATEWAY_CERT_TARGET/" ++
        "DSH_UPGRADE_GATEWAY_KEY_TARGET to the certificate paths the gateway actually reads")

/-- `resolveCandidateBinding`: the user of the gateway. -/
def resolveCandidateBinding (gatewayIdentity : GatewayIdentity) : Run (Option Json) := do
  let base ← w.runCommand (baseConfigCommand config)
  if base.code ≠ some 0 then
    throw ("docker compose config failed for the base file: " ++
      failDetail base.stderr ("exit " ++ codeText base.code))
  let baseConfig ← attempt ((w.parseJson base.stdout).elim
    (.error "docker compose config did not return valid JSON for the base file") .ok)
  attempt (checkBaseConfig config baseConfig)
  let resolved ← w.runCommand (resolvedConfigCommand config)
  if resolved.code ≠ some 0 then
    throw ("docker compose config failed: " ++
      failDetail resolved.stderr ("exit " ++ codeText resolved.code))
  let parsed ← attempt ((w.parseJson resolved.stdout).elim
    (.error "docker compose config did not return valid JSON") .ok)
  attempt (verifyResolvedComposeConfig config parsed gatewayIdentity)
  return ((given parsed "services").bind (Json.field config.gatewayService)).bind (given · "user")

def tokenCommand : Command :=
  ⟨"docker", composeArgs config ["exec", "-T", config.service, "printenv", candidateTokenEnv], []⟩

def probeCandidateToken : Run Unit := do
  let probe ← w.runCommand (tokenCommand config)
  if probe.code ≠ some 0 ∨ trim probe.stdout ≠ w.candidateToken then
    throw ("candidate stack identity mismatch: the running " ++ config.service ++
      " container does not carry this run's candidate token")

def GatewayIdentity.paths (fingerprint : String) : GatewayIdentity :=
  ⟨config.workdir ++ "/gateway-identity-cert.pem", config.workdir ++ "/gateway-identity-key.pem",
    fingerprint⟩

def identityCommand (endpoint : Endpoint) : Command :=
  ⟨"openssl", ["req", "-x509", "-newkey", "rsa:2048", "-sha256", "-days", "2", "-nodes", "-keyout",
    config.workdir ++ "/gateway-identity-key.pem", "-out",
    config.workdir ++ "/gateway-identity-cert.pem", "-subj", "/CN=" ++ endpoint.hostname, "-addext",
    "subjectAltName=" ++ (if endpoint.isIp then "IP:" else "DNS:") ++ endpoint.hostname], []⟩

def generateGatewayIdentityCertificate : Run GatewayIdentity := do
  let endpoint ← attempt w.endpoint
  let generated ← w.runCommand (identityCommand config endpoint)
  if generated.code ≠ some 0 then
    throw ("could not generate the per-run gateway identity certificate " ++
      "(openssl must be available in the runner environment): " ++
      failDetail generated.stderr ("exit " ++ codeText generated.code))
  let fingerprint ← attempt w.certificate
  return GatewayIdentity.paths config fingerprint

def verifyGatewayIdentity (identity : GatewayIdentity) : Run Unit := do
  let endpoint ← attempt w.endpoint
  let presented ← perform (.tlsProbe endpoint) (w.tlsProbe endpoint)
  if presented ≠ some identity.fingerprint then
    throw ("candidate endpoint identity mismatch: " ++ config.candidateEndpoint ++
      " does not present this run's candidate gateway certificate (presented fingerprint: " ++
      (presented.map quoteJson).getD "null" ++ ", expected: " ++ quoteJson identity.fingerprint ++
      ")")

/-! ### What is known when they do not throw -/

section Runs

variable {w : World} {config : Config} {α β : Type} {trace trace' trace'' : List Action}

theorem run_bind_ok {x : Run α} {f : α → Run β} {b : β}
    (h : (x >>= f) trace = .ok (b, trace'')) :
    ∃ a trace', x trace = .ok (a, trace') ∧ f a trace' = .ok (b, trace'') := by
  obtain ⟨⟨a, trace'⟩, hx, hf⟩ := bind_eq_ok.mp h
  exact ⟨a, trace', hx, hf⟩

theorem perform_ok {action : Action} {answer : Except String α} {a : α}
    (h : perform action answer trace = .ok (a, trace')) :
    answer = .ok a ∧ trace' = trace ++ [action] := by
  obtain ⟨a', ha, h⟩ := map_eq_ok.mp h
  obtain ⟨rfl, rfl⟩ := Prod.mk.inj h
  exact ⟨ha, rfl⟩

theorem attempt_ok {answer : Except String α} {a : α}
    (h : attempt answer trace = .ok (a, trace')) : answer = .ok a ∧ trace = trace' := by
  obtain ⟨a', ha, h⟩ := map_eq_ok.mp h
  obtain ⟨rfl, rfl⟩ := Prod.mk.inj h
  exact ⟨ha, rfl⟩

theorem pure_ok {a b : α} (h : (pure a : Run α) trace = .ok (b, trace')) : a = b ∧ trace = trace' :=
  Prod.mk.inj (Except.ok.inj h)

/-- A computation that throws unless a condition holds. -/
theorem unless_throw_ok {p : Prop} [Decidable p] {message : String} {f : Unit → Run β} {b : β}
    (h : (if p then (throw message : Run Unit) >>= f else f ()) trace = .ok (b, trace')) :
    ¬p ∧ f () trace = .ok (b, trace') := by
  by_cases hp : p
  · rw [if_pos hp] at h
    cases h
  · rw [if_neg hp] at h
    exact ⟨hp, h⟩

/-- The command was run, and exited with code 0. -/
def Exited (w : World) (trace : List Action) (command : Command) : Prop :=
  .run command ∈ trace ∧ ∃ result, w.run command = .ok result ∧ result.code = some 0

theorem Exited.later {command : Command} (h : Exited w trace command)
    (hle : trace ⊆ trace') : Exited w trace' command := ⟨hle h.1, h.2⟩

/-- The resolved configuration of the candidate was verified. -/
structure BindingVerified (w : World) (config : Config) (identity : GatewayIdentity)
    (trace : List Action) : Prop where
  base : Exited w trace (baseConfigCommand config)
  resolved : Exited w trace (resolvedConfigCommand config)
  verified : ∃ result parsed, w.run (resolvedConfigCommand config) = .ok result ∧
    w.parseJson result.stdout = some parsed ∧
    verifyResolvedComposeConfig config parsed identity = .ok ()

theorem elim_ok {parsed : Option Json} {message : String} {value : Json}
    (h : parsed.elim (.error message) Except.ok = .ok value) : parsed = some value := by
  cases parsed with
  | none => cases h
  | some found => exact congrArg some (Except.ok.inj h)

theorem resolveCandidateBinding_ok {identity : GatewayIdentity} {user : Option Json}
    (h : resolveCandidateBinding w config identity trace = .ok (user, trace')) :
    trace ⊆ trace' ∧ BindingVerified w config identity trace' := by
  obtain ⟨base, trace1, hbase, h⟩ := run_bind_ok h
  obtain ⟨hbaseRun, rfl⟩ := perform_ok hbase
  obtain ⟨hbaseCode, h⟩ := unless_throw_ok h
  obtain ⟨baseConfig, trace1, hparse, h⟩ := run_bind_ok h
  obtain ⟨-, rfl⟩ := attempt_ok hparse
  obtain ⟨_, trace1, hchecked, h⟩ := run_bind_ok h
  obtain ⟨-, rfl⟩ := attempt_ok hchecked
  obtain ⟨resolved, trace1, hresolved, h⟩ := run_bind_ok h
  obtain ⟨hresolvedRun, rfl⟩ := perform_ok hresolved
  obtain ⟨hresolvedCode, h⟩ := unless_throw_ok h
  obtain ⟨parsed, trace1, hparse', h⟩ := run_bind_ok h
  obtain ⟨hparsed, rfl⟩ := attempt_ok hparse'
  obtain ⟨_, trace1, hverified, h⟩ := run_bind_ok h
  obtain ⟨hverifiedOk, rfl⟩ := attempt_ok hverified
  obtain ⟨-, rfl⟩ := pure_ok h
  refine ⟨fun action haction => by simp [haction], ?_, ?_, ?_⟩
  · exact ⟨by simp, base, hbaseRun, not_not.mp hbaseCode⟩
  · exact ⟨by simp, resolved, hresolvedRun, not_not.mp hresolvedCode⟩
  · exact ⟨resolved, parsed, hresolvedRun, elim_ok hparsed, hverifiedOk⟩

/-- The running container carried the token of this run. -/
structure TokenVerified (w : World) (config : Config) (trace : List Action) : Prop where
  exited : Exited w trace (tokenCommand config)
  carried : ∃ result, w.run (tokenCommand config) = .ok result ∧
    trim result.stdout = w.candidateToken

theorem probeCandidateToken_ok {u : Unit}
    (h : probeCandidateToken w config trace = .ok (u, trace')) :
    trace ⊆ trace' ∧ TokenVerified w config trace' := by
  obtain ⟨probe, trace1, hprobe, h⟩ := run_bind_ok h
  obtain ⟨hrun, rfl⟩ := perform_ok hprobe
  split_ifs at h with hbad
  · cases h
  · obtain ⟨-, rfl⟩ := pure_ok h
    rw [not_or, not_not, not_not] at hbad
    exact ⟨List.subset_append_left _ _, ⟨by simp, probe, hrun, hbad.1⟩, probe, hrun, hbad.2⟩

/-- The endpoint presented the certificate of this run. -/
def IdentityVerified (w : World) (identity : GatewayIdentity) (trace : List Action) : Prop :=
  ∃ endpoint, w.endpoint = .ok endpoint ∧ .tlsProbe endpoint ∈ trace ∧
    w.tlsProbe endpoint = .ok (some identity.fingerprint)

theorem verifyGatewayIdentity_ok {identity : GatewayIdentity} {u : Unit}
    (h : verifyGatewayIdentity w config identity trace = .ok (u, trace')) :
    trace ⊆ trace' ∧ IdentityVerified w identity trace' := by
  obtain ⟨endpoint, trace1, hendpoint, h⟩ := run_bind_ok h
  obtain ⟨hparsed, rfl⟩ := attempt_ok hendpoint
  obtain ⟨presented, trace1, hprobe, h⟩ := run_bind_ok h
  obtain ⟨hanswer, rfl⟩ := perform_ok hprobe
  split_ifs at h with hother
  · cases h
  · obtain ⟨-, rfl⟩ := pure_ok h
    rw [not_not] at hother
    exact ⟨List.subset_append_left _ _, endpoint, hparsed, by simp, hother ▸ hanswer⟩

theorem generateGatewayIdentityCertificate_ok {identity : GatewayIdentity}
    (h : generateGatewayIdentityCertificate w config trace = .ok (identity, trace')) :
    trace ⊆ trace' ∧ ∃ fingerprint, w.certificate = .ok fingerprint ∧
      identity = GatewayIdentity.paths config fingerprint := by
  obtain ⟨endpoint, trace1, hendpoint, h⟩ := run_bind_ok h
  obtain ⟨-, rfl⟩ := attempt_ok hendpoint
  obtain ⟨generated, trace1, hgenerated, h⟩ := run_bind_ok h
  obtain ⟨-, rfl⟩ := perform_ok hgenerated
  obtain ⟨-, h⟩ := unless_throw_ok h
  obtain ⟨fingerprint, trace1, hcertificate, h⟩ := run_bind_ok h
  obtain ⟨hfingerprint, rfl⟩ := attempt_ok hcertificate
  obtain ⟨rfl, rfl⟩ := pure_ok h
  exact ⟨List.subset_append_left _ _, fingerprint, hfingerprint, rfl⟩

end Runs

end DshOrbit.Upgrade
