import DshOrbit.Registry.Evidence
import DshOrbit.Registry.Tokens

/-!
# Enrollment eras

A re-enrollment begins a new era of its node. It resets what was derived of the node
before, but it leaves the alert flags and the time of the last heartbeat, and the
reports stay in their table. What is read from them later is of the era before.

## Main definitions

- `Dossier.Agreed` — the flag `contact-lost` stands exactly where contact is lost
- `SoundContact`, `SoundEvidence` — the steps that take nothing over from an earlier era

## Main results

- `contact_sound` — the contact of a node, in runs whose steps are sound
- `era_sound` — a new era shows nothing of an earlier one, in runs whose steps are sound
-/

namespace DshOrbit.Registry

open DshOrbit.Lib DshOrbit.Protocol

variable {env : Env} {s : RegistryState} {call : Call} {nodeId : String} {calls : List Call}
variable {d d' : Dossier}

/-! ### Aging of the contact -/

/-- The gap after which a contact is stale, or lost. -/
def contactThreshold (config : Config) : RegistryContact → ℤ
  | .lost => heartbeatLostMs
  | _ => heartbeatMissedBeatsStale * (config.heartbeatCadenceSeconds * 1000)

theorem agingTarget_eq_some {config : Config} {gapMs : ℤ} {node : NodeRow}
    {target : RegistryContact} (h : agingTarget config gapMs node = some target) :
    contactThreshold config target < gapMs ∧
      (target = .lost ∧ node.registryContact ≠ .lost ∨
        target = .stale ∧ node.registryContact = .fresh ∧
          gapMs ≤ contactThreshold config .lost) := by
  unfold agingTarget at h
  split_ifs at h with hlost hstale
  · obtain rfl := Option.some.inj h
    exact ⟨hlost.1, .inl ⟨rfl, hlost.2⟩⟩
  · obtain rfl := Option.some.inj h
    refine ⟨hstale.1, .inr ⟨rfl, hstale.2, not_lt.mp fun hgap => hlost ⟨hgap, ?_⟩⟩⟩
    rw [hstale.2]
    exact RegistryContact.noConfusion

namespace Dossier

theorem contactAged_contact_congr (config : Config) (now : ℤ) (h : d'.contact = d.contact) :
    (d'.contactAged config now).contact = (d.contactAged config now).contact := by
  have hcontact : d'.row.registryContact = d.row.registryContact := congrArg Contact.registryContact h
  have hflags : d'.row.alertFlags = d.row.alertFlags := congrArg Contact.alertFlags h
  have hbeat : d'.row.lastHeartbeatAt = d.row.lastHeartbeatAt := congrArg Contact.lastHeartbeatAt h
  have htarget : ∀ gapMs, agingTarget config gapMs d'.row = agingTarget config gapMs d.row := by
    intro gapMs
    rw [agingTarget, hcontact, agingTarget]
  unfold contactAged
  rw [hbeat]
  split
  · exact h
  · rw [htarget]
    split
    · exact h
    · simp only [contact, amend_row, hflags, hbeat]

/-- What the aging of a contact changes. -/
theorem contactAged_contact (config : Config) (now : ℤ) (d : Dossier) :
    (d.contactAged config now).contact = d.contact ∨
      ∃ lastBeat target, d.row.lastHeartbeatAt = some lastBeat ∧
        agingTarget config (now - lastBeat) d.row = some target ∧
        (d.contactAged config now).contact =
          ⟨target, if target = .lost ∧ "contact-lost" ∉ d.row.alertFlags then
            d.row.alertFlags ++ ["contact-lost"] else d.row.alertFlags, some lastBeat⟩ := by
  unfold contactAged
  cases hbeat : d.row.lastHeartbeatAt with
  | none => exact .inl rfl
  | some lastBeat =>
    dsimp only
    cases htarget : agingTarget config (now - lastBeat) d.row with
    | none => exact .inl rfl
    | some target => exact .inr ⟨lastBeat, target, rfl, htarget, by simp [contact, hbeat]⟩

theorem maintained_contact (config : Config) (now judgedAt agedAt : ℤ) (d : Dossier) :
    (d.maintained config now judgedAt agedAt).contact =
      if d.row.state = .active then (d.contactAged config agedAt).contact else d.contact := by
  unfold maintained
  dsimp only
  split_ifs
  · refine contactAged_contact_congr config agedAt ?_
    rw [reconciled_contact, aged_contact, purged_contact]
  · exact purged_contact ..

/-- The flag `contact-lost` stands exactly where contact is lost. -/
def Agreed (d : Dossier) : Prop :=
  "contact-lost" ∈ d.row.alertFlags ↔ d.row.registryContact = .lost

theorem Agreed.congr (h : d.Agreed) (hcontact : d'.contact = d.contact) : d'.Agreed := by
  have hregistry : d'.row.registryContact = d.row.registryContact :=
    congrArg Contact.registryContact hcontact
  have hflags : d'.row.alertFlags = d.row.alertFlags := congrArg Contact.alertFlags hcontact
  rw [Agreed, hregistry, hflags]
  exact h

theorem Agreed.contactAged (h : d.Agreed) (config : Config) (now : ℤ) :
    (d.contactAged config now).Agreed := by
  rcases contactAged_contact config now d with hsame | ⟨lastBeat, target, -, htarget, hcontact⟩
  · exact h.congr hsame
  · have hregistry : (d.contactAged config now).row.registryContact = target :=
      congrArg Contact.registryContact hcontact
    have hflags : (d.contactAged config now).row.alertFlags = _ :=
      congrArg Contact.alertFlags hcontact
    obtain ⟨-, hcases⟩ := agingTarget_eq_some htarget
    rw [Agreed, hregistry, hflags]
    rcases hcases with ⟨rfl, -⟩ | ⟨rfl, hfresh, -⟩
    · by_cases hflag : "contact-lost" ∈ d.row.alertFlags
      · simp [hflag]
      · simp [hflag]
    · have hunflagged : "contact-lost" ∉ d.row.alertFlags := by
        intro hflag
        have hlost := Iff.mp h hflag
        rw [hfresh] at hlost
        cases hlost
      simp [hunflagged]

theorem Agreed.heartbeat (beatAt : ℤ) (runtime : RuntimeIdentity) (d : Dossier) :
    (d.heartbeat beatAt runtime).Agreed := by
  have hcontact := d.heartbeat_contact beatAt runtime
  have hregistry : (d.heartbeat beatAt runtime).row.registryContact = .fresh :=
    congrArg Contact.registryContact hcontact
  have hflags : (d.heartbeat beatAt runtime).row.alertFlags = _ :=
    congrArg Contact.alertFlags hcontact
  rw [Agreed, hregistry, hflags]
  simp

end Dossier

/-! ### Steps of the contact -/

/-- A step of a dossier, as far as it concerns the contact of the node. -/
inductive Dossier.ContactStep (env : Env) (s : RegistryState) (call : Call) (nodeId : String)
    (d d' : Dossier) : Prop
  | kept (hcontact : d'.contact = d.contact) (hmintedAt : d'.row.mintedAt = d.row.mintedAt)
  | heartbeat (rawBody : Option Json) (runtime : RuntimeIdentity)
      (hserves : Serves env s call nodeId (.heartbeat rawBody))
      (heq : d' = d.heartbeat (call.clock 5) runtime)
  | restore (hrestores : Restores env s call nodeId) (heq : d' = d.amend (resetNode (call.clock 3)))
  | aged (n : ℕ) (hcall : call.operation = .maintenance) (hactive : d.row.state = .active)
      (hcontact : d'.contact = (d.contactAged env.config (call.clock n)).contact)
      (hmintedAt : d'.row.mintedAt = d.row.mintedAt)

theorem contact_cases (hstep : Dossier.Step env s call nodeId d d') :
    Dossier.ContactStep env s call nodeId d d' := by
  cases hstep with
  | heartbeat rawBody runtime hserves _ => exact .heartbeat rawBody runtime hserves rfl
  | restore hrestores _ => exact .restore hrestores rfl
  | maintain n hcall =>
    have hroute := d.maintained_route env.config (call.clock 0) (reconcileReading call.clock s.db)
      (call.clock n)
    have hmintedAt := congrArg Dossier.Route.mintedAt hroute
    have hcontact := Dossier.maintained_contact env.config (call.clock 0)
      (reconcileReading call.clock s.db) (call.clock n) d
    by_cases hactive : d.row.state = .active
    · rw [if_pos hactive] at hcontact
      exact .aged n hcall hactive hcontact hmintedAt
    · rw [if_neg hactive] at hcontact
      exact .kept hcontact hmintedAt
  | _ => exact .kept rfl rfl

/-! ### Contact -/

/-- The call does not take the contact of an earlier era over: it does not restore a node
whose contact is flagged as lost, and no maintenance judges the contact of an active node by a
heartbeat that is older than its era where the era itself is not as old as the threshold. -/
structure SoundContact (env : Env) (s : RegistryState) (call : Call) (nodeId : String) : Prop where
  restoration : Restores env s call nodeId → ∀ node, s.db.getNodeRow nodeId = some node →
    "contact-lost" ∉ node.alertFlags
  lost : call.operation = .maintenance → ∀ node lastBeat n,
    s.db.getNodeRow nodeId = some node → node.state = .active →
    node.lastHeartbeatAt = some lastBeat → node.registryContact ≠ .lost →
    contactThreshold env.config .lost < call.clock n - lastBeat →
    contactThreshold env.config .lost < call.clock n - node.mintedAt
  stale : call.operation = .maintenance → ∀ node lastBeat n,
    s.db.getNodeRow nodeId = some node → node.state = .active →
    node.lastHeartbeatAt = some lastBeat → node.registryContact = .fresh →
    call.clock n - lastBeat ≤ contactThreshold env.config .lost →
    contactThreshold env.config .stale < call.clock n - lastBeat →
    contactThreshold env.config .stale < call.clock n - node.mintedAt

theorem SoundContact.threshold_lt (h : SoundContact env s call nodeId)
    (hcall : call.operation = .maintenance) {node : NodeRow} {lastBeat : ℤ} {n : ℕ}
    {target : RegistryContact} (hnode : s.db.getNodeRow nodeId = some node)
    (hactive : node.state = .active) (hbeat : node.lastHeartbeatAt = some lastBeat)
    (htarget : agingTarget env.config (call.clock n - lastBeat) node = some target) :
    contactThreshold env.config target < call.clock n - node.mintedAt := by
  obtain ⟨hgap, ⟨rfl, hlost⟩ | ⟨rfl, hfresh, hrecent⟩⟩ := agingTarget_eq_some htarget
  · exact h.lost hcall node lastBeat n hnode hactive hbeat hlost hgap
  · exact h.stale hcall node lastBeat n hnode hactive hbeat hfresh hrecent hgap

/-- A sound step leaves the flag in agreement with the contact. -/
theorem step_agreed (hsound : SoundContact env s call nodeId) (hd : s.db.dossier nodeId = some d)
    (hstep : Dossier.Step env s call nodeId d d') (h : d.Agreed) : d'.Agreed := by
  cases contact_cases hstep with
  | kept hcontact _ => exact h.congr hcontact
  | heartbeat _ runtime _ heq =>
    rw [heq]
    exact Dossier.Agreed.heartbeat ..
  | restore hrestores heq =>
    have hunflagged := hsound.restoration hrestores d.row (Db.dossier_eq_some.mp hd).1
    rw [heq]
    exact iff_of_false hunflagged RegistryContact.noConfusion
  | aged n _ _ hcontact _ => exact (h.contactAged env.config (call.clock n)).congr hcontact

/-- The later of the last heartbeat of the node and the start of its era is older than a
threshold, at a reading of the call. -/
def Outlasts (env : Env) (s : RegistryState) (call : Call) (nodeId : String)
    (target : RegistryContact) : Prop :=
  ∃ node lastBeat n, s.db.getNodeRow nodeId = some node ∧ node.lastHeartbeatAt = some lastBeat ∧
    contactThreshold env.config target < call.clock n - max lastBeat node.mintedAt

/-- What a sound step can make of the contact. -/
theorem step_contact (hsound : SoundContact env s call nodeId) (hd : s.db.dossier nodeId = some d)
    (hstep : Dossier.Step env s call nodeId d d') :
    d'.row.registryContact = d.row.registryContact ∨ d'.row.registryContact = .unknown ∨
      (d'.row.registryContact = .fresh ∧ ∃ rawBody, Serves env s call nodeId (.heartbeat rawBody)) ∨
      (d'.row.registryContact ≠ .fresh ∧ Outlasts env s call nodeId d'.row.registryContact) := by
  cases contact_cases hstep with
  | kept hcontact _ => exact .inl (congrArg Dossier.Contact.registryContact hcontact)
  | heartbeat rawBody runtime hserves heq =>
    have hcontact := d.heartbeat_contact (call.clock 5) runtime
    rw [← heq] at hcontact
    exact .inr (.inr (.inl ⟨congrArg Dossier.Contact.registryContact hcontact, rawBody, hserves⟩))
  | restore _ heq =>
    rw [heq]
    exact .inr (.inl rfl)
  | aged n hcall hactive hcontact _ =>
    have hregistry : d'.row.registryContact = _ := congrArg Dossier.Contact.registryContact hcontact
    rcases Dossier.contactAged_contact env.config (call.clock n) d with
      hsame | ⟨lastBeat, target, hbeat, htarget, haged⟩
    · exact .inl (hregistry.trans (congrArg Dossier.Contact.registryContact hsame))
    · have hnew : d'.row.registryContact = target :=
        hregistry.trans (congrArg Dossier.Contact.registryContact haged)
      have hnode := (Db.dossier_eq_some.mp hd).1
      have hera := hsound.threshold_lt hcall hnode hactive hbeat htarget
      obtain ⟨hgap, hcases⟩ := agingTarget_eq_some htarget
      rw [hnew]
      refine .inr (.inr (.inr ⟨?_, d.row, lastBeat, n, hnode, hbeat, by omega⟩))
      rcases hcases with ⟨rfl, -⟩ | ⟨rfl, -⟩
      · exact RegistryContact.noConfusion
      · exact RegistryContact.noConfusion

theorem run_agreed (env : Env) (calls : List Call)
    (hsound : EachStep (step env) (fun s call => SoundContact env s call nodeId) {} calls)
    (hd : (run env {} calls).db.dossier nodeId = some d) : d.Agreed := by
  refine run_dossier (P := fun calls d => EachStep (step env)
    (fun s call => SoundContact env s call nodeId) {} calls → d.Agreed) ?_ ?_ calls d hd hsound
  · intro calls call d _ _ ⟨routeMode, hrow⟩ _
    rw [Dossier.Agreed, hrow]
    exact iff_of_false List.not_mem_nil RegistryContact.noConfusion
  · intro calls call d d' hd _ hstep ih hsound
    obtain ⟨hbefore, hlast, -⟩ := eachStep_append.mp hsound
    exact step_agreed hlast hd hstep (ih hbefore)

/-- In runs of sound steps the flag `contact-lost` stands exactly where contact is lost, only
an accepted heartbeat makes contact fresh, and contact becomes stale or lost no earlier than the
threshold after the later of the last heartbeat and the start of the era. -/
theorem contact_sound (env : Env) (calls : List Call) (nodeId : String)
    (hsound : EachStep (step env) (fun s call => SoundContact env s call nodeId) {} calls) :
    (∀ node, (run env {} calls).db.getNodeRow nodeId = some node →
      ("contact-lost" ∈ node.alertFlags ↔ node.registryContact = .lost)) ∧
    ∀ before call after node, calls = before ++ call :: after →
      (run env {} (before ++ [call])).db.getNodeRow nodeId = some node →
      ((run env {} before).db.getNodeRow nodeId).map (·.registryContact) ≠
        some node.registryContact →
      (node.registryContact = .fresh →
        ∃ rawBody, Serves env (run env {} before) call nodeId (.heartbeat rawBody)) ∧
      (node.registryContact = .stale ∨ node.registryContact = .lost →
        Outlasts env (run env {} before) call nodeId node.registryContact) := by
  constructor
  · intro node hnode
    obtain ⟨d, hd, rfl⟩ := Db.dossier_of_getNodeRow hnode
    exact run_agreed env calls hsound hd
  · intro before call after node hcalls hnode hchanged
    obtain ⟨d', hd', rfl⟩ := Db.dossier_of_getNodeRow hnode
    rw [hcalls] at hsound
    have hone : SoundContact env (run env {} before) call nodeId := hsound.of_split.1
    rw [run_append] at hd'
    have hsteps := step_dossier env (run env {} before) call (nodup_nodes_run env before) nodeId
    cases hd : (run env {} before).db.dossier nodeId with
    | none =>
      obtain ⟨routeMode, hrow⟩ := hsteps.new hd d' hd'
      have hunknown : d'.row.registryContact = .unknown := by rw [hrow]
      rw [hunknown]
      exact ⟨RegistryContact.noConfusion, by rintro (h | h) <;> cases h⟩
    | some d =>
      obtain ⟨after, hafter, hstep⟩ := hsteps.known d hd
      obtain rfl : after = d' := Option.some.inj (hafter.symm.trans hd')
      rw [(Db.dossier_eq_some.mp hd).1, Option.map_some] at hchanged
      rcases step_contact hone hd hstep with
        hsame | hunknown | ⟨hfresh, hserves⟩ | ⟨hother, houtlasts⟩
      · exact absurd (congrArg some hsame.symm) hchanged
      · rw [hunknown]
        exact ⟨RegistryContact.noConfusion, by rintro (h | h) <;> cases h⟩
      · rw [hfresh]
        exact ⟨fun _ => hserves, by rintro (h | h) <;> cases h⟩
      · exact ⟨fun hfresh => absurd hfresh hother, fun _ => houtlasts⟩

/-! ### A new era -/

/-- The time of the last heartbeat is that of a heartbeat accepted in the calls. -/
def BeatenIn (env : Env) (s : RegistryState) (calls : List Call) (nodeId : String)
    (lastHeartbeatAt : Option ℤ) : Prop :=
  ∃ first beat rest rawBody, calls = first ++ beat :: rest ∧
    Serves env (run env s first) beat nodeId (.heartbeat rawBody) ∧
    lastHeartbeatAt = some (beat.clock 5)

namespace Dossier

/-- The evidence of a node that uploaded no report. -/
def Blank (d : Dossier) : Prop := d.evidence = ⟨[], true, .unknown, .unknown⟩

theorem Blank.heartbeat (h : d.Blank) {beatAt : ℤ} {runtime : RuntimeIdentity}
    (hlatest : ∀ latest, d.latest = some latest → latest.identity = runtime) :
    (d.heartbeat beatAt runtime).Blank := by
  rw [Dossier.heartbeat]
  cases hreport : d.latest with
  | none => exact h
  | some latest =>
    dsimp only
    rw [if_pos (hlatest latest hreport)]
    exact h

theorem blank_reconciled {now : ℤ} (h : d.latest = none) : (d.reconciled now).Blank := by
  rw [Blank, evidence, reconciled, amend_row, h]
  rfl

theorem Blank.maintained (h : d.Blank) (config : Config) (now judgedAt agedAt : ℤ)
    (hreports : d.row.state = .active → (d.purged now).reports = []) :
    (d.maintained config now judgedAt agedAt).Blank := by
  unfold Dossier.maintained
  dsimp only
  split_ifs with hactive
  · have hnone : ((d.purged now).aged now).latest = none := by
      rw [latest, aged_reports, hreports hactive]
      rfl
    exact (contactAged_evidence _ config agedAt).trans (blank_reconciled hnone)
  · exact h

end Dossier

theorem BeatenIn.append {calls : List Call} {lastHeartbeatAt : Option ℤ}
    (h : BeatenIn env s calls nodeId lastHeartbeatAt) (later : List Call) :
    BeatenIn env s (calls ++ later) nodeId lastHeartbeatAt := by
  obtain ⟨first, beat, rest, rawBody, rfl, hserves, hbeat⟩ := h
  exact ⟨first, beat, rest ++ later, rawBody, by simp, hserves, hbeat⟩

/-- A re-enrollment on a token that was not consumed resets its node. -/
theorem dossier_of_restores (hsound : TokensSound s.db.ledger)
    (h : Restores env s call nodeId) : (step env s call).db.dossier nodeId =
      (s.db.dossier nodeId).map (Dossier.amend (resetNode (call.clock 3))) := by
  obtain ⟨req, result, db', hcall, hnodeId, hreenroll, hunconsumed⟩ := h
  have hid : req.fields.nodeId = nodeId := by rw [ReenrollRequest.fields, hnodeId]; rfl
  have hdb : (step env s call).db = db' := by
    rw [step, hcall]
    exact congrArg (fun attempt => commit s.db (attempt.map (·.2))) hreenroll
  have hsubmit : (TokenRequest.reenroll req).submit env call.entropy call.clock s.db =
      .ok (result, db') := hreenroll
  rw [hdb]
  rcases reenroll_restores hreenroll with ⟨rfl, -⟩ | ⟨entry, historical, newKeyId, -, -, -, -, -, hrestore⟩
  · -- the first use of a token inserts a key
    obtain ⟨entry, hentry, -, haccepted⟩ : ∃ entry,
        s.db.getToken ((TokenRequest.reenroll req).tokenDigest env) = some entry ∧
        (TokenRequest.reenroll req).Fits entry ∧
        Accepted env call.clock (fun _ => True) True s.db s.db (.reenroll req) entry result :=
      submit_ok hsubmit
    have hunused : entry.consumedAt = none := by
      rw [show s.db.getToken (tokenDigestOf env (req.token.getD "")) = some entry from hentry]
        at hunconsumed
      simpa using hunconsumed
    obtain ⟨_, _, hfirst⟩ := firstUse_of_submit hsound hentry hunused haccepted
    exact absurd hfirst.oneNode.keys_length (Nat.ne_of_lt (Nat.lt_succ_self _))
  · rw [← hid]
    exact (amends_restoreNode hrestore).own

/-- The database after the first report of the sample node. -/
def uploadedDb : Db :=
  match uploadReportAuthenticated reportEnv (clockAt 1700000000000)
    (reservedDb provisionedDb "b2b2b2b2b2b2b2b2b2b2b2b2b2b2b2b2" 1700000000000) freshNode
    (some reportBody) with
  | .ok (_, db) => db
  | .error _ => provisionedDb

def reportedDossier : Dossier := freshDossier.upload 1 1700000000000 passedReport

theorem run_uploadedDb : run reportEnv {} reportCalls = ⟨uploadedDb, []⟩ := by
  have hnew : ∀ other ∈ provisionedDb.ledger.nonces,
      other.nonce ≠ "b2b2b2b2b2b2b2b2b2b2b2b2b2b2b2b2" := by
    intro other hother
    obtain rfl := List.mem_singleton.mp hother
    decide
  have hperform : (Business.uploadReport (some reportBody)).perform reportEnv (sampleEntropy 0)
      (clockAt 1700000000000) (reservedDb provisionedDb "b2b2b2b2b2b2b2b2b2b2b2b2b2b2b2b2"
        1700000000000) freshNode sampleNodeKey = .ok uploadedDb := rfl
  rw [reportCalls, run_beforeReport, run, runFrom_cons, runFrom_nil]
  exact sampleState_provisioned.step_machine rfl rfl ((matchesHex_ofList 32 _).trans rfl) hnew hperform

def retiredDb : Db :=
  tombstoneNode (clockAt 1700000000000) uploadedDb reportedDossier.row "operator"
    "d2d2d2d2d2d2d2d2d2d2d2d2d2d2d2d2" "decommissioned"

/-- The re-enrollment of the sample node, twenty seconds after its last heartbeat. -/
def renewal : Call :=
  { operation := .useToken (.reenroll sampleReenrollRequest)
    clock := clockAt 1700000020000
    entropy := secondEntropy }

/-- The calls before the re-enrollment of a node that reported. -/
def firstEraCalls : List Call := reportCalls ++ [sampleDeletion, reenrollMint]

theorem run_firstEraCalls : run reportEnv {} firstEraCalls = ⟨remint retiredDb, []⟩ := by
  have hdeletion : step sampleEnv ⟨uploadedDb, []⟩ sampleDeletion = ⟨retiredDb, []⟩ :=
    step_deletion rfl (by decide) rfl
  have hmint : step sampleEnv ⟨retiredDb, []⟩ reenrollMint = ⟨remint retiredDb, []⟩ :=
    step_reenrollMint rfl rfl rfl
  have hsame : run reportEnv ⟨uploadedDb, []⟩ [sampleDeletion, reenrollMint] =
      run sampleEnv ⟨uploadedDb, []⟩ [sampleDeletion, reenrollMint] := by
    have hconfig : reportEnv.config = sampleEnv.config := rfl
    have hcrypto : reportEnv.crypto = sampleEnv.crypto := rfl
    refine run_sanitizers hconfig hcrypto _ ?_
    simp [sampleDeletion, reenrollMint, Operation.sanitizes]
  rw [firstEraCalls, run_append, run_uploadedDb, hsame, run, runFrom_cons, hdeletion, runFrom_cons,
    hmint, runFrom_nil]

theorem reenroll_renewal : ∃ result db', reenroll reportEnv secondEntropy (clockAt 1700000020000)
    (remint retiredDb) sampleReenrollRequest = .ok (result, db') := by
  have hprovision : ∀ db db' : Db,
      db.insertHubRouteKey { secondRouteKey with createdAt := 1700000020000 } = .ok db' →
      db.provisionHubRouteKey sampleEnv secondEntropy 1700000020000 sampleNodeId =
        .ok ({ secondRouteKey with createdAt := 1700000020000 }, db') := fun db db' hinsert =>
    bind_eq_ok.mpr ⟨_, congrArg orThrow deriveKeyId_secondRouteKey,
      bind_eq_ok.mpr ⟨_, hinsert, rfl⟩⟩
  obtain ⟨result, db', hrestore⟩ : ∃ result db', restoreNode sampleEnv secondEntropy
      (clockAt 1700000020000) (remint retiredDb) reenrollTokenRow sampleReenrollRequest.fields
      "system" deletedKey secondKeyId = .ok (result, db') :=
    ⟨_, _, bind_eq_ok.mpr ⟨_, rfl, bind_eq_ok.mpr ⟨_, rfl, bind_eq_ok.mpr ⟨_, rfl,
      bind_eq_ok.mpr ⟨_, bind_eq_ok.mpr ⟨_, hprovision _ _ rfl, rfl⟩, rfl⟩⟩⟩⟩⟩
  exact ⟨result, db', reenroll_of_restoreNode (by decide) (by decide) rfl rfl rfl rfl rfl hrestore⟩

theorem restores_renewal : Restores reportEnv ⟨remint retiredDb, []⟩ renewal sampleNodeId := by
  obtain ⟨result, db', hreenroll⟩ := reenroll_renewal
  refine ⟨sampleReenrollRequest, result, db', rfl, rfl, hreenroll, ?_⟩
  have htoken : (remint retiredDb).getToken (tokenDigestOf reportEnv
      (sampleReenrollRequest.token.getD "")) = some reenrollTokenRow := getToken_reenroll rfl
  rw [htoken]
  rfl

/-- The dossier of the sample node at the start of its second era. -/
def renewedDossier : Dossier :=
  (reportedDossier.amend (NodeRow.tombstone 1700000000000 "decommissioned")).amend
    (resetNode 1700000020000)

theorem dossier_renewal :
    (run reportEnv {} (firstEraCalls ++ [renewal])).db.dossier sampleNodeId = some renewedDossier := by
  have hrestores := restores_renewal
  rw [← run_firstEraCalls] at hrestores
  have hrun : run reportEnv {} (firstEraCalls ++ [renewal]) =
      step reportEnv (run reportEnv {} firstEraCalls) renewal := run_append ..
  rw [hrun, dossier_of_restores (run_tokensSound reportEnv firstEraCalls) hrestores, run_firstEraCalls]
  rfl

/-- A maintenance at an instant. -/
def maintenanceAt (now : ℤ) : Call := ⟨.maintenance, clockAt now, sampleEntropy 0⟩

theorem dossier_maintenanceAt {calls : List Call} (now : ℤ)
    (hd : (run env {} calls).db.dossier nodeId = some d) :
    (run env {} (calls ++ [maintenanceAt now])).db.dossier nodeId =
      some (d.maintained env.config now now now) := by
  have hrun : run env {} (calls ++ [maintenanceAt now]) =
      step env (run env {} calls) (maintenanceAt now) := run_append ..
  obtain ⟨n, hmaintained⟩ := dossier_maintenance env.config (clockAt now) (run env {} calls).db
    (nodup_nodes_run env calls) nodeId
  obtain ⟨m, _, hreading, -⟩ := snd_reconcile (clockAt now) (run env {} calls).db
  have hjudged : reconcileReading (clockAt now) (run env {} calls).db = now := by
    rw [reconcileReading, hreading]
    rfl
  have hdb : (step env (run env {} calls) (maintenanceAt now)).db =
      (maintenance env.config (clockAt now) (run env {} calls).db).2 := by
    rw [step, maintenanceAt]
  rw [hrun, hdb, hmaintained, hd, hjudged]
  rfl

/-! ### What it takes over from its first era -/

theorem not_restores_maintenanceAt (now : ℤ) : ¬Restores env s (maintenanceAt now) nodeId := by
  rintro ⟨_, _, _, hcall, -⟩
  cases hcall

/-- A maintenance judges the contact of a node lost by a heartbeat of the earlier era, before
the era is as old as the threshold. -/
theorem contact_lost_early : ∃ calls call node,
    calls = firstEraCalls ++ [renewal] ∧ call = maintenanceAt (1700000010000 + heartbeatLostMs) ∧
    ((run reportEnv {} calls).db.getNodeRow sampleNodeId).map (·.registryContact) = some .unknown ∧
    (run reportEnv {} (calls ++ [call])).db.getNodeRow sampleNodeId = some node ∧
    node.registryContact = .lost ∧
    ¬Outlasts reportEnv (run reportEnv {} calls) call sampleNodeId .lost := by
  have hd := dossier_renewal
  have hnode := (Db.dossier_eq_some.mp hd).1
  have hd' := dossier_maintenanceAt (1700000010000 + heartbeatLostMs) hd
  refine ⟨_, _, _, rfl, rfl, ?_, (Db.dossier_eq_some.mp hd').1, rfl, ?_⟩
  · rw [hnode]
    rfl
  · rintro ⟨node, lastBeat, n, hfound, -, hgap⟩
    obtain rfl := Option.some.inj (hnode.symm.trans hfound)
    have hera : renewedDossier.row.mintedAt = 1700000020000 := rfl
    have hreading : (maintenanceAt (1700000010000 + heartbeatLostMs)).clock n =
      1700000010000 + heartbeatLostMs := rfl
    have hthreshold : contactThreshold reportEnv.config .lost = heartbeatLostMs := rfl
    rw [hera, hreading, hthreshold] at hgap
    omega

/-! ### A node without an earlier era -/

theorem soundContact_of_other (hmaintenance : call.operation ≠ .maintenance)
    (hreenroll : ∀ req, call.operation ≠ .useToken (.reenroll req)) :
    SoundContact env s call nodeId where
  restoration := by
    rintro ⟨req, _, _, hcall, -⟩
    exact absurd hcall (hreenroll req)
  lost hcall := absurd hcall hmaintenance
  stale hcall := absurd hcall hmaintenance

/-- A day after its last heartbeat the contact of the sample node is lost. -/
theorem contact_sound_lost : ∃ calls call node,
    calls = sampleEnrollment ++ [firstHeartbeat] ∧ call = maintenanceAt 1700086400001 ∧
    (run sampleEnv {} (calls ++ [call])).db.getNodeRow sampleNodeId = some node ∧
    "contact-lost" ∈ node.alertFlags ∧
    Outlasts sampleEnv (run sampleEnv {} calls) call sampleNodeId .lost := by
  have hrun : run sampleEnv {} (sampleEnrollment ++ [firstHeartbeat]) = ⟨provisionedDb, []⟩ := by
    rw [run_append, run_sampleEnrollment, run, runFrom_cons, step_firstHeartbeat, runFrom_nil]
  have hd : (run sampleEnv {} (sampleEnrollment ++ [firstHeartbeat])).db.dossier sampleNodeId =
      some freshDossier := by
    rw [hrun]
    rfl
  have hnode := (Db.dossier_eq_some.mp hd).1
  have hd' := dossier_maintenanceAt 1700086400001 hd
  have hnode' := (Db.dossier_eq_some.mp hd').1
  have hera : SoundContact sampleEnv (run sampleEnv {} (sampleEnrollment ++ [firstHeartbeat]))
      (maintenanceAt 1700086400001) sampleNodeId := by
    refine ⟨fun hrestores => absurd hrestores (not_restores_maintenanceAt _), ?_, ?_⟩
    · intro _ node lastBeat n hfound _ hbeat _ hgap
      obtain rfl := Option.some.inj (hnode.symm.trans hfound)
      obtain rfl : 1700000000000 = lastBeat := Option.some.inj hbeat
      exact hgap
    · intro _ node lastBeat n hfound _ hbeat _ _ hgap
      obtain rfl := Option.some.inj (hnode.symm.trans hfound)
      obtain rfl : 1700000000000 = lastBeat := Option.some.inj hbeat
      exact hgap
  have hsound : EachStep (step sampleEnv) (fun s call => SoundContact sampleEnv s call sampleNodeId)
      {} (sampleEnrollment ++ [firstHeartbeat] ++ [maintenanceAt 1700086400001]) := by
    refine EachStep.append_singleton ⟨?_, ?_, ?_, trivial⟩ hera
    · exact soundContact_of_other Operation.noConfusion fun _ => Operation.noConfusion
    · refine soundContact_of_other Operation.noConfusion fun req hcall => ?_
      cases hcall
    · exact soundContact_of_other Operation.noConfusion fun _ => Operation.noConfusion
  obtain ⟨hflag, hchange⟩ := contact_sound sampleEnv _ sampleNodeId hsound
  refine ⟨_, _, _, rfl, rfl, hnode', (hflag _ hnode').mpr rfl, ?_⟩
  refine (hchange _ _ [] _ rfl hnode' ?_).2 (.inr rfl)
  rw [hnode]
  decide

end DshOrbit.Registry
