import DshOrbit.Fleet.Outcomes

/-!
# Values without their credentials

What is left of a value, a job or a task when everything below a sensitive name is taken out
(`registry/fleet-scheduler.mjs`). A scrubbed snapshot shows no more of a job than this, and no
task of its execution reads more.

## Main definitions

- `mask` — a value with `null` under each sensitive name
- `Job.masked` — a job with its payload, its results and what its workers hold masked

## Main results

- `scrub_mask`, `snapshot_masked` — scrubbing sees only what is left
- `masked_act`, `masked_beginExecution` — the tasks of a job commute with masking
-/

namespace DshOrbit.Fleet

open DshOrbit.Lib

/-! ### Values -/

mutual

def mask : Json → Json
  | .arr items => .arr (maskItems items)
  | .obj fields => .obj (maskFields fields)
  | value => value

def maskItems : List Json → List Json
  | [] => []
  | item :: rest => mask item :: maskItems rest

def maskFields : List (String × Json) → List (String × Json)
  | [] => []
  | (name, value) :: rest =>
    (name, if isSensitiveKey name then .null else mask value) :: maskFields rest

end

mutual

/-- Scrubbing replaces what masking takes out. -/
theorem scrub_mask : (value : Json) →
    scrubSensitiveCredentials (mask value) = scrubSensitiveCredentials value
  | .null | .bool _ | .num _ | .str _ => rfl
  | .arr items => congrArg Json.arr (scrubItems_mask items)
  | .obj fields => congrArg Json.obj (scrubFields_mask fields)

theorem scrubItems_mask : (items : List Json) → scrubItems (maskItems items) = scrubItems items
  | [] => rfl
  | item :: rest => congrArg₂ List.cons (scrub_mask item) (scrubItems_mask rest)

theorem scrubFields_mask : (fields : List (String × Json)) →
    scrubFields (maskFields fields) = scrubFields fields
  | [] => rfl
  | (name, value) :: rest => by
    rw [maskFields, scrubFields, scrubFields, scrubFields_mask rest]
    by_cases hsensitive : isSensitiveKey name = true
    · rw [if_pos hsensitive, if_pos hsensitive]
    · rw [if_neg hsensitive, if_neg hsensitive, if_neg hsensitive, scrub_mask value]

end

mutual

/-- An object has no text, so none of its fields is in the text of a value. -/
theorem toText_mask : (value : Json) → (mask value).toText = value.toText
  | .null | .bool _ | .num _ | .str _ => rfl
  | .arr items => congrArg (String.intercalate ",") (joinTexts_mask items)
  | .obj _ => rfl

theorem joinTexts_mask : (items : List Json) → joinTexts (maskItems items) = joinTexts items
  | [] => rfl
  | item :: rest => by
    have hitem := toText_mask item
    have hrest := joinTexts_mask rest
    cases item <;> simp_all [maskItems, mask, joinTexts]

end

theorem maskFields_eq_map (fields : List (String × Json)) :
    maskFields fields = fields.map fun entry =>
      (entry.1, if isSensitiveKey entry.1 then .null else mask entry.2) := by
  induction fields with
  | nil => rfl
  | cons entry rest ih => rw [maskFields, List.map_cons, ih]

theorem maskItems_eq_map (items : List Json) : maskItems items = items.map mask := by
  induction items with
  | nil => rfl
  | cons item rest ih => rw [maskItems, List.map_cons, ih]

/-- A field with a plain name is masked like any other value. -/
theorem field_mask {name : String} (hplain : isSensitiveKey name = false) (value : Json) :
    (mask value).field name = (value.field name).map mask := by
  cases value with
  | obj fields =>
    rw [mask, Json.field, Json.field, maskFields_eq_map, ← List.map_reverse, List.find?_map,
      Option.map_map, Option.map_map]
    show Option.map _ (fields.reverse.find? fun entry => entry.1 == name) = _
    cases hfind : fields.reverse.find? fun entry => entry.1 == name with
    | none => rfl
    | some entry =>
      have hfound := List.find?_some hfind
      have hname : entry.1 = name := eq_of_beq hfound
      simp only [Option.map_some, Function.comp, hname, hplain, Bool.false_eq_true, if_false]
  | _ => rfl

theorem str?_mask (value : Json) : (mask value).str? = value.str? := by
  cases value <;> rfl

theorem bind_str?_mask (value : Option Json) :
    (value.map mask).bind Json.str? = value.bind Json.str? := by
  cases value with
  | none => rfl
  | some value => exact str?_mask value

theorem orElse_mask (value : Option Json) (text : String) :
    orElse (value.map mask) (.str text) = mask (orElse value (.str text)) := by
  match value with
  | none | some .null | some (.bool false) | some (.bool true) | some (.arr _) | some (.obj _) =>
    rfl
  | some (.num number) =>
    show (if number = 0 then Json.str text else .num number) =
      mask (if number = 0 then Json.str text else .num number)
    split_ifs <;> rfl
  | some (.str given) =>
    show (if given = "" then Json.str text else .str given) =
      mask (if given = "" then Json.str text else .str given)
    split_ifs <;> rfl

theorem mask_errorObject (code : Json) (message : Option Json) :
    mask (errorObject code message) = errorObject (mask code) (message.map mask) := by
  have hcode : isSensitiveKey "code" = false := by decide +kernel
  have hmessage : isSensitiveKey "message" = false := by decide +kernel
  cases message with
  | none => simp [errorObject, mask, maskFields, hcode]
  | some message => simp [errorObject, mask, maskFields, hcode, hmessage]

theorem ofValue_mask (value : Option Json) :
    NodeTaskStatus.ofValue (value.map mask) = .ofValue value := by
  match value with
  | none | some .null | some (.bool _) | some (.num _) | some (.str _) => rfl
  | some (.arr items) =>
    exact congrArg (fun text => NodeTaskStatus.other (some text)) (toText_mask (.arr items))
  | some (.obj _) => rfl

/-! ### Tasks and their results -/

def NodeTask.masked (task : NodeTask) : NodeTask :=
  { task with
    error := task.error.map mask
    exitCode := task.exitCode.map mask
    stdout := task.stdout.map mask
    stderr := task.stderr.map mask }

def DispatchResult.masked (result : DispatchResult) : DispatchResult where
  status := result.status.map mask
  exitCode := result.exitCode.map mask
  stdout := result.stdout.map mask
  stderr := result.stderr.map mask
  error := result.error.map mask

def Settlement.masked : Settlement → Settlement
  | .resolved result => .resolved result.masked
  | .rejected code message => .rejected (code.map mask) (message.map mask)
  | .resolvedNullish value => .resolvedNullish value
  | .rejectedNullish value => .rejectedNullish value

def Worker.masked : Worker → Worker
  | .settled nodeId outcome => .settled nodeId outcome.masked
  | worker => worker

@[simp]
theorem isEnded_masked (worker : Worker) : worker.masked.isEnded = worker.isEnded := by
  cases worker <;> rfl

namespace NodeTask

variable {now : ℤ} {task : NodeTask}

theorem masked_store (result : DispatchResult) :
    (task.store now result).masked = task.masked.store now result.masked := by
  simp only [store, conclude, masked, DispatchResult.masked, ofValue_mask, Option.map_or]

theorem masked_storeError (code message : Option Json) :
    (task.storeError now code message).masked =
      task.masked.storeError now (code.map mask) (message.map mask) := by
  simp only [storeError, conclude, masked, Option.map_some, mask_errorObject, orElse_mask]

theorem mask_jobCancelled (message : String) : mask (jobCancelled message) = jobCancelled message :=
  mask_errorObject _ _

theorem masked_drop : (task.drop now).masked = task.masked.drop now := by
  simp only [drop, masked, Option.map_some, mask_jobCancelled, Option.map_none]

theorem masked_skip (reason : String) :
    (task.skip now reason).masked = task.masked.skip now reason := rfl

theorem masked_start (now : ℤ) (task : NodeTask) :
    (task.start now).masked = task.masked.start now := rfl

theorem masked_conclude (status : NodeTaskStatus) :
    (task.conclude now status).masked = task.masked.conclude now status := rfl

theorem masked_cancel : (task.cancel now).masked = task.masked.cancel now := by
  simp only [cancel, masked, Option.map_some, mask_jobCancelled]

end NodeTask

/-! ### Jobs -/

/-- The targets stay as they are: snapshots show them unscrubbed. -/
def Job.masked (job : Job) : Job :=
  { job with
    payload := mask job.payload
    results := job.results.map NodeTask.masked
    workers := job.workers.map Worker.masked }

def Job.Action.masked : Job.Action → Job.Action
  | .settle nodeId outcome => .settle nodeId outcome.masked
  | action => action

theorem map_updateWhere_comm {Row Value : Type*} {p : Row → Bool} {q : Value → Bool}
    {f : Row → Row} {f' : Value → Value} {g : Row → Value} (hp : ∀ row, q (g row) = p row)
    (hf : ∀ row, g (f row) = f' (g row)) (rows : List Row) :
    (updateWhere p f rows).map g = updateWhere q f' (rows.map g) := by
  simp only [updateWhere, List.map_map]
  refine List.map_congr_left fun row _ => ?_
  simp only [Function.comp, hp]
  split_ifs
  · exact hf row
  · rfl

namespace Job

variable {job : Job} {settings : Settings} {now : ℤ}

theorem map_masked_updateWhere {p : NodeTask → Bool} {f g : NodeTask → NodeTask}
    (hp : ∀ task, p task.masked = p task) (h : ∀ task, (f task).masked = g task.masked)
    (results : List NodeTask) :
    (updateWhere p f results).map NodeTask.masked =
      updateWhere p g (results.map NodeTask.masked) :=
  map_updateWhere_comm hp h results

theorem masked_updateTask {f g : NodeTask → NodeTask} (h : ∀ task, (f task).masked = g task.masked)
    (nodeId : String) : (job.updateTask nodeId f).masked = job.masked.updateTask nodeId g := by
  have hresults := map_masked_updateWhere (p := fun task => task.nodeId = nodeId) (fun _ => rfl) h
    job.results
  simp only [updateTask, masked, hresults]

theorem masked_setWorker (i : ℕ) (worker : Worker) :
    (job.setWorker i worker).masked = job.masked.setWorker i worker.masked := by
  simp only [setWorker, masked, List.map_set]

theorem task_masked (nodeId : String) :
    job.masked.task nodeId = (job.task nodeId).map NodeTask.masked := by
  rw [task, task, masked, List.find?_map]
  rfl

theorem targets_masked : job.masked.targets = job.targets := by
  rw [targets, targets, masked, List.map_map]
  rfl

theorem payloadTimeoutMs_mask (payload : Json) :
    payloadTimeoutMs (mask payload) = payloadTimeoutMs payload := by
  rw [payloadTimeoutMs, payloadTimeoutMs, field_mask (by decide +kernel)]
  cases hfield : payload.field "timeoutMs" with
  | none => rfl
  | some value => cases value <;> rfl

theorem taskTimeoutMs_masked : job.masked.taskTimeoutMs settings = job.taskTimeoutMs settings := by
  have hpayload : payloadTimeoutMs job.masked.payload = payloadTimeoutMs job.payload :=
    payloadTimeoutMs_mask job.payload
  have htimeout : job.masked.timeoutMs = job.timeoutMs := rfl
  rw [taskTimeoutMs, taskTimeoutMs, htimeout, hpayload]

/-! ### The tasks of an execution -/

theorem masked_filterTarget (registry : Option NodeTable) (nodeId : String) :
    (job.filterTarget registry now nodeId).masked =
      job.masked.filterTarget registry now nodeId := by
  rw [filterTarget, filterTarget]
  show Job.masked (if job.aborted then _ else _) = if job.aborted then _ else _
  split_ifs
  · exact congrArg (fun job : Job => { job with summary.failed := job.summary.failed + 1 })
      (masked_updateTask (fun _ => NodeTask.masked_drop) nodeId)
  · have hrequired : job.masked.requiredCapabilities = job.requiredCapabilities := rfl
    rw [hrequired]
    cases skipReason registry job.requiredCapabilities nodeId with
    | none => rfl
    | some reason =>
      exact congrArg (fun job : Job => { job with summary.skipped := job.summary.skipped + 1 })
        (masked_updateTask (fun _ => NodeTask.masked_skip _) nodeId)

/-- The start of an execution reads nothing that masking takes out. -/
theorem masked_beginExecution (registry : Option NodeTable) :
    (job.beginExecution settings registry now).masked =
      job.masked.beginExecution settings registry now := by
  have hfold : ∀ (nodeIds : List String) (job : Job),
      (nodeIds.foldl (filterTarget registry now) job).masked =
        nodeIds.foldl (filterTarget registry now) job.masked := by
    intro nodeIds
    induction nodeIds with
    | nil =>
      intro job
      rfl
    | cons nodeId rest ih =>
      intro job
      rw [List.foldl_cons, List.foldl_cons, ih, masked_filterTarget]
  have hstaff : ∀ job : Job, (job.staff settings).masked = job.masked.staff settings := by
    intro job
    simp only [staff, masked, List.map_replicate, Worker.masked]
  rw [beginExecution, beginExecution, hstaff, filterTargets, filterTargets, hfold]
  show ((targets _).foldl _
    (Job.masked { job with status := .running, startedAt := some now })).staff settings = _
  rw [← targets_masked]
  rfl

theorem masked_startDispatch (i : ℕ) (nodeId : String) :
    (job.startDispatch settings now i nodeId).masked =
      job.masked.startDispatch settings now i nodeId := by
  have hresults := map_masked_updateWhere (p := fun task => task.nodeId = nodeId) (fun _ => rfl)
    (fun task => NodeTask.masked_start now task) job.results
  rw [startDispatch, startDispatch, taskTimeoutMs_masked]
  simp only [updateTask, masked, List.map_set, hresults, Worker.masked]

theorem getElem?_workers_masked (i : ℕ) :
    job.masked.workers[i]? = job.workers[i]?.map Worker.masked :=
  List.getElem?_map

theorem masked_advance (i : ℕ) :
    (job.advance settings now i).masked = job.masked.advance settings now i := by
  rw [advance, advance, getElem?_workers_masked]
  cases job.workers[i]? with
  | none => rfl
  | some worker =>
    cases worker with
    | ready =>
      have hqueue : job.masked.queue = job.queue := rfl
      dsimp only
      rw [hqueue]
      cases job.queue with
      | nil => exact masked_setWorker i .ended
      | cons nodeId rest =>
        show Job.masked (if job.aborted then _ else _) = if job.aborted then _ else _
        split_ifs
        · exact masked_setWorker i .ended
        · rw [task_masked]
          cases job.task nodeId with
          | none => exact masked_setWorker i .rejected
          | some task =>
            show Job.masked (if task.status = .failed then _ else _) =
              if task.status = .failed then _ else _
            split_ifs
            · rfl
            · exact masked_startDispatch i nodeId
    | _ => rfl

theorem masked_settle (nodeId : String) (outcome : Settlement) :
    (job.settle nodeId outcome).masked = job.masked.settle nodeId outcome.masked := by
  rw [settle, settle]
  show Job.masked (if job.calls.any _ then _ else _) = if job.calls.any _ then _ else _
  split_ifs
  · simp only [masked, List.map_map]
    congr 1
    refine List.map_congr_left fun worker _ => ?_
    cases worker with
    | dispatching other =>
      show Worker.masked (if other = nodeId then _ else _) = if other = nodeId then _ else _
      split_ifs <;> rfl
    | _ => rfl
  · rfl

theorem masked_timeoutResult (call : Call) : (timeoutResult call).masked = timeoutResult call := by
  simp only [timeoutResult, DispatchResult.masked, Option.map_some, Option.map_none,
    mask_errorObject]
  rfl

theorem masked_expire (i : ℕ) : (job.expire now i).masked = job.masked.expire now i := by
  rw [expire, expire, getElem?_workers_masked]
  cases job.workers[i]? with
  | none => rfl
  | some worker =>
    cases worker with
    | dispatching nodeId =>
      have hcalls : job.masked.calls = job.calls := rfl
      dsimp only [Option.map_some, Worker.masked]
      rw [hcalls]
      cases job.calls.find? fun call => call.nodeId = nodeId with
      | none => rfl
      | some call =>
        show Job.masked (if _ then _ else _) = if _ then _ else _
        split_ifs
        · rw [masked_setWorker, Worker.masked, Settlement.masked, masked_timeoutResult]
        · rfl
    | _ => rfl

theorem masked_recordFailure (nodeId : String) (code message : Option Json) :
    (job.recordFailure now nodeId code message).masked =
      job.masked.recordFailure now nodeId (code.map mask) (message.map mask) :=
  congrArg (fun job : Job => { job with summary.failed := job.summary.failed + 1 })
    (masked_updateTask (fun _ => NodeTask.masked_storeError code message) nodeId)

theorem masked_recordResult (nodeId : String) (result : DispatchResult) :
    (job.recordResult now nodeId result).masked =
      job.masked.recordResult now nodeId result.masked := by
  have htask := @masked_updateTask job _ _ (fun task => @NodeTask.masked_store now task result)
    nodeId
  rw [recordResult, recordResult, DispatchResult.masked, ofValue_mask]
  exact congrArg (fun updated : Job =>
    { updated with summary := job.summary.count (.ofValue result.status) }) htask

theorem masked_resume (i : ℕ) : (job.resume now i).masked = job.masked.resume now i := by
  rw [resume, resume, getElem?_workers_masked]
  cases job.workers[i]? with
  | none => rfl
  | some worker =>
    cases worker with
    | settled nodeId outcome =>
      dsimp only [Option.map_some, Worker.masked]
      rw [task_masked]
      cases job.task nodeId with
      | none => exact masked_setWorker i .rejected
      | some task =>
        show Job.masked (if job.aborted ∨ task.status = .failed then _ else _) =
          if job.aborted ∨ task.status = .failed then _ else _
        split_ifs
        · exact masked_setWorker i .ready
        · cases outcome with
          | resolved result =>
            exact (masked_setWorker i .ready).trans
              (congrArg (setWorker i .ready) (masked_recordResult nodeId result))
          | resolvedNullish value =>
            exact (masked_setWorker i .ready).trans
              (congrArg (setWorker i .ready) (masked_recordFailure nodeId none _))
          | rejected code message =>
            exact (masked_setWorker i .ready).trans
              (congrArg (setWorker i .ready) (masked_recordFailure nodeId code message))
          | rejectedNullish value =>
            exact (masked_setWorker i .rejected).trans
              (congrArg (setWorker i .rejected)
                (masked_updateTask (fun _ => NodeTask.masked_conclude .failed) nodeId))
    | _ => rfl

theorem allEnded_masked :
    job.masked.workers.all Worker.isEnded = job.workers.all Worker.isEnded := by
  show (job.workers.map Worker.masked).all Worker.isEnded = _
  rw [List.all_map]
  exact congrArg job.workers.all (funext isEnded_masked)

theorem length_results_masked : job.masked.results.length = job.results.length :=
  List.length_map _

theorem masked_finish : (job.finish now).masked = job.masked.finish now := by
  have hsummary : job.masked.summary = job.summary := rfl
  have hstatus : job.masked.terminalStatus = job.terminalStatus := rfl
  rw [finish, finish, allEnded_masked, length_results_masked, hsummary, hstatus]
  show Job.masked (if !job.finished && _ then _ else _) = if !job.finished && _ then _ else _
  split_ifs <;> rfl

theorem masked_cancel : (job.cancel now).masked = job.masked.cancel now := by
  rw [cancel, cancel]
  show Job.masked (if job.status.isTerminal then _ else _) = if job.status.isTerminal then _ else _
  split_ifs
  · rfl
  · have hresults := map_masked_updateWhere (p := fun task => task.status.isOpen) (fun _ => rfl)
      (fun _ => @NodeTask.masked_cancel now _) job.results
    have hcount : (job.results.map NodeTask.masked).countP (fun task => task.status.isOpen) =
        job.results.countP fun task => task.status.isOpen :=
      List.countP_map
    simp only [masked, hresults, hcount]

/-- The tasks of an execution read nothing that masking takes out. -/
theorem masked_act (action : Action) :
    (job.act settings now action).masked = job.masked.act settings now action.masked := by
  cases action with
  | advance i => exact masked_advance i
  | settle nodeId outcome => exact masked_settle nodeId outcome
  | expire i => exact masked_expire i
  | resume i => exact masked_resume i
  | finish => exact masked_finish
  | cancel => exact masked_cancel

end Job

/-! ### Snapshots -/

/-- What scrubbing makes of one field. -/
def scrubField (entry : String × Json) : List (String × Json) :=
  if entry.1 = "__proto__" then []
  else if isSensitiveKey entry.1 then [(entry.1, .str "[REDACTED]")]
  else [(entry.1, scrubSensitiveCredentials entry.2)]

theorem scrubFields_eq_flatMap (fields : List (String × Json)) :
    scrubFields fields = fields.flatMap scrubField := by
  induction fields with
  | nil => rfl
  | cons entry rest ih =>
    rw [scrubFields, List.flatMap_cons, scrubField, ih]
    split_ifs <;> rfl

theorem scrubField_congr (name : String) {value value' : Json}
    (h : scrubSensitiveCredentials value = scrubSensitiveCredentials value') :
    scrubField (name, value) = scrubField (name, value') := by
  rw [scrubField, scrubField]
  simp only [h]

theorem scrub_optionalField_mask (name : String) (value : Option Json) :
    (optionalField name (value.map mask)).flatMap scrubField =
      (optionalField name value).flatMap scrubField := by
  cases value with
  | none => rfl
  | some value =>
    simp only [optionalField, Option.map_some, Option.toList_some, List.flatMap_singleton]
    exact scrubField_congr name (scrub_mask value)

theorem scrub_toJson_masked (task : NodeTask) :
    scrubSensitiveCredentials task.masked.toJson = scrubSensitiveCredentials task.toJson := by
  simp only [NodeTask.toJson, NodeTask.masked, scrubSensitiveCredentials, scrubFields_eq_flatMap,
    List.flatMap_cons, List.flatMap_append, scrub_optionalField_mask]

theorem scrub_resultsJson_masked (results : List NodeTask) :
    scrubSensitiveCredentials (resultsJson (results.map NodeTask.masked)) =
      scrubSensitiveCredentials (resultsJson results) := by
  simp only [resultsJson, scrubSensitiveCredentials, scrubFields_eq_flatMap, List.map_map,
    List.flatMap_map]
  refine congrArg Json.obj (List.flatMap_congr fun task _ => ?_)
  exact scrubField_congr task.nodeId (scrub_toJson_masked task)

/-- A scrubbed snapshot shows nothing that masking takes out. -/
theorem snapshot_masked (job : Job) : job.masked.snapshot true = job.snapshot true := by
  show JobSnapshot.mk .. = JobSnapshot.mk ..
  rw [scrubbed, scrubbed, if_pos rfl, if_pos rfl, scrubbed, scrubbed, if_pos rfl, if_pos rfl]
  show JobSnapshot.mk _ _ (scrubSensitiveCredentials (mask job.payload)) _ _ _ _ _ _ _ _ _
    (scrubSensitiveCredentials (resultsJson (job.results.map NodeTask.masked))) = _
  rw [scrub_mask, scrub_resultsJson_masked]
  rfl

end DshOrbit.Fleet
