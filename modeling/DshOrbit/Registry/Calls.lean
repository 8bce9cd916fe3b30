import DshOrbit.Lib.Run
import DshOrbit.Registry.Maintenance
import DshOrbit.Registry.Nodes
import Mathlib.Data.Int.ConditionallyCompleteOrder

/-!
# Runs of the registry

The registry serves one call after the other: each is synchronous from its first
statement to its last. A refused call leaves the state as it was, but for the
nonce of a machine request that was authenticated before its operation failed.

## Main definitions

- `Call` — an operation with the clock readings and random values it gets
- `step` — the state after a call
- `Ordered` — no clock reading precedes one of an earlier call
-/

namespace DshOrbit.Registry

open DshOrbit.Lib DshOrbit.Protocol

/-- What an authenticated machine request asks for. An upgrade of a connection, and a
request over its rate, ask for nothing. -/
inductive Business
  | nothing
  | heartbeat (rawBody : Option Json)
  | uploadReport (rawBody : Option Json)
  | rotateCredential (rawBody : Option Json)

/-- A request that uses an enrollment token. -/
inductive TokenRequest
  | enroll (req : EnrollRequest)
  | pair (req : EnrollRequest)
  | reenroll (req : ReenrollRequest)

inductive Operation
  | mintEnrollmentToken (req : MintRequest)
  | useToken (req : TokenRequest)
  | machine (req : MachineRequest) (business : Business)
  | deleteNode (req : DeleteRequest)
  | setRouteTarget (actor nodeId : Option String) (routeTarget : Json)
  | setRouteMode (actor nodeId : Option String) (routeMode : Option RouteMode)
  | removeRouteTarget (actor nodeId : Option String)
  | rotateHubRouteKey (actor nodeId : Option String)
  | probeNode (nodeId : String)
  | recordProbeResult (nodeId : String) (answer : ProbeAnswer) (context : ProbeContext)
  | bootstrapSession (principal : String)
  | validateSession (sessionId : String)
  | endSession (sessionId actor : String)
  | recordAudit (actor action : String) (detail : Json)
  | maintenance
  | restart

structure Call where
  operation : Operation
  clock : Clock
  entropy : Entropy

/-! ### Steps -/

/-- The result of a token request, and the database after it. -/
def TokenRequest.submit (env : Env) (entropy : Entropy) (clock : Clock) (db : Db) :
    TokenRequest → Attempt (EnrollmentResult × Db)
  | .enroll req => Registry.enroll env entropy clock db req
  | .pair req => Registry.pair env entropy clock db req
  | .reenroll req => Registry.reenroll env entropy clock db req

/-- The database after the operation of an authenticated request. -/
def Business.perform (env : Env) (entropy : Entropy) (clock : Clock) (db : Db) (node : NodeRow)
    (key : NodeKeyRow) : Business → Attempt Db
  | .nothing => .ok db
  | .heartbeat rawBody => (heartbeatAuthenticated env entropy clock db node rawBody).map (·.2)
  | .uploadReport rawBody => (uploadReportAuthenticated env clock db node rawBody).map (·.2)
  | .rotateCredential rawBody =>
    (rotateCredentialAuthenticated env clock db node key rawBody).map (·.2)

/-- The database after an attempt that may have failed. -/
def commit (db : Db) : Attempt Db → Db
  | .ok db' => db'
  | .error _ => db

/-- A machine request: the nonce is reserved before the operation and stays reserved
whatever becomes of it. -/
def serveMachine (env : Env) (entropy : Entropy) (clock : Clock) (db : Db) (req : MachineRequest)
    (business : Business) : Db :=
  match authenticateMachine env clock db req with
  | .error _ => db
  | .ok (node, key, db) => commit db (business.perform env entropy clock db node key)

def commitState {α : Type} (s : RegistryState) : Attempt (α × RegistryState) → RegistryState
  | .ok (_, s') => s'
  | .error _ => s

def step (env : Env) (s : RegistryState) (call : Call) : RegistryState :=
  let now := call.clock
  match call.operation with
  | .mintEnrollmentToken req =>
    { s with db := commit s.db ((mintEnrollmentToken env call.entropy now s.db req).map (·.2)) }
  | .useToken req =>
    { s with db := commit s.db ((req.submit env call.entropy now s.db).map (·.2)) }
  | .machine req business =>
    { s with db := serveMachine env call.entropy now s.db req business }
  | .deleteNode req => commitState s (deleteNode now s req)
  | .setRouteTarget actor nodeId routeTarget =>
    commitState s (setRouteTarget env now s actor nodeId routeTarget)
  | .setRouteMode actor nodeId routeMode => commitState s (setRouteMode now s actor nodeId routeMode)
  | .removeRouteTarget actor nodeId => commitState s (removeRouteTarget now s actor nodeId)
  | .rotateHubRouteKey actor nodeId =>
    { s with
      db := commit s.db ((s.db.rotateHubRouteKey env call.entropy now actor nodeId).map (·.2)) }
  | .probeNode nodeId => (probeNode now s nodeId).2
  | .recordProbeResult nodeId answer context =>
    (recordProbeResult now s nodeId (probeVerdict nodeId answer).1 context).2
  | .bootstrapSession principal =>
    { s with db := commit s.db ((bootstrapSession call.entropy now s.db principal).map (·.2)) }
  | .validateSession sessionId => { s with db := (validateSession now s.db sessionId).2 }
  | .endSession sessionId actor => { s with db := (endSession now s.db sessionId actor).2 }
  | .recordAudit actor action detail =>
    { s with db := s.db.recordAudit (now 0) actor action detail }
  | .maintenance => { s with db := (maintenance env.config now s.db).2 }
  | .restart => ⟨(reconcileNodeCapabilities now s.db).1, []⟩

/-- The state after a list of calls. -/
def run (env : Env) (s : RegistryState) (calls : List Call) : RegistryState :=
  runFrom (step env) s calls

/-- The clock does not run backwards, within a call and from one to a later one. -/
def Ordered (calls : List Call) : Prop :=
  (∀ call ∈ calls, Monotone call.clock) ∧
    calls.Pairwise fun a b => ∀ m n, a.clock m ≤ b.clock n

theorem Ordered.left {xs ys : List Call} (h : Ordered (xs ++ ys)) : Ordered xs :=
  ⟨fun call hcall => h.1 call (List.mem_append_left ys hcall), (List.pairwise_append.mp h.2).1⟩

/-- No reading of a call precedes one of an earlier call. -/
theorem Ordered.le {xs ys : List Call} (h : Ordered (xs ++ ys)) {a b : Call} (ha : a ∈ xs)
    (hb : b ∈ ys) (m n : ℕ) : a.clock m ≤ b.clock n :=
  (List.pairwise_append.mp h.2).2.2 a ha b hb m n

theorem run_append (env : Env) (s : RegistryState) (xs ys : List Call) :
    run env s (xs ++ ys) = run env (run env s xs) ys :=
  runFrom_append (step env) s xs ys

/-! ### Sanitizers -/

/-- The operations whose input is sanitized. -/
def Operation.sanitizes : Operation → Bool
  | .machine _ (.uploadReport _) | .setRouteTarget .. => true
  | _ => false

/-- The sanitizers have no part in the other operations. -/
theorem step_sanitizers {env env' : Env} (hconfig : env.config = env'.config)
    (hcrypto : env.crypto = env'.crypto) (s : RegistryState) {call : Call}
    (h : call.operation.sanitizes = false) : step env s call = step env' s call := by
  obtain ⟨config, crypto, create, validate⟩ := env
  obtain ⟨config', crypto', create', validate'⟩ := env'
  obtain rfl : config = config' := hconfig
  obtain rfl : crypto = crypto' := hcrypto
  obtain ⟨operation, clock, entropy⟩ := call
  cases operation with
  | machine req business =>
    cases business with
    | uploadReport rawBody => cases h
    | _ => rfl
  | setRouteTarget => cases h
  | useToken req => cases req <;> rfl
  | _ => rfl

theorem run_sanitizers {env env' : Env} (hconfig : env.config = env'.config)
    (hcrypto : env.crypto = env'.crypto) (s : RegistryState) {calls : List Call}
    (h : ∀ call ∈ calls, call.operation.sanitizes = false) : run env s calls = run env' s calls := by
  induction calls generalizing s with
  | nil => rfl
  | cons call rest ih =>
    have hstep := step_sanitizers hconfig hcrypto s (h call List.mem_cons_self)
    exact (ih _ fun other hother => h other (List.mem_cons_of_mem call hother)).trans
      (congrArg (fun s => run env' s rest) hstep)

end DshOrbit.Registry
