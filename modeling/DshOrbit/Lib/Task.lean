import Mathlib.Logic.Relation
import DshOrbit.Lib.Run

/-!
# Tasks of a client

A client runs one task at a time: it reads its store, replaces it, and asks a
server. It may stop at every point, for good or until it starts another task; a
request may get lost, or its answer; and others use the server in between.

## Main definitions

- `Task` — a program of the client
- `System`, `Event`, `System.step` — the client and its server, and what happens to them
- `Rely` — what the client counts on, and what it owes
- `Task.Safe` — a task that keeps an invariant under all interference

## Main results

- `Task.Safe.bind`, `Task.Safe.imp`, `Task.Safe.later`
- `Task.safe_store_bind` — a task that reads its store
- `System.Holds.step`, `System.Holds.persists`, `System.Holds.asks`
-/

namespace DshOrbit.Lib

/-! ### Tasks -/

/-- A program over a store of type `Store`. A request is answered with a value of its own
type; an exception ends the program. -/
inductive Task (Store Req : Type) (Ans : Req → Type) (α : Type)
  | done (value : α)
  | fail (message : String)
  | load (next : Store → Task Store Req Ans α)
  | persist (candidate : Store) (next : Task Store Req Ans α)
  | ask (req : Req) (next : Ans req → Task Store Req Ans α)

variable {Server Store Req Act Input Op α β : Type} {Ans : Req → Type}

namespace Task

def bind (t : Task Store Req Ans α) (f : α → Task Store Req Ans β) : Task Store Req Ans β :=
  match t with
  | done value => f value
  | fail message => fail message
  | load next => load fun s => (next s).bind f
  | persist candidate next => persist candidate (next.bind f)
  | ask req next => ask req fun answer => (next answer).bind f

instance : Monad (Task Store Req Ans) where
  pure := done
  bind := bind

/-- The store of the client. -/
def store : Task Store Req Ans Store := load done

def write (candidate : Store) : Task Store Req Ans Unit := persist candidate (done ())

def request (req : Req) : Task Store Req Ans (Ans req) := ask req done

end Task

/-! ### The client and its server -/

/-- A server: what others do with it, and how it serves and answers a request. -/
structure Service (Server Req Act Input : Type) (Ans : Req → Type) where
  act : Server → Act → Server
  serve : Server → Req → Input → Server
  reply : Server → (req : Req) → Input → Ans req

structure System (Server Store Req : Type) (Ans : Req → Type) where
  server : Server
  store : Store
  task : Option (Task Store Req Ans Unit) := none

/-- What happens: somebody else uses the server; the client begins an operation, goes one step
on, or stops; its request is served, and the answer arrives or something else comes in its
place; or the request is not served at all. -/
inductive Event (Req Act Input Op : Type) (Ans : Req → Type)
  | act (act : Act)
  | begin (op : Op)
  | advance
  | serve (input : Input)
  | serveUnheard (input : Input) (answer : (req : Req) → Ans req)
  | unserved (answer : (req : Req) → Ans req)
  | crash

namespace System

variable (service : Service Server Req Act Input Ans) (program : Op → Task Store Req Ans Unit)

/-- A step of the client on its own. -/
def advance (w : System Server Store Req Ans) : System Server Store Req Ans :=
  match w.task with
  | some (.load next) => { w with task := some (next w.store) }
  | some (.persist candidate next) => { w with store := candidate, task := some next }
  | some (.ask ..) => w
  | _ => { w with task := none }

/-- The request that the client waits for is served, and `answer` is what it hears. -/
def exchange (w : System Server Store Req Ans) (input : Input)
    (answer : (req : Req) → Ans req → Ans req) : System Server Store Req Ans :=
  match w.task with
  | some (.ask req next) =>
    { w with
      server := service.serve w.server req input
      task := some (next (answer req (service.reply w.server req input))) }
  | _ => w

def step (w : System Server Store Req Ans) :
    Event Req Act Input Op Ans → System Server Store Req Ans
  | .act act => { w with server := service.act w.server act }
  | .begin op => if w.task.isSome then w else { w with task := some (program op) }
  | .advance => w.advance
  | .serve input => w.exchange service input fun _ reply => reply
  | .serveUnheard input answer => w.exchange service input fun req _ => answer req
  | .unserved answer =>
    match w.task with
    | some (.ask req next) => { w with task := some (next (answer req)) }
    | _ => w
  | .crash => { w with task := none }

/-- The system after a list of events. -/
def run (w : System Server Store Req Ans) (events : List (Event Req Act Input Op Ans)) :
    System Server Store Req Ans :=
  runFrom (step service program) w events

/-- The request that the client waits for. -/
def Waits (w : System Server Store Req Ans) (req : Req) : Prop :=
  ∃ next, w.task = some (.ask req next)

/-- The event writes the store. -/
def Persists (w : System Server Store Req Ans) (event : Event Req Act Input Op Ans)
    (candidate : Store) : Prop :=
  (∃ next, w.task = some (.persist candidate next)) ∧ event matches .advance

end System

/-! ### Interference -/

/-- What the client counts on: an invariant of server and store, what others may do, which
operations begin, how the server serves its requests and which answers it hears, and which
answers do not come from the server. What it owes: of every store that it writes, and of
every request. -/
structure Rely (Server Store Req Act Input Op : Type) (Ans : Req → Type) where
  inv : Server → Store → Prop
  acts : Server → Store → Act → Prop
  begins : Server → Store → Op → Prop
  serves : Server → Store → Req → Input → Prop
  hears : Server → Store → Req → Input → Prop
  missing : (req : Req) → Ans req → Prop
  persists : Server → Store → Store → Prop
  asks : Server → Store → Req → Prop

variable (service : Service Server Req Act Input Ans)
  (rely : Rely Server Store Req Act Input Op Ans)

/-- The servers that others may have made of this one. -/
def Rely.Later (s : Store) : Server → Server → Prop :=
  Relation.ReflTransGen fun h h' => ∃ act, rely.acts h s act ∧ h' = service.act h act

namespace Task

/-- The task keeps the invariant, owes nothing, and ends in `Q`. -/
def Safe (Q : α → Server → Store → Prop) : Task Store Req Ans α → Server → Store → Prop
  | done value, h, s => ∀ h', rely.Later service s h h' → rely.inv h' s → Q value h' s
  | fail _, _, _ => True
  | load next, h, s => (next s).Safe Q h s
  | persist candidate next, h, s => ∀ h', rely.Later service s h h' → rely.inv h' s →
      rely.persists h' s candidate ∧ rely.inv h' candidate ∧ next.Safe Q h' candidate
  | ask req next, h, s => ∀ h', rely.Later service s h h' → rely.inv h' s →
      rely.asks h' s req ∧ (∀ answer, rely.missing req answer → (next answer).Safe Q h' s) ∧
      ∀ input, rely.serves h' s req input →
        rely.inv (service.serve h' req input) s ∧
        (rely.hears h' s req input →
          (next (service.reply h' req input)).Safe Q (service.serve h' req input) s) ∧
        ∀ answer, rely.missing req answer → (next answer).Safe Q (service.serve h' req input) s

variable {service rely} {Q : α → Server → Store → Prop} {t : Task Store Req Ans α} {h h' : Server}
  {s : Store}

/-- What others do does not make a task unsafe. -/
theorem Safe.later (ht : t.Safe service rely Q h s) (hlater : rely.Later service s h h') :
    t.Safe service rely Q h' s := by
  induction t with
  | done value =>
    intro h'' hlater'
    exact ht h'' (hlater.trans hlater')
  | fail message => trivial
  | load next ih => exact ih s ht
  | persist candidate next ih =>
    intro h'' hlater'
    exact ht h'' (hlater.trans hlater')
  | ask req next ih =>
    intro h'' hlater'
    exact ht h'' (hlater.trans hlater')

/-- A task in two parts is safe if the second part is wherever the first one ends. -/
theorem Safe.bind {P : α → Server → Store → Prop} {Q : β → Server → Store → Prop}
    {f : α → Task Store Req Ans β} (ht : t.Safe service rely P h s) (hinv : rely.inv h s)
    (hf : ∀ value h' s', rely.inv h' s' → P value h' s' → (f value).Safe service rely Q h' s') :
    (t.bind f).Safe service rely Q h s := by
  induction t generalizing h s with
  | done value => exact hf value h s hinv (ht h .refl hinv)
  | fail message => trivial
  | load next ih => exact ih s ht hinv
  | persist candidate next ih =>
    intro h' hlater hinv'
    obtain ⟨howed, hinv', hnext⟩ := ht h' hlater hinv'
    exact ⟨howed, hinv', ih hnext hinv'⟩
  | ask req next ih =>
    intro h' hlater hinv'
    obtain ⟨howed, hmissing, hserved⟩ := ht h' hlater hinv'
    refine ⟨howed, fun answer hanswer => ih answer (hmissing answer hanswer) hinv', ?_⟩
    intro input hinput
    obtain ⟨hinv', hheard, hunheard⟩ := hserved input hinput
    exact ⟨hinv', fun hhears => ih _ (hheard hhears) hinv',
      fun answer hanswer => ih answer (hunheard answer hanswer) hinv'⟩

/-- A task may be said to end in less. -/
theorem Safe.imp {P : α → Server → Store → Prop} (ht : t.Safe service rely P h s)
    (himp : ∀ value h' s', rely.inv h' s' → P value h' s' → Q value h' s') :
    t.Safe service rely Q h s := by
  induction t generalizing h s with
  | done value =>
    intro h' hlater hinv'
    exact himp value h' s hinv' (ht h' hlater hinv')
  | fail message => trivial
  | load next ih => exact ih s ht
  | persist candidate next ih =>
    intro h' hlater hinv'
    obtain ⟨howed, hinv', hnext⟩ := ht h' hlater hinv'
    exact ⟨howed, hinv', ih hnext⟩
  | ask req next ih =>
    intro h' hlater hinv'
    obtain ⟨howed, hmissing, hserved⟩ := ht h' hlater hinv'
    refine ⟨howed, fun answer hanswer => ih answer (hmissing answer hanswer), ?_⟩
    intro input hinput
    obtain ⟨hinv', hheard, hunheard⟩ := hserved input hinput
    exact ⟨hinv', fun hhears => ih _ (hheard hhears),
      fun answer hanswer => ih answer (hunheard answer hanswer)⟩

@[simp]
theorem safe_store_bind {f : Store → Task Store Req Ans α} :
    (store >>= f).Safe service rely Q h s ↔ (f s).Safe service rely Q h s := Iff.rfl

end Task

/-! ### Runs -/

namespace System

/-- The event is one that the client counts on. -/
def Admits (w : System Server Store Req Ans) : Event Req Act Input Op Ans → Prop
  | .act act => rely.acts w.server w.store act
  | .begin op => rely.begins w.server w.store op
  | .serve input => ∀ req, w.Waits req →
      rely.serves w.server w.store req input ∧ rely.hears w.server w.store req input
  | .serveUnheard input answer => ∀ req, w.Waits req →
      rely.serves w.server w.store req input ∧ rely.missing req (answer req)
  | .unserved answer => ∀ req, w.Waits req → rely.missing req (answer req)
  | _ => True

/-- The invariant holds, and what is left of the task keeps it. -/
structure Holds (w : System Server Store Req Ans) : Prop where
  inv : rely.inv w.server w.store
  safe : ∀ t, w.task = some t → t.Safe service rely (fun _ _ _ => True) w.server w.store

variable (program : Op → Task Store Req Ans Unit)

/-- The operations of the client keep the invariant, and so does what others do. -/
structure Sound : Prop where
  acts : ∀ h s act, rely.inv h s → rely.acts h s act → rely.inv (service.act h act) s
  begins : ∀ h s op, rely.inv h s → rely.begins h s op →
    (program op).Safe service rely (fun _ _ _ => True) h s

variable {service rely program} {w : System Server Store Req Ans}

theorem Holds.idle (hw : w.Holds service rely) : { w with task := none }.Holds service rely where
  inv := hw.inv
  safe _ ht := nomatch ht

theorem Holds.goesOn (hinv : rely.inv w.server w.store) {t : Task Store Req Ans Unit}
    (htask : w.task = some t) (ht : t.Safe service rely (fun _ _ _ => True) w.server w.store) :
    w.Holds service rely where
  inv := hinv
  safe t' ht' := by
    obtain rfl := Option.some.inj (htask.symm.trans ht')
    exact ht

theorem Holds.advance (hw : w.Holds service rely) : w.advance.Holds service rely := by
  cases htask : w.task with
  | none =>
    simp only [System.advance, htask]
    exact hw.idle
  | some t =>
    have ht := hw.safe t htask
    cases t with
    | done value =>
      simp only [System.advance, htask]
      exact hw.idle
    | fail message =>
      simp only [System.advance, htask]
      exact hw.idle
    | load next =>
      simp only [System.advance, htask]
      exact .goesOn hw.inv rfl ht
    | persist candidate next =>
      simp only [System.advance, htask]
      obtain ⟨-, hinv, hnext⟩ := ht w.server .refl hw.inv
      exact .goesOn hinv rfl hnext
    | ask req next =>
      simp only [System.advance, htask]
      exact hw

/-- Every event that the client counts on keeps what holds. -/
theorem Holds.step (hsound : Sound service rely program) (hw : w.Holds service rely)
    {event : Event Req Act Input Op Ans} (hevent : w.Admits rely event) :
    (w.step service program event).Holds service rely := by
  cases event with
  | act act =>
    refine ⟨hsound.acts _ _ act hw.inv hevent, fun t ht => (hw.safe t ht).later ?_⟩
    exact .single ⟨act, hevent, rfl⟩
  | begin op =>
    rw [System.step]
    split_ifs
    · exact hw
    · exact .goesOn hw.inv rfl (hsound.begins _ _ op hw.inv hevent)
  | advance => exact hw.advance
  | serve input =>
    rw [System.step, exchange]
    split
    case h_1 req next htask =>
      obtain ⟨hserves, hhears⟩ := hevent req ⟨next, htask⟩
      obtain ⟨-, -, hserved⟩ := hw.safe _ htask w.server .refl hw.inv
      obtain ⟨hinv, hheard, -⟩ := hserved input hserves
      exact .goesOn hinv rfl (hheard hhears)
    case h_2 => exact hw
  | serveUnheard input answer =>
    rw [System.step, exchange]
    split
    case h_1 req next htask =>
      obtain ⟨hserves, hmissing⟩ := hevent req ⟨next, htask⟩
      obtain ⟨-, -, hserved⟩ := hw.safe _ htask w.server .refl hw.inv
      obtain ⟨hinv, -, hunheard⟩ := hserved input hserves
      exact .goesOn hinv rfl (hunheard _ hmissing)
    case h_2 => exact hw
  | unserved answer =>
    rw [System.step]
    split
    case h_1 req next htask =>
      obtain ⟨-, hunserved, -⟩ := hw.safe _ htask w.server .refl hw.inv
      exact .goesOn hw.inv rfl (hunserved _ (hevent req ⟨next, htask⟩))
    case h_2 => exact hw
  | crash => exact hw.idle

/-- A store that the client writes is as it owes. -/
theorem Holds.persists (hw : w.Holds service rely) {event : Event Req Act Input Op Ans}
    {candidate : Store} (hpersists : w.Persists event candidate) :
    rely.persists w.server w.store candidate := by
  obtain ⟨⟨next, htask⟩, -⟩ := hpersists
  exact (hw.safe _ htask w.server .refl hw.inv).1

theorem Holds.asks (hw : w.Holds service rely) {req : Req} (hwaits : w.Waits req) :
    rely.asks w.server w.store req := by
  obtain ⟨next, htask⟩ := hwaits
  exact (hw.safe _ htask w.server .refl hw.inv).1

theorem Holds.run (hsound : Sound service rely program) (hw : w.Holds service rely)
    {events : List (Event Req Act Input Op Ans)}
    (hevents : EachStep (System.step service program) (fun w event => w.Admits rely event) w
      events) :
    (w.run service program events).Holds service rely :=
  runFrom_invariant (fun _ _ hw hevent => hw.step hsound hevent) hw hevents

end System

end DshOrbit.Lib
