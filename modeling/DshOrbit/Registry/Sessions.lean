import DshOrbit.Registry.Logbooks
import Mathlib.Data.List.Chain

/-!
# Lifetimes of browser sessions

A session validates until its time to live is over, or until it has been idle for too long since
it last validated, or until it is ended. Maintenance audits a session that expired once.

## Main definitions

- `validations` — the instants at which a session validated in a run
- `expiryAudits` — how often maintenance audits a session as expired
- `SessionMove` — what a call does to a session
- `Tracks` — a session as the history since its creation leaves it

## Main results

- `step_sessionMove` — every call makes a move of a session
- `run_tracks` — the run follows from the moves
- `session_lifetime` — when a session validates, and how often its expiry is audited
-/

namespace DshOrbit.Registry

open DshOrbit.Lib DshOrbit.Protocol

variable {env : Env} {s : RegistryState} {call : Call} {calls : List Call} {db : Db}
  {row : SessionRow} {sessionId : String}

/-! ### Histories -/

/-- The instant at which the call validated the session. -/
def validation (s : RegistryState) (sessionId : String) (call : Call) : Option ℤ :=
  match call.operation with
  | .validateSession id =>
    if id = sessionId ∧ (validateSession call.clock s.db id).1.isSome then some (call.clock 0)
    else none
  | _ => none

/-- The instants at which the calls validated the session, in order. -/
def validations (env : Env) (sessionId : String) : RegistryState → List Call → List ℤ
  | _, [] => []
  | s, call :: calls =>
    (validation s sessionId call).toList ++ validations env sessionId (step env s call) calls

/-- The audit row says that the session expired. -/
def AuditRow.tellsExpiry (sessionId : String) (row : AuditRow) : Bool :=
  row.isExpiry ∧ (row.detail.field "sessionId").bind Json.str? = some sessionId

/-- How often the call, if it is one of maintenance, audits the session as expired. -/
def expiryAudits (env : Env) (s : RegistryState) (sessionId : String) (call : Call) : ℕ :=
  match call.operation with
  | .maintenance =>
    (step env s call).db.audit.countP fun row =>
      s.db.nextAuditId ≤ row.id ∧ row.tellsExpiry sessionId
  | _ => 0

/-- How often the calls of maintenance audit the session as expired. -/
def totalExpiryAudits (env : Env) (sessionId : String) : RegistryState → List Call → ℕ
  | _, [] => 0
  | s, call :: calls =>
    expiryAudits env s sessionId call + totalExpiryAudits env sessionId (step env s call) calls

/-- One of the calls ends the session. -/
def Ended (sessionId : String) (calls : List Call) : Prop :=
  ∃ call ∈ calls, ∃ actor, call.operation = .endSession sessionId actor

/-- The gap between two instants is shorter than the idle limit. -/
def WithinIdle (a b : ℤ) : Prop := b < a + sessionIdleMs

/-! ### One session -/

/-- The session is the only one of its id. -/
def Db.HasSession (db : Db) (row : SessionRow) : Prop :=
  db.sessions.filter (fun other => other.sessionId = row.sessionId) = [row]

def SessionRow.UnexpiredAt (row : SessionRow) (now : ℤ) : Prop :=
  now < row.expiresAt ∧ now < row.idleUntil

def SessionRow.ValidAt (row : SessionRow) (now : ℤ) : Prop :=
  row.revokedAt = none ∧ row.UnexpiredAt now

instance (row : SessionRow) (now : ℤ) : Decidable (row.ValidAt now) :=
  inferInstanceAs (Decidable (row.revokedAt = none ∧ now < row.expiresAt ∧ now < row.idleUntil))

theorem Db.HasSession.find? (h : db.HasSession row) :
    (db.sessions.find? fun other => other.sessionId = row.sessionId) = some row := by
  rw [← List.head?_filter, h]
  rfl

theorem Db.HasSession.of_sessions {db' : Db} (h : db.HasSession row)
    (hsessions : db'.sessions = db.sessions) : db'.HasSession row := by
  rw [HasSession, hsessions]
  exact h

theorem Db.HasSession.update (h : db.HasSession row) {f : SessionRow → SessionRow}
    (hf : ∀ other, (f other).sessionId = other.sessionId) :
    (db.updateSession row.sessionId f).HasSession (f row) := by
  show (updateWhere _ f db.sessions).filter _ = _
  rw [filter_updateWhere (fun other => by rw [hf]), hf, h]
  show [if _ then _ else _] = _
  rw [if_pos (decide_eq_true rfl)]

theorem Db.HasSession.update_other (h : db.HasSession row) (hother : sessionId ≠ row.sessionId)
    {f : SessionRow → SessionRow} (hf : ∀ other, (f other).sessionId = other.sessionId) :
    (db.updateSession sessionId f).HasSession row := by
  show (updateWhere _ f db.sessions).filter _ = _
  rw [filter_updateWhere_other (fun other => by rw [hf]), h]
  intro other _ hsame
  exact decide_eq_false fun heq => hother (heq.symm.trans (of_decide_eq_true hsame))

theorem validateSession_eq (h : db.HasSession row) (now : Clock) :
    validateSession now db row.sessionId =
      if row.ValidAt (now 0) then
        (some row, db.updateSession row.sessionId fun row =>
          { row with idleUntil := now 0 + sessionIdleMs })
      else (none, db) := by
  rw [validateSession, h.find?]
  dsimp only
  by_cases hvalid : row.ValidAt (now 0)
  · rw [if_pos hvalid, if_neg]
    obtain ⟨hopen, hexpires, hidle⟩ := hvalid
    rintro (hrevoked | hpast | hpast)
    · rw [hopen] at hrevoked
      cases hrevoked
    · omega
    · omega
  · rw [if_neg hvalid, if_pos]
    by_contra hrefused
    obtain ⟨hopen, hpast⟩ := not_or.mp hrefused
    obtain ⟨hexpires, hidle⟩ := not_or.mp hpast
    exact hvalid ⟨Option.not_isSome_iff_eq_none.mp hopen, not_le.mp hexpires, not_le.mp hidle⟩

theorem validateSession_isSome (h : db.HasSession row) (now : Clock) :
    (validateSession now db row.sessionId).1.isSome ↔ row.ValidAt (now 0) := by
  rw [validateSession_eq h]
  split_ifs with hvalid
  · exact iff_of_true rfl hvalid
  · exact iff_of_false Bool.false_ne_true hvalid

/-! ### Moves -/

/-- What a call does to a session, with the number of audits of its expiry. -/
inductive SessionMove (s : RegistryState) (call : Call) (row : SessionRow) :
    SessionRow → ℕ → Prop
  | left (hrefused : validation s row.sessionId call = none)
      (hend : ∀ actor, call.operation ≠ .endSession row.sessionId actor) :
      SessionMove s call row row 0
  | validated (hcall : call.operation = .validateSession row.sessionId)
      (hvalid : row.ValidAt (call.clock 0)) :
      SessionMove s call row { row with idleUntil := call.clock 0 + sessionIdleMs } 0
  | ended (actor : String) (hcall : call.operation = .endSession row.sessionId actor) :
      SessionMove s call row { row with revokedAt := some (call.clock 0) } 0
  | expired (m n : ℕ) (auditedAt : ℤ) (hcall : call.operation = .maintenance)
      (hopen : row.revokedAt = none) (hunaudited : row.expiryAuditedAt = none)
      (hpast : row.expiresAt ≤ call.clock m ∨ row.idleUntil ≤ call.clock n) :
      SessionMove s call row { row with expiryAuditedAt := some auditedAt } 1

theorem SessionMove.same_id {row' : SessionRow} {n : ℕ} (h : SessionMove s call row row' n) :
    row'.sessionId = row.sessionId := by
  cases h <;> rfl

/-! ### The audit of expired sessions -/

theorem tellsExpiry_auditExpiry (id : ℕ) (recordedAt : ℤ) (actor : String) (other : String) :
    AuditRow.tellsExpiry sessionId ⟨id, recordedAt, actor, "session.expired",
      .obj [("sessionId", .str other)]⟩ = decide (other = sessionId) := by
  have hfield : Json.field "sessionId" (.obj [("sessionId", .str other)]) = some (.str other) := rfl
  rw [AuditRow.tellsExpiry, AuditRow.isExpiry, hfield]
  simp [Json.str?]

/-- Every round of the audit adds one row, of the session of the round. -/
theorem countP_auditExpiries {base : ℕ} (sessions : List SessionRow) (s : Db × Clock)
    (hbase : base ≤ s.1.nextAuditId) :
    (forEachRow 2 auditExpiry sessions s).1.audit.countP
        (fun entry => base ≤ entry.id ∧ entry.tellsExpiry sessionId) =
      s.1.audit.countP (fun entry => base ≤ entry.id ∧ entry.tellsExpiry sessionId) +
        sessions.countP (fun session => session.sessionId = sessionId) := by
  induction sessions generalizing s with
  | nil => rfl
  | cons session sessions ih =>
    obtain ⟨db, clock⟩ := s
    rw [forEachRow, ih _ (hbase.trans (Nat.le_succ _)), List.countP_cons]
    show (db.audit ++ [_]).countP _ + _ = db.audit.countP _ + _
    rw [List.countP_append, List.countP_singleton, tellsExpiry_auditExpiry]
    by_cases hsame : session.sessionId = sessionId
    · rw [if_pos (by simpa [hsame] using hbase), if_pos (decide_eq_true hsame)]
      omega
    · rw [if_neg (by simp [hsame]), if_neg (by simp [hsame])]
      omega

theorem hasSession_auditExpiry (h : db.HasSession row) {session : SessionRow}
    (hsame : session.sessionId = row.sessionId) (clock : Clock) :
    (auditExpiry clock db session).HasSession { row with expiryAuditedAt := some (clock 0) } := by
  have hupdated := h.update (f := fun row => { row with expiryAuditedAt := some (clock 0) })
    fun _ => rfl
  apply hupdated.of_sessions
  show updateWhere (fun other : SessionRow => other.sessionId = session.sessionId) _ _ = _
  rw [hsame]
  rfl

theorem hasSession_auditExpiries_other (sessions : List SessionRow) (s : Db × Clock)
    (h : s.1.HasSession row) (hother : ∀ session ∈ sessions, session.sessionId ≠ row.sessionId) :
    (forEachRow 2 auditExpiry sessions s).1.HasSession row := by
  induction sessions generalizing s with
  | nil => exact h
  | cons session sessions ih =>
    obtain ⟨db, clock⟩ := s
    apply ih
    · exact h.update_other (hother session List.mem_cons_self) fun _ => rfl
    · intro other hmem
      exact hother other (List.mem_cons_of_mem _ hmem)

theorem hasSession_auditExpiries (sessions : List SessionRow) (s : Db × Clock)
    (h : s.1.HasSession row) (hsame : ∃ session ∈ sessions, session.sessionId = row.sessionId) :
    ∃ auditedAt, (forEachRow 2 auditExpiry sessions s).1.HasSession
      { row with expiryAuditedAt := some auditedAt } := by
  induction sessions generalizing s row with
  | nil =>
    obtain ⟨session, hmem, -⟩ := hsame
    cases hmem
  | cons session sessions ih =>
    obtain ⟨db, clock⟩ := s
    by_cases hhead : session.sessionId = row.sessionId
    · have hmarked := hasSession_auditExpiry h hhead clock
      by_cases hmore : ∃ session ∈ sessions, session.sessionId = row.sessionId
      · obtain ⟨auditedAt, hlast⟩ := ih (auditExpiry clock db session, clock.drop 2) hmarked hmore
        exact ⟨auditedAt, hlast⟩
      · refine ⟨clock 0, ?_⟩
        apply hasSession_auditExpiries_other sessions _ hmarked
        intro other hmem heq
        exact hmore ⟨other, hmem, heq⟩
    · have hrest : ∃ session ∈ sessions, session.sessionId = row.sessionId := by
        obtain ⟨other, hmem, heq⟩ := hsame
        rcases List.mem_cons.mp hmem with rfl | hin
        · exact absurd heq hhead
        · exact ⟨other, hin, heq⟩
      apply ih _ _ hrest
      exact h.update_other hhead fun _ => rfl

/-- The session is among the expired ones once, if it has expired. -/
theorem countP_expiredSessions (h : db.HasSession row) (expiredBy idleBy : ℤ) :
    (expiredSessions db expiredBy idleBy).countP (fun other => other.sessionId = row.sessionId) =
      if row.revokedAt = none ∧ row.expiryAuditedAt = none ∧
        (row.expiresAt ≤ expiredBy ∨ row.idleUntil ≤ idleBy) then 1 else 0 := by
  have hcomm : (expiredSessions db expiredBy idleBy).filter
      (fun other => other.sessionId = row.sessionId) =
        (db.sessions.filter fun other => other.sessionId = row.sessionId).filter fun row =>
          row.revokedAt = none ∧ row.expiryAuditedAt = none ∧
            (row.expiresAt ≤ expiredBy ∨ row.idleUntil ≤ idleBy) := by
    rw [expiredSessions, List.filter_filter, List.filter_filter]
    refine congrArg (fun p => db.sessions.filter p) (funext fun other => ?_)
    exact Bool.and_comm _ _
  rw [List.countP_eq_length_filter, hcomm, h]
  by_cases hdue : row.revokedAt = none ∧ row.expiryAuditedAt = none ∧
      (row.expiresAt ≤ expiredBy ∨ row.idleUntil ≤ idleBy)
  · rw [if_pos hdue, List.filter_cons, if_pos (decide_eq_true hdue)]
    rfl
  · rw [if_neg hdue, List.filter_cons, if_neg fun hin => hdue (of_decide_eq_true hin)]
    rfl

/-- What maintenance does to a session. -/
theorem maintenance_sessionMove (hbelow : s.db.AuditsBelow) (h : s.db.HasSession row)
    (hcall : call.operation = .maintenance) :
    ∃ row', (step env s call).db.HasSession row' ∧
      SessionMove s call row row' (expiryAudits env s row.sessionId call) := by
  obtain ⟨⟨db, clock⟩, hphase, hmaintenance⟩ := maintenance_phases env.config call.clock s.db
  have hstep : (step env s call).db = (maintenance env.config call.clock s.db).2 := by
    rw [step, hcall]
  rw [hmaintenance] at hstep
  obtain ⟨n, hclock⟩ := hphase.clock
  have hheld : db.HasSession row := h.of_sessions hphase.logs.sessions
  have hquiet : db.audit.countP (fun entry => s.db.nextAuditId ≤ entry.id ∧
      entry.tellsExpiry row.sessionId) = 0 := by
    rw [List.countP_eq_zero]
    intro entry hmem hcounted
    obtain ⟨hlate, htells⟩ := of_decide_eq_true hcounted
    have hold := hphase.logs.expiries entry hmem (of_decide_eq_true htells).1
    exact absurd (hbelow entry hold) (not_lt.mpr hlate)
  have hcount : expiryAudits env s row.sessionId call =
      (expiredSessions db (clock 0) (clock 1)).countP
        fun other => other.sessionId = row.sessionId := by
    rw [expiryAudits, hcall, hstep]
    exact (countP_auditExpiries _ (db, clock.drop 2) hphase.logs.nextAuditId).trans
      (by rw [hquiet, Nat.zero_add])
  have hread : ∀ k, clock k = call.clock (n + k) := fun k => congrFun hclock k
  rw [hcount, countP_expiredSessions hheld, hstep]
  split_ifs with hdue
  · obtain ⟨hopen, hunaudited, hpast⟩ := hdue
    have hmember : ∃ other ∈ expiredSessions db (clock 0) (clock 1),
        other.sessionId = row.sessionId := by
      have hmem : row ∈ db.sessions := List.mem_of_find?_eq_some hheld.find?
      exact ⟨row, List.mem_filter.mpr ⟨hmem, decide_eq_true ⟨hopen, hunaudited, hpast⟩⟩, rfl⟩
    obtain ⟨auditedAt, hmarked⟩ := hasSession_auditExpiries _ (db, clock.drop 2) hheld hmember
    refine ⟨_, hmarked, .expired (n + 0) (n + 1) auditedAt hcall hopen hunaudited ?_⟩
    rw [← hread, ← hread]
    exact hpast
  · refine ⟨row, ?_, .left ?_ ?_⟩
    · apply hasSession_auditExpiries_other _ _ hheld
      intro other hmem hsame
      apply hdue
      have hzero := countP_expiredSessions hheld (clock 0) (clock 1)
      rw [if_neg hdue, List.countP_eq_zero] at hzero
      exact absurd (decide_eq_true hsame) (hzero other hmem)
    · rw [validation, hcall]
    · intro actor hend
      rw [hcall] at hend
      cases hend

/-! ### The moves of a run -/

theorem validate_sessionMove (h : s.db.HasSession row)
    (hcall : call.operation = .validateSession sessionId) :
    ∃ row', (step env s call).db.HasSession row' ∧ SessionMove s call row row' 0 := by
  have hstep : (step env s call).db = (validateSession call.clock s.db sessionId).2 := by
    rw [step, hcall]
  have hend : ∀ actor, call.operation ≠ .endSession row.sessionId actor := by
    intro actor heq
    rw [hcall] at heq
    cases heq
  rw [hstep]
  by_cases hsame : sessionId = row.sessionId
  · subst hsame
    by_cases hvalid : row.ValidAt (call.clock 0)
    · rw [validateSession_eq h, if_pos hvalid]
      exact ⟨_, h.update fun _ => rfl, .validated hcall hvalid⟩
    · refine ⟨row, ?_, .left ?_ hend⟩
      · rw [validateSession_eq h, if_neg hvalid]
        exact h
      · rw [validation, hcall]
        refine if_neg fun haccepted => ?_
        exact hvalid ((validateSession_isSome h call.clock).mp haccepted.2)
  · refine ⟨row, ?_, .left ?_ hend⟩
    · rw [validateSession]
      split
      · exact h
      · split_ifs
        · exact h
        · exact h.update_other hsame fun _ => rfl
    · rw [validation, hcall]
      exact if_neg fun haccepted => hsame haccepted.1

theorem end_sessionMove {actor : String} (h : s.db.HasSession row)
    (hcall : call.operation = .endSession sessionId actor) :
    ∃ row', (step env s call).db.HasSession row' ∧ SessionMove s call row row' 0 := by
  have hstep : (step env s call).db = (endSession call.clock s.db sessionId actor).2 := by
    rw [step, hcall]
  rw [hstep, endSession]
  by_cases hsame : sessionId = row.sessionId
  · subst hsame
    rw [h.find?]
    refine ⟨_, ?_, .ended actor hcall⟩
    apply Db.HasSession.of_sessions (h.update (f := fun row =>
      { row with revokedAt := some (call.clock 0) }) fun _ => rfl)
    rfl
  · refine ⟨row, ?_, .left ?_ ?_⟩
    · split
      · exact h
      · apply Db.HasSession.of_sessions (h.update_other hsame (f := fun row =>
          { row with revokedAt := some (call.clock 0) }) fun _ => rfl)
        rfl
    · rw [validation, hcall]
    · intro other heq
      rw [hcall] at heq
      exact hsame (Operation.endSession.inj heq).1

theorem hasSession_bootstrap {principal : String} (h : s.db.HasSession row)
    (hcall : call.operation = .bootstrapSession principal) :
    (step env s call).db.HasSession row := by
  have hstep : (step env s call).db =
      commit s.db ((bootstrapSession call.entropy call.clock s.db principal).map (·.2)) := by
    rw [step, hcall]
  rw [hstep, bootstrapSession]
  split
  · exact h
  · rename_i sessions hinsert
    obtain ⟨hfresh, rfl⟩ := insertUnique_eq_some.mp hinsert
    show (s.db.sessions ++ [_]).filter _ = _
    rw [List.filter_append, h, List.filter_cons, if_neg]
    · rfl
    · intro hsame
      have hmem : row ∈ s.db.sessions := List.mem_of_find?_eq_some h.find?
      exact hfresh row hmem (of_decide_eq_true hsame).symm

/-- Every call makes a move of a session. -/
theorem step_sessionMove (env : Env) (call : Call) (hbelow : s.db.AuditsBelow)
    (h : s.db.HasSession row) :
    ∃ row', (step env s call).db.HasSession row' ∧
      SessionMove s call row row' (expiryAudits env s row.sessionId call) := by
  by_cases hmaintenance : call.operation = .maintenance
  · exact maintenance_sessionMove hbelow h hmaintenance
  have hsilent : expiryAudits env s row.sessionId call = 0 := by
    rw [expiryAudits]
    split
    · exact absurd ‹_› hmaintenance
    · rfl
  rw [hsilent]
  by_cases hvalidate : ∃ sessionId, call.operation = .validateSession sessionId
  · obtain ⟨sessionId, hcall⟩ := hvalidate
    exact validate_sessionMove h hcall
  by_cases hends : ∃ sessionId actor, call.operation = .endSession sessionId actor
  · obtain ⟨sessionId, actor, hcall⟩ := hends
    exact end_sessionMove h hcall
  have hunvalidated : validation s row.sessionId call = none := by
    rw [validation]
    split
    · exact absurd ⟨_, ‹_›⟩ hvalidate
    · rfl
  refine ⟨row, ?_, .left hunvalidated fun actor heq => hends ⟨_, actor, heq⟩⟩
  by_cases hbootstrap : ∃ principal, call.operation = .bootstrapSession principal
  · obtain ⟨principal, hcall⟩ := hbootstrap
    exact hasSession_bootstrap h hcall
  · refine h.of_sessions (step_logs ?_ ?_ ?_ hmaintenance).1
    · intro principal heq
      exact hbootstrap ⟨principal, heq⟩
    · intro id heq
      exact hvalidate ⟨id, heq⟩
    · intro id actor heq
      exact hends ⟨id, actor, heq⟩

/-! ### Audit rows -/

theorem auditsBelow_auditExpiries (sessions : List SessionRow) (s : Db × Clock)
    (hbelow : s.1.AuditsBelow) : (forEachRow 2 auditExpiry sessions s).1.AuditsBelow := by
  induction sessions generalizing s with
  | nil => exact hbelow
  | cons session sessions ih =>
    obtain ⟨db, clock⟩ := s
    apply ih
    show (auditExpiry clock db session).AuditsBelow
    rw [auditExpiry]
    apply Db.AuditsBelow.recordAudit
    exact hbelow

theorem step_auditsBelow (call : Call) (hbelow : s.db.AuditsBelow) :
    (step env s call).db.AuditsBelow := by
  by_cases hmaintenance : call.operation = .maintenance
  · obtain ⟨⟨db, clock⟩, hphase, hmaintained⟩ := maintenance_phases env.config call.clock s.db
    have hstep : (step env s call).db = (maintenance env.config call.clock s.db).2 := by
      rw [step, hmaintenance]
    rw [hstep, hmaintained]
    exact auditsBelow_auditExpiries _ _ (hphase.logs.below hbelow)
  by_cases hvalidate : ∃ sessionId, call.operation = .validateSession sessionId
  · obtain ⟨sessionId, hcall⟩ := hvalidate
    have hstep : (step env s call).db = (validateSession call.clock s.db sessionId).2 := by
      rw [step, hcall]
    rw [hstep, validateSession]
    split
    · exact hbelow
    · split_ifs
      · exact hbelow
      · exact hbelow
  by_cases hends : ∃ sessionId actor, call.operation = .endSession sessionId actor
  · obtain ⟨sessionId, actor, hcall⟩ := hends
    have hstep : (step env s call).db = (endSession call.clock s.db sessionId actor).2 := by
      rw [step, hcall]
    rw [hstep, endSession]
    split
    · exact hbelow
    · apply Db.AuditsBelow.recordAudit
      exact hbelow
  by_cases hbootstrap : ∃ principal, call.operation = .bootstrapSession principal
  · obtain ⟨principal, hcall⟩ := hbootstrap
    have hstep : (step env s call).db =
        commit s.db ((bootstrapSession call.entropy call.clock s.db principal).map (·.2)) := by
      rw [step, hcall]
    rw [hstep, bootstrapSession]
    split
    · exact hbelow
    · apply Db.AuditsBelow.recordAudit
      exact hbelow
  · refine (step_logs ?_ ?_ ?_ hmaintenance).2 hbelow
    · intro principal heq
      exact hbootstrap ⟨principal, heq⟩
    · intro id heq
      exact hvalidate ⟨id, heq⟩
    · intro id actor heq
      exact hends ⟨id, actor, heq⟩

theorem run_auditsBelow (env : Env) (calls : List Call) (hbelow : s.db.AuditsBelow) :
    (run env s calls).db.AuditsBelow := by
  induction calls generalizing s with
  | nil => exact hbelow
  | cons call calls ih => exact ih (step_auditsBelow call hbelow)

/-! ### Histories of a session -/

/-- A session as the history since its creation leaves it: the instants at which it validated,
whether it was ended, and how often its expiry was audited. -/
structure Tracks (db : Db) (row : SessionRow) (created : ℤ) (times : List ℤ) (ended : Prop)
    (audits : ℕ) : Prop where
  held : db.HasSession row
  expires : row.expiresAt = created + sessionTtlMs
  idle : row.idleUntil = times.getLastD created + sessionIdleMs
  gaps : (created :: times).IsChain WithinIdle
  ended : row.revokedAt.isSome ↔ ended
  unaudited : row.expiryAuditedAt = none → audits = 0
  audits : audits ≤ 1

theorem isChain_concat_getLastD {α : Type} {R : α → α → Prop} {first next : α} {rest : List α} :
    (first :: (rest ++ [next])).IsChain R ↔
      (first :: rest).IsChain R ∧ R (rest.getLastD first) next := by
  induction rest generalizing first with
  | nil => simp
  | cons second rest ih =>
    rw [List.cons_append, List.isChain_cons_cons, ih, List.isChain_cons_cons, List.getLastD_cons,
      and_assoc]

theorem Tracks.move {created : ℤ} {times : List ℤ} {ended : Prop} {audits n : ℕ}
    {row' : SessionRow} {db' : Db} (h : Tracks s.db row created times ended audits)
    (hheld : db'.HasSession row') (hmove : SessionMove s call row row' n) :
    Tracks db' row' created (times ++ (validation s row.sessionId call).toList)
      (ended ∨ ∃ actor, call.operation = .endSession row.sessionId actor) (audits + n) := by
  cases hmove with
  | left hrefused hend =>
    rw [hrefused, Option.toList_none, List.append_nil]
    refine ⟨hheld, h.expires, h.idle, h.gaps, ?_, h.unaudited, h.audits⟩
    rw [h.ended]
    exact ⟨.inl, fun hor => hor.resolve_right fun ⟨actor, heq⟩ => hend actor heq⟩
  | validated hcall hvalid =>
    have hvalidation : validation s row.sessionId call = some (call.clock 0) := by
      rw [validation, hcall]
      exact if_pos ⟨rfl, (validateSession_isSome h.held call.clock).mpr hvalid⟩
    rw [hvalidation, Option.toList_some]
    refine ⟨hheld, h.expires, ?_, ?_, ?_, h.unaudited, h.audits⟩
    · rw [List.getLastD_concat]
    · refine isChain_concat_getLastD.mpr ⟨h.gaps, ?_⟩
      rw [WithinIdle, ← h.idle]
      exact hvalid.2.2
    · rw [hcall]
      refine h.ended.trans ⟨.inl, fun hor => hor.resolve_right ?_⟩
      rintro ⟨actor, heq⟩
      cases heq
  | ended actor hcall =>
    have hvalidation : validation s row.sessionId call = none := by
      rw [validation, hcall]
    rw [hvalidation, Option.toList_none, List.append_nil]
    exact ⟨hheld, h.expires, h.idle, h.gaps, iff_of_true rfl (.inr ⟨actor, hcall⟩), h.unaudited,
      h.audits⟩
  | expired m n auditedAt hcall hopen hunaudited hpast =>
    have hvalidation : validation s row.sessionId call = none := by
      rw [validation, hcall]
    rw [hvalidation, Option.toList_none, List.append_nil]
    refine ⟨hheld, h.expires, h.idle, h.gaps, ?_, ?_, ?_⟩
    · rw [hcall]
      refine h.ended.trans ⟨.inl, fun hor => hor.resolve_right ?_⟩
      rintro ⟨actor, heq⟩
      cases heq
    · intro hnone
      cases hnone
    · rw [h.unaudited hunaudited]

theorem ended_cons : Ended sessionId (call :: calls) ↔
    (∃ actor, call.operation = .endSession sessionId actor) ∨ Ended sessionId calls := by
  rw [Ended, List.exists_mem_cons_iff]
  rfl

/-- The run follows from the moves. -/
theorem run_tracks (env : Env) (calls : List Call) {created : ℤ} {times : List ℤ} {ended : Prop}
    {audits : ℕ} (hbelow : s.db.AuditsBelow)
    (h : Tracks s.db row created times ended audits) :
    ∃ row', row'.sessionId = row.sessionId ∧
      Tracks (run env s calls).db row' created
        (times ++ validations env row.sessionId s calls) (ended ∨ Ended row.sessionId calls)
        (audits + totalExpiryAudits env row.sessionId s calls) := by
  induction calls generalizing s row times ended audits with
  | nil =>
    refine ⟨row, rfl, ?_⟩
    have hended : (ended ∨ Ended row.sessionId []) = ended :=
      propext (or_iff_left fun ⟨_, hmem, _⟩ => List.not_mem_nil hmem)
    rw [validations, List.append_nil, hended]
    exact h
  | cons call calls ih =>
    obtain ⟨row', hheld, hmove⟩ := step_sessionMove env call hbelow h.held
    obtain ⟨row'', hsame, htracks⟩ := ih (step_auditsBelow call hbelow) (h.move hheld hmove)
    rw [hmove.same_id] at hsame htracks
    refine ⟨row'', hsame, ?_⟩
    rw [validations, totalExpiryAudits, ended_cons, ← or_assoc, ← Nat.add_assoc,
      ← List.append_assoc]
    exact htracks

/-- When a session validates, by its history. -/
theorem Tracks.validates {created : ℤ} {times : List ℤ} {ended : Prop} {audits : ℕ}
    (h : Tracks db row created times ended audits) (now : Clock) :
    (validateSession now db row.sessionId).1.isSome ↔
      ¬ended ∧ now 0 < created + sessionTtlMs ∧
        (created :: (times ++ [now 0])).IsChain WithinIdle := by
  rw [validateSession_isSome h.held, SessionRow.ValidAt, SessionRow.UnexpiredAt, h.expires, h.idle,
    ← h.ended, isChain_concat_getLastD, Option.not_isSome_iff_eq_none]
  exact and_congr Iff.rfl (and_congr Iff.rfl ⟨fun hidle => ⟨h.gaps, hidle⟩, fun hgaps => hgaps.2⟩)

/-! ### Sessions that have lapsed -/

theorem Db.HasSession.unique {row' : SessionRow} (h : db.HasSession row) (h' : db.HasSession row')
    (hsame : row'.sessionId = row.sessionId) : row' = row := by
  rw [HasSession, hsame, h] at h'
  exact (List.singleton_inj.mp h').symm

theorem SessionRow.UnexpiredAt.mono {now later : ℤ} (h : row.UnexpiredAt later)
    (hle : now ≤ later) : row.UnexpiredAt now := ⟨hle.trans_lt h.1, hle.trans_lt h.2⟩

theorem SessionMove.expired_stays {row' : SessionRow} {n : ℕ} {now : ℤ}
    (h : SessionMove s call row row' n) (hexpired : ¬row.UnexpiredAt now)
    (hlate : now ≤ call.clock 0) : ¬row'.UnexpiredAt now := by
  cases h with
  | left hrefused hend => exact hexpired
  | validated hcall hvalid => exact absurd (hvalid.2.mono hlate) hexpired
  | ended actor hcall => exact hexpired
  | expired m n auditedAt hcall hopen hunaudited hpast => exact hexpired

/-- A session that expired has expired from then on. -/
theorem run_expired (env : Env) (calls : List Call) {now : ℤ} (hbelow : s.db.AuditsBelow)
    (h : s.db.HasSession row) (hexpired : ¬row.UnexpiredAt now)
    (hlate : ∀ call ∈ calls, now ≤ call.clock 0) :
    ∃ row', row'.sessionId = row.sessionId ∧ (run env s calls).db.HasSession row' ∧
      ¬row'.UnexpiredAt now := by
  induction calls generalizing s row with
  | nil => exact ⟨row, rfl, h, hexpired⟩
  | cons call calls ih =>
    obtain ⟨row', hheld, hmove⟩ := step_sessionMove env call hbelow h
    obtain ⟨row'', hsame, hrun⟩ := ih (step_auditsBelow call hbelow) hheld
      (hmove.expired_stays hexpired (hlate call List.mem_cons_self))
      fun other hmem => hlate other (List.mem_cons_of_mem _ hmem)
    exact ⟨row'', hsame.trans hmove.same_id, hrun⟩

/-- A session that was ended stays so, and its expiry is never audited. -/
theorem run_revoked (env : Env) (calls : List Call) (hbelow : s.db.AuditsBelow)
    (h : s.db.HasSession row) (hrevoked : row.revokedAt.isSome) :
    totalExpiryAudits env row.sessionId s calls = 0 ∧
      ∃ row', row'.sessionId = row.sessionId ∧ (run env s calls).db.HasSession row' ∧
        row'.revokedAt.isSome := by
  induction calls generalizing s row with
  | nil => exact ⟨rfl, row, rfl, h, hrevoked⟩
  | cons call calls ih =>
    obtain ⟨row', hheld, hmove⟩ := step_sessionMove env call hbelow h
    have hmoved : row'.revokedAt.isSome ∧ expiryAudits env s row.sessionId call = 0 := by
      generalize expiryAudits env s row.sessionId call = n at hmove
      cases hmove with
      | left hrefused hend => exact ⟨hrevoked, rfl⟩
      | validated hcall hvalid => exact ⟨hrevoked, rfl⟩
      | ended actor hcall => exact ⟨rfl, rfl⟩
      | expired m n auditedAt hcall hopen hunaudited hpast =>
        rw [hopen] at hrevoked
        cases hrevoked
    obtain ⟨htotal, row'', hsame, hrun⟩ := ih (step_auditsBelow call hbelow) hheld hmoved.1
    rw [hmove.same_id] at htotal hsame
    refine ⟨?_, row'', hsame, hrun⟩
    rw [totalExpiryAudits, hmoved.2, htotal]

/-- Maintenance has not audited a session that is still unexpired. -/
theorem run_unexpired (env : Env) (calls : List Call) {row' : SessionRow} {now : ℤ}
    (hbelow : s.db.AuditsBelow) (h : s.db.HasSession row) (hordered : Ordered calls)
    (hpast : ∀ call ∈ calls, ∀ n, call.clock n ≤ now)
    (h' : (run env s calls).db.HasSession row') (hsame : row'.sessionId = row.sessionId)
    (hunexpired : row'.UnexpiredAt now) : totalExpiryAudits env row.sessionId s calls = 0 := by
  induction calls generalizing s row with
  | nil => rfl
  | cons call calls ih =>
    obtain ⟨moved, hheld, hmove⟩ := step_sessionMove env call hbelow h
    have hbelow' : (step env s call).db.AuditsBelow := step_auditsBelow call hbelow
    have hsame' : row'.sessionId = moved.sessionId := hsame.trans hmove.same_id.symm
    have hrest := ih hbelow' hheld ⟨fun other hmem => hordered.1 other (List.mem_cons_of_mem _ hmem),
      (List.pairwise_cons.mp hordered.2).2⟩ (fun other hmem => hpast other (List.mem_cons_of_mem _ hmem))
      h' hsame'
    rw [totalExpiryAudits, ← hmove.same_id, hrest, Nat.add_zero, hmove.same_id]
    have hcurrent : ∀ n, moved.UnexpiredAt (call.clock n) := by
      intro n
      by_contra hexpired
      obtain ⟨last, hlast, hrun, hstale⟩ := run_expired env calls hbelow' hheld hexpired
        fun other hmem => (List.pairwise_cons.mp hordered.2).1 other hmem n 0
      rw [hrun.unique h' (hsame'.trans hlast.symm)] at hunexpired
      exact hstale (hunexpired.mono (hpast call List.mem_cons_self n))
    generalize expiryAudits env s row.sessionId call = audits at hmove ⊢
    cases hmove with
    | left hrefused hend => rfl
    | validated hcall hvalid => rfl
    | ended actor hcall => rfl
    | expired m n auditedAt hcall hopen hunaudited hpast =>
      rcases hpast with hdue | hdue
      · exact absurd (hcurrent m).1 (not_lt.mpr hdue)
      · exact absurd (hcurrent n).2 (not_lt.mpr hdue)

/-! ### Lifetimes -/

/-- The lifetime of a session that was created at an instant, over the calls since. -/
structure Lifetime (env : Env) (s : RegistryState) (sessionId : String) (created : ℤ)
    (calls : List Call) : Prop where
  validates (now : Clock) :
    (validateSession now (run env s calls).db sessionId).1.isSome ↔
      ¬Ended sessionId calls ∧ now 0 < created + sessionTtlMs ∧
        (created :: (validations env sessionId s calls ++ [now 0])).IsChain WithinIdle
  final (earlier : List Call) (call : Call) (later : List Call) (now : Clock)
    (hsplit : calls = earlier ++ call :: later)
    (hcall : call.operation = .validateSession sessionId)
    (hfailed : (validateSession call.clock (run env s earlier).db sessionId).1 = none)
    (hlate : call.clock 0 ≤ now 0) :
    (validateSession now (run env s calls).db sessionId).1 = none
  auditedOnce : totalExpiryAudits env sessionId s calls ≤ 1
  loggedOut (earlier : List Call) (call : Call) (later : List Call) (actor : String)
    (hsplit : calls = earlier ++ call :: later)
    (hcall : call.operation = .endSession sessionId actor)
    (hunexpired : call.clock 0 < created + sessionTtlMs ∧
      (created :: (validations env sessionId s earlier ++ [call.clock 0])).IsChain WithinIdle) :
    totalExpiryAudits env sessionId s calls = 0

theorem tracks_bootstrapSession {entropy : Entropy} {clock : Clock} {principal : String} {db' : Db}
    (h : bootstrapSession entropy clock db principal = .ok (row, db')) :
    Tracks db' row (clock 0) [] False 0 := by
  rw [bootstrapSession] at h
  split at h
  · cases h
  · rename_i sessions hinsert
    obtain ⟨hfresh, rfl⟩ := insertUnique_eq_some.mp hinsert
    obtain ⟨rfl, rfl⟩ := Prod.mk.inj (Except.ok.inj h)
    refine ⟨?_, rfl, rfl, List.isChain_singleton _, ?_, fun _ => rfl, Nat.zero_le 1⟩
    · show (db.sessions ++ [_]).filter _ = _
      rw [List.filter_append, List.filter_eq_nil_iff.mpr, List.filter_cons,
        if_pos (decide_eq_true rfl)]
      · rfl
      · intro other hmem hsame
        exact hfresh other hmem (of_decide_eq_true hsame)
    · exact iff_of_false Bool.false_ne_true not_false

theorem totalExpiryAudits_append (env : Env) (sessionId : String) (s : RegistryState)
    (xs ys : List Call) :
    totalExpiryAudits env sessionId s (xs ++ ys) =
      totalExpiryAudits env sessionId s xs + totalExpiryAudits env sessionId (run env s xs) ys := by
  induction xs generalizing s with
  | nil => exact (Nat.zero_add _).symm
  | cons call xs ih =>
    rw [List.cons_append, totalExpiryAudits, totalExpiryAudits, ih, Nat.add_assoc]
    rfl

/-- A session that was created lives as its history says. -/
theorem Tracks.lifetime (env : Env) {created : ℤ} (hbelow : s.db.AuditsBelow)
    (h : Tracks s.db row created [] False 0) (hordered : Ordered calls) :
    Lifetime env s row.sessionId created calls := by
  have htracks : ∀ xs, ∃ row', row'.sessionId = row.sessionId ∧ Tracks (run env s xs).db row' created
      (validations env row.sessionId s xs) (Ended row.sessionId xs)
      (totalExpiryAudits env row.sessionId s xs) := by
    intro xs
    have hrun := run_tracks env xs hbelow h
    rw [List.nil_append, false_or, Nat.zero_add] at hrun
    exact hrun
  constructor
  · intro now
    obtain ⟨row', hsame, hrow'⟩ := htracks calls
    rw [← hrow'.validates now, hsame]
  · rintro earlier call later now rfl - hfailed hlate
    obtain ⟨row', hsame, hrow'⟩ := htracks earlier
    have hbelow' := run_auditsBelow env earlier hbelow
    rw [← hsame] at hfailed ⊢
    have hinvalid : ¬row'.ValidAt (call.clock 0) := by
      rw [← validateSession_isSome hrow'.held, hfailed]
      exact Bool.false_ne_true
    have hlapsed : ∃ last, last.sessionId = row'.sessionId ∧
        (run env (run env s earlier) (call :: later)).db.HasSession last ∧
          ¬last.ValidAt (now 0) := by
      by_cases hrevoked : row'.revokedAt.isSome
      · obtain ⟨-, last, hlast, hheld, hstays⟩ :=
          run_revoked env (call :: later) hbelow' hrow'.held hrevoked
        refine ⟨last, hlast, hheld, fun hvalid => ?_⟩
        rw [hvalid.1] at hstays
        cases hstays
      · have hexpired : ¬row'.UnexpiredAt (call.clock 0) := fun hunexpired =>
          hinvalid ⟨Option.not_isSome_iff_eq_none.mp hrevoked, hunexpired⟩
        have hnext : ∀ other ∈ call :: later, call.clock 0 ≤ other.clock 0 := by
          intro other hmem
          rcases List.mem_cons.mp hmem with rfl | hin
          · exact le_rfl
          · have hpairs := (List.pairwise_append.mp hordered.2).2.1
            exact (List.pairwise_cons.mp hpairs).1 other hin 0 0
        obtain ⟨last, hlast, hheld, hstays⟩ :=
          run_expired env (call :: later) hbelow' hrow'.held hexpired hnext
        exact ⟨last, hlast, hheld, fun hvalid => hstays (hvalid.2.mono hlate)⟩
    obtain ⟨last, hlast, hheld, hstale⟩ := hlapsed
    rw [run_append, ← hlast]
    exact Option.not_isSome_iff_eq_none.mp fun hsome =>
      hstale ((validateSession_isSome hheld now).mp hsome)
  · obtain ⟨row', -, hrow'⟩ := htracks calls
    exact hrow'.audits
  · rintro earlier call later actor rfl hcall ⟨hexpires, hgaps⟩
    obtain ⟨row', hsame, hrow'⟩ := htracks earlier
    have hbelow' := run_auditsBelow env earlier hbelow
    have hunexpired : row'.UnexpiredAt (call.clock 0) := by
      refine ⟨hrow'.expires ▸ hexpires, ?_⟩
      rw [hrow'.idle]
      exact (isChain_concat_getLastD.mp hgaps).2
    have hearlier : totalExpiryAudits env row.sessionId s earlier = 0 :=
      run_unexpired env earlier hbelow h.held hordered.left
        (fun other hmem n => hordered.le hmem List.mem_cons_self n 0) hrow'.held hsame hunexpired
    have hsilent : expiryAudits env (run env s earlier) row.sessionId call = 0 := by
      rw [expiryAudits, hcall]
    obtain ⟨ended, hheld, hmove⟩ := step_sessionMove env call hbelow' hrow'.held
    have hsameEnded : ended.sessionId = row.sessionId := hmove.same_id.trans hsame
    have hrevoked : ended.revokedAt.isSome := by
      generalize expiryAudits env (run env s earlier) row'.sessionId call = n at hmove
      cases hmove with
      | left hrefused hend => exact absurd (hsame ▸ hcall) (hend actor)
      | validated hvalidate hvalid =>
        rw [hcall] at hvalidate
        cases hvalidate
      | ended actor hcall => rfl
      | expired m n auditedAt hmaintenance hopen hunaudited hpast =>
        rw [hcall] at hmaintenance
        cases hmaintenance
    have hlater := (run_revoked env later (step_auditsBelow call hbelow') hheld hrevoked).1
    rw [hsameEnded] at hlater
    rw [totalExpiryAudits_append, totalExpiryAudits, hearlier, hsilent, hlater]

/-- When a session validates, and how often its expiry is audited, in every run since its
creation. -/
theorem session_lifetime (env : Env) (before : List Call) (boot : Call) (after : List Call)
    (principal : String) (db' : Db) (hboot : boot.operation = .bootstrapSession principal)
    (hcreated : bootstrapSession boot.entropy boot.clock (run env {} before).db principal =
      .ok (row, db')) (hordered : Ordered after) :
    Lifetime env (run env {} (before ++ [boot])) row.sessionId (boot.clock 0) after := by
  have hempty : ({} : RegistryState).db.AuditsBelow := fun _ hmem => absurd hmem List.not_mem_nil
  have hstep : (run env {} (before ++ [boot])).db = db' := by
    rw [run_append]
    show (step env (run env {} before) boot).db = db'
    rw [step, hboot]
    dsimp only
    rw [hcreated]
    rfl
  have htracks := tracks_bootstrapSession hcreated
  rw [← hstep] at htracks
  exact htracks.lifetime env (run_auditsBelow env _ hempty) hordered

/-! ### Samples -/

def bootCall : Call :=
  { operation := .bootstrapSession "operator", clock := fun _ => 1700000000000
    entropy := sampleEntropy 0x11 }

def bootId : String := "sess_111111111111111111111111111111111111111111111111"

/-- The session validates once, and expires before maintenance comes twice. -/
def browserCalls : List Call :=
  [{ bootCall with operation := .validateSession bootId, clock := fun _ => 1700000600000 },
    { bootCall with operation := .maintenance, clock := fun _ => 1700003000000 },
    { bootCall with operation := .maintenance, clock := fun _ => 1700003600000 }]

theorem session_lifetime_sample :
    Lifetime sampleEnv (run sampleEnv {} ([] ++ [bootCall])) bootId 1700000000000 browserCalls := by
  apply session_lifetime sampleEnv [] bootCall browserCalls "operator" _ rfl rfl
  constructor
  · intro call hcall
    have hconst : ∃ now : ℤ, call.clock = fun _ => now := by
      simp only [browserCalls, List.mem_cons, List.not_mem_nil, or_false] at hcall
      obtain rfl | rfl | rfl := hcall
      · exact ⟨_, rfl⟩
      · exact ⟨_, rfl⟩
      · exact ⟨_, rfl⟩
    obtain ⟨now, hnow⟩ := hconst
    rw [hnow]
    exact monotone_const
  · simp [browserCalls]

end DshOrbit.Registry
