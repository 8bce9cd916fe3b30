import DshOrbit.Lib.Window
import DshOrbit.PairingCode
import Mathlib.Data.Int.ConditionallyCompleteOrder

/-!
# Lock-out of pairing attempts

An address that failed too often is refused for the lock duration (`registry/pairing-code.mjs`,
`checkIpLockout` and `recordFailure`). The counters of all addresses are in one map, whose stale
entries are removed when it grows.

## Main definitions

- `attempt` — how an attempt of an address ends
- `failures` — when the attempts of an address failed
- `Lockout` — what is known of an address by its failures

## Main results

- `lockout_bound` — the failures in a window, and the refusals of a locked address
-/

namespace DshOrbit.PairingCode

open DshOrbit.Lib DshOrbit.Registry

/-- How an attempt ends; a failure with the reading at which it is recorded. -/
inductive Attempt
  | refused
  | failed (now : ℤ)
  | succeeded
  deriving DecidableEq

namespace Engine

variable (options : Options)

/-- How a verification ends. -/
def attemptOf (clock : Clock) (result : VerifyResult) : Attempt :=
  if result.valid then .succeeded
  else if result.code = "rate-limited" then .refused
  else .failed (if result.code = "code-expired" then clock 2 else clock 1)

/-- The attempt of an address in an event. -/
def attempt (ip : String) (e : Engine) (event : Event) : Option Attempt :=
  match event.action with
  | .verify inputCode clientIp =>
    if clientIp = ip then
      some (attemptOf event.clock (e.verifyCode options event.clock inputCode clientIp).1)
    else none
  | _ => none

/-- When the attempts of an address failed in a run. -/
def failures (ip : String) : Engine → List Event → List ℤ
  | _, [] => []
  | e, event :: events =>
    (match e.attempt options ip event with
      | some (.failed now) => [now]
      | _ => []) ++ failures ip (e.step options event) events

/-- The address is locked until an instant. -/
def LockedUntil (e : Engine) (ip : String) (until' : ℤ) : Prop :=
  ∃ stat, e.ipAttempts.lookup ip = some stat ∧ stat.lockedUntil ≠ 0 ∧ stat.lockedUntil = until'

/-- The clock reads instants after 1970 and does not run backwards. -/
structure Timed (events : List Event) : Prop where
  monotone : ∀ event ∈ events, Monotone event.clock
  nonneg : ∀ event ∈ events, 0 ≤ event.clock 0
  ordered : events.Pairwise fun a b => ∀ m n, a.clock m ≤ b.clock n

variable {options : Options} {e : Engine} {event : Event} {events : List Event} {ip : String}

/-! ### What the functions leave of an address -/

theorem lookup_dropStale (options : Options) (now : ℤ) (stats : JsMap String IpStat) (ip : String) :
    (dropStale options now stats).lookup ip = stats.lookup ip ∨
      (dropStale options now stats).lookup ip = none ∧
        ∃ stat, stats.lookup ip = some stat ∧ options.lock < now - stat.lastAttemptAt := by
  rw [dropStale]
  split_ifs with hmany
  · rw [JsMap.lookup_foldl_erase stats fun stat => options.lock < now - stat.lastAttemptAt]
    cases stats.lookup ip with
    | none => exact .inl rfl
    | some stat =>
      rw [Option.filter_some]
      by_cases hstale : options.lock < now - stat.lastAttemptAt
      · rw [if_neg (by rw [decide_eq_true_eq]; exact not_not.mpr hstale)]
        exact .inr ⟨rfl, stat, rfl, hstale⟩
      · rw [if_pos (decide_eq_true hstale)]
        exact .inl rfl
  · exact .inl rfl

/-- What is left of an address when it is checked and not locked. -/
def unlockedStat (options : Options) (now : ℤ) (stat : IpStat) : Option IpStat :=
  if options.lock < now - stat.lastAttemptAt ∨ (stat.lockedUntil ≠ 0 ∧ stat.lockedUntil ≤ now) then
    none
  else some stat

theorem checkIpLockout_locked (options : Options) {now : ℤ} {stat : IpStat} (hip : ip ≠ "")
    (hstat : e.ipAttempts.lookup ip = some stat)
    (hlocked : stat.lockedUntil ≠ 0 ∧ now < stat.lockedUntil) :
    ∃ seconds, e.checkIpLockout options now ip = (some seconds, e) := by
  rw [checkIpLockout, if_neg hip, hstat]
  exact ⟨_, if_pos hlocked⟩

/-- A check of an address that is not locked. -/
theorem checkIpLockout_unlocked (options : Options) {now : ℤ} (hip : ip ≠ "")
    (hunlocked : ∀ stat, e.ipAttempts.lookup ip = some stat →
      ¬(stat.lockedUntil ≠ 0 ∧ now < stat.lockedUntil)) :
    (e.checkIpLockout options now ip).1 = none ∧
      (e.checkIpLockout options now ip).2.ipAttempts.lookup ip =
        (e.ipAttempts.lookup ip).bind (unlockedStat options now) ∧
      ∀ other, other ≠ ip →
        (e.checkIpLockout options now ip).2.ipAttempts.lookup other =
          e.ipAttempts.lookup other := by
  rw [checkIpLockout, if_neg hip]
  cases hstat : e.ipAttempts.lookup ip with
  | none => exact ⟨rfl, hstat, fun _ _ => rfl⟩
  | some stat =>
    dsimp only
    rw [if_neg (hunlocked stat hstat), Option.bind_some, unlockedStat]
    split_ifs
    · exact ⟨rfl, AList.lookup_erase _ _, fun other hother => AList.lookup_erase_ne hother⟩
    · exact ⟨rfl, hstat, fun _ _ => rfl⟩

/-- The counter of an address after a failure that starts from a counter. -/
def failedStat (options : Options) (now : ℤ) (stat : IpStat) : IpStat :=
  let failed :=
    (if options.lock < now - stat.lastAttemptAt ∧ stat.lockedUntil = 0 then 0
      else stat.failedAttempts) + 1
  { failedAttempts := failed
    lastAttemptAt := now
    lockedUntil := if options.attempts ≤ failed then now + options.lock else stat.lockedUntil }

theorem lookup_recordFailure_self (options : Options) (now : ℤ) (e : Engine) (hip : ip ≠ "") :
    (recordFailure options now e ip).ipAttempts.lookup ip =
      some (failedStat options now
        (((dropStale options now e.ipAttempts).lookup ip).getD ⟨0, 0, now⟩)) := by
  rw [recordFailure, if_neg hip]
  exact AList.lookup_insert _

/-- A failure of another address removes the entry of this one only when it is stale. -/
theorem lookup_recordFailure_other (options : Options) (now : ℤ) (e : Engine) {other : String}
    (hother : ip ≠ other) :
    (recordFailure options now e other).ipAttempts.lookup ip = e.ipAttempts.lookup ip ∨
      (recordFailure options now e other).ipAttempts.lookup ip = none ∧
        ∃ stat, e.ipAttempts.lookup ip = some stat ∧ options.lock < now - stat.lastAttemptAt := by
  rw [recordFailure]
  split_ifs
  · exact .inl rfl
  · dsimp only
    rw [AList.lookup_insert_ne hother]
    exact lookup_dropStale options now e.ipAttempts ip

/-- A verification that is not refused: it is recorded as a failure, or clears the address. -/
theorem verifyUnlocked_cases (options : Options) (clock : Clock) (e : Engine)
    (text clientIp : String) :
    (∃ n e', 1 ≤ n ∧ e'.ipAttempts = e.ipAttempts ∧
      attemptOf clock (e.verifyUnlocked options clock text clientIp).1 = .failed (clock n) ∧
      (e.verifyUnlocked options clock text clientIp).2 =
        recordFailure options (clock n) e' clientIp) ∨
      attemptOf clock (e.verifyUnlocked options clock text clientIp).1 = .succeeded ∧
        (e.verifyUnlocked options clock text clientIp).2.ipAttempts =
          if clientIp = "" then e.ipAttempts else e.ipAttempts.erase clientIp := by
  rw [verifyUnlocked]
  by_cases htext : text = ""
  · rw [if_pos htext]
    exact .inl ⟨1, e, le_rfl, rfl, by simp [attemptOf], rfl⟩
  · rw [if_neg htext]
    split
    case h_1 => exact .inl ⟨1, e, le_rfl, rfl, by simp [attemptOf], rfl⟩
    case h_2 i record hfind =>
      dsimp only
      by_cases hexpired : record.expiresAt < clock 1
      · rw [if_pos hexpired]
        exact .inl ⟨2, e.forget record, by decide, rfl, by simp [attemptOf], rfl⟩
      · rw [if_neg hexpired]
        refine .inr ⟨by simp [attemptOf], ?_⟩
        show (if clientIp = "" then _ else _ : Engine).ipAttempts = _
        split_ifs
        · rfl
        · rfl

/-- What an event does to the entry of an address. -/
inductive StatStep (options : Options) (clock : Clock) :
    Option IpStat → Option Attempt → Option IpStat → Prop
  | kept (old : Option IpStat) : StatStep options clock old none old
  | evicted (stat : IpStat) (n : ℕ) (hstale : options.lock < clock n - stat.lastAttemptAt) :
      StatStep options clock (some stat) none none
  | refused (stat : IpStat) (hlocked : stat.lockedUntil ≠ 0 ∧ clock 0 < stat.lockedUntil) :
      StatStep options clock (some stat) (some .refused) (some stat)
  | succeeded (old : Option IpStat)
      (hunlocked : ∀ stat, old = some stat → ¬(stat.lockedUntil ≠ 0 ∧ clock 0 < stat.lockedUntil)) :
      StatStep options clock old (some .succeeded) none
  | failed (old base : Option IpStat) (n : ℕ)
      (hunlocked : ∀ stat, old = some stat → ¬(stat.lockedUntil ≠ 0 ∧ clock 0 < stat.lockedUntil))
      (hbase : base = old.bind (unlockedStat options (clock 0)) ∨
        base = none ∧ ∃ stat, old = some stat ∧ options.lock < clock n - stat.lastAttemptAt) :
      StatStep options clock old (some (.failed (clock n)))
        (some (failedStat options (clock n) (base.getD ⟨0, 0, clock n⟩)))

theorem unlockedStat_eq_some {now : ℤ} {old : Option IpStat} {stat : IpStat}
    (h : old.bind (unlockedStat options now) = some stat) : old = some stat := by
  obtain ⟨stat', hold, hstat⟩ := Option.bind_eq_some_iff.mp h
  rw [unlockedStat] at hstat
  split_ifs at hstat
  rw [hold, hstat]

/-- A verification by the address. -/
theorem verifyCode_stat_self (clock : Clock) (e : Engine) (inputCode : Json) (hip : ip ≠ "") :
    StatStep options clock (e.ipAttempts.lookup ip)
      (some (attemptOf clock (e.verifyCode options clock inputCode ip).1))
      ((e.verifyCode options clock inputCode ip).2.ipAttempts.lookup ip) := by
  by_cases hlocked : ∃ stat, e.ipAttempts.lookup ip = some stat ∧
      (stat.lockedUntil ≠ 0 ∧ clock 0 < stat.lockedUntil)
  · obtain ⟨stat, hstat, hlocked⟩ := hlocked
    obtain ⟨seconds, hcheck⟩ := checkIpLockout_locked options hip hstat hlocked
    rw [verifyCode, hcheck, hstat]
    exact .refused stat hlocked
  · have hunlocked : ∀ stat, e.ipAttempts.lookup ip = some stat →
        ¬(stat.lockedUntil ≠ 0 ∧ clock 0 < stat.lockedUntil) :=
      fun stat hstat hlock => hlocked ⟨stat, hstat, hlock⟩
    obtain ⟨hnone, hown, -⟩ := checkIpLockout_unlocked options hip hunlocked
    obtain ⟨seconds, checked, hcheck⟩ :
        ∃ seconds checked, e.checkIpLockout options (clock 0) ip = (seconds, checked) :=
      ⟨_, _, rfl⟩
    rw [hcheck] at hnone hown
    dsimp only at hnone hown
    subst hnone
    rw [verifyCode, hcheck]
    dsimp only
    obtain ⟨n, e', -, hattempts, hattempt, hstate⟩ | ⟨hattempt, hattempts⟩ :=
      verifyUnlocked_cases options clock checked (inputText inputCode) ip
    · rw [hattempt, hstate, lookup_recordFailure_self options (clock n) e' hip]
      refine .failed _ _ n hunlocked ?_
      rw [hattempts]
      obtain hkept | ⟨hnone, stat, hstat, hstale⟩ :=
        lookup_dropStale options (clock n) checked.ipAttempts ip
      · exact .inl (hkept.trans hown)
      · rw [hown] at hstat
        exact .inr ⟨hnone, stat, unlockedStat_eq_some hstat, hstale⟩
    · rw [hattempt, hattempts, if_neg hip, AList.lookup_erase]
      exact .succeeded _ hunlocked

/-- A verification by another address. -/
theorem verifyCode_stat_other (clock : Clock) (e : Engine) (inputCode : Json) {clientIp : String}
    (hother : ip ≠ clientIp) :
    StatStep options clock (e.ipAttempts.lookup ip) none
      ((e.verifyCode options clock inputCode clientIp).2.ipAttempts.lookup ip) := by
  have hcheckKeeps : ((e.checkIpLockout options (clock 0) clientIp).2.ipAttempts.lookup ip) =
      e.ipAttempts.lookup ip := by
    rw [checkIpLockout]
    split_ifs
    · rfl
    · split
      · rfl
      · split_ifs
        · rfl
        · exact AList.lookup_erase_ne hother
        · rfl
  rw [verifyCode]
  split
  case h_1 seconds checked hcheck =>
    rw [hcheck] at hcheckKeeps
    dsimp only at hcheckKeeps ⊢
    rw [hcheckKeeps]
    exact .kept _
  case h_2 checked hcheck =>
    rw [hcheck] at hcheckKeeps
    dsimp only at hcheckKeeps
    rw [← hcheckKeeps]
    obtain ⟨n, e', -, hattempts, -, hstate⟩ | ⟨-, hattempts⟩ :=
      verifyUnlocked_cases options clock checked (inputText inputCode) clientIp
    · rw [hstate, ← hattempts]
      obtain hkept | ⟨hnone, stat, hstat, hstale⟩ :=
        lookup_recordFailure_other options (clock n) e' hother
      · rw [hkept]
        exact .kept _
      · rw [hnone, hstat]
        exact .evicted stat n hstale
    · rw [hattempts]
      split_ifs
      · exact .kept _
      · rw [AList.lookup_erase_ne hother]
        exact .kept _

theorem step_stat (hip : ip ≠ "") (e : Engine) (event : Event) :
    StatStep options event.clock (e.ipAttempts.lookup ip) (e.attempt options ip event)
      ((e.step options event).ipAttempts.lookup ip) := by
  obtain ⟨action, clock⟩ := event
  cases action with
  | generate principal base draw =>
    have hkept : (e.step options ⟨.generate principal base draw, clock⟩).ipAttempts =
        e.ipAttempts := by
      rw [step]
      dsimp only
      split
      case h_1 record url e' hresult =>
        unfold generateCode at hresult
        split at hresult
        · cases hresult
        · cases hresult
        · split at hresult
          · cases hresult
          · split_ifs at hresult
            cases hresult
            rfl
      case h_2 => rfl
    rw [hkept]
    exact .kept _
  | verify inputCode clientIp =>
    rw [attempt, step]
    dsimp only
    by_cases hclient : clientIp = ip
    · subst hclient
      rw [if_pos rfl]
      exact verifyCode_stat_self clock e inputCode hip
    · rw [if_neg hclient]
      exact verifyCode_stat_other clock e inputCode (Ne.symm hclient)
  | timer i =>
    have hkept : (e.step options ⟨.timer i, clock⟩).ipAttempts = e.ipAttempts := by
      rw [step]
      dsimp only
      rw [cleanUp]
      split
      · rfl
      · split_ifs
        · rfl
        · rfl
    rw [hkept]
    exact .kept _

/-! ### What is known of an address -/

/-- What is known of an address by its failures since its last success. -/
def Lockout (options : Options) (now : ℤ) (failed : List ℤ) : Option IpStat → Prop
  | none => ∀ t ∈ failed, t + options.lock ≤ now
  | some stat =>
    0 ≤ stat.lastAttemptAt ∧ stat.lastAttemptAt ≤ now ∧ (∀ t ∈ failed, t ≤ stat.lastAttemptAt) ∧
      (failed.countP fun t => stat.lastAttemptAt - options.lock < t) ≤ stat.failedAttempts ∧
      (stat.lockedUntil = 0 ∧ stat.failedAttempts < options.attempts ∨
        stat.lockedUntil = stat.lastAttemptAt + options.lock)

/-- The failures since the last success, after an attempt. -/
def record (failed : List ℤ) : Option Attempt → List ℤ
  | some (.failed now) => failed ++ [now]
  | some .succeeded => []
  | _ => failed

variable {now now' : ℤ} {failed : List ℤ} {clock : Clock} {old new : Option IpStat}
  {outcome : Option Attempt}

theorem lock_pos (options : Options) : 0 < options.lock :=
  lt_of_lt_of_le (by decide) (le_max_left 10000 options.lockDurationMs)

theorem attempts_pos (options : Options) : 0 < options.attempts :=
  le_max_left 1 options.maxFailedAttempts

theorem Lockout.later (h : Lockout options now failed old) (hle : now ≤ now') :
    Lockout options now' failed old := by
  cases old with
  | none => exact fun t ht => (h t ht).trans hle
  | some stat => exact ⟨h.1, h.2.1.trans hle, h.2.2⟩

theorem countP_eq_zero (h : ∀ t ∈ failed, t + options.lock ≤ now) :
    (failed.countP fun t => now - options.lock < t) = 0 := by
  rw [List.countP_eq_zero]
  intro t ht hin
  have hle := h t ht
  rw [decide_eq_true_eq] at hin
  omega

/-- A lock that holds outlasts the entry's being fresh. -/
theorem Lockout.lockedUntil_eq {stat : IpStat} (h : Lockout options now failed (some stat))
    (hlocked : stat.lockedUntil ≠ 0) : stat.lockedUntil = stat.lastAttemptAt + options.lock := by
  obtain ⟨-, -, -, -, ⟨hzero, -⟩ | heq⟩ := h
  · exact absurd hzero hlocked
  · exact heq

/-- The counter that a failure starts from, when no failure is counted any more. -/
theorem Lockout.failed_fresh (h : ∀ t ∈ failed, t + options.lock ≤ now) (hnow : 0 ≤ now) :
    Lockout options now (failed ++ [now]) (some (failedStat options now ⟨0, 0, now⟩)) ∧
      (failed.countP fun t => now - options.lock < t) < options.attempts := by
  have hlock := lock_pos options
  have hcount := countP_eq_zero h
  have hfirst : failedStat options now ⟨0, 0, now⟩ =
      ⟨1, if options.attempts ≤ 1 then now + options.lock else 0, now⟩ := by
    rw [failedStat]
    dsimp only
    rw [if_neg (by omega)]
  rw [hfirst]
  refine ⟨⟨hnow, le_rfl, ?_, ?_, ?_⟩, hcount.symm ▸ attempts_pos options⟩
  · intro t ht
    obtain ht | ht := List.mem_append.mp ht
    · have hle := h t ht
      show t ≤ now
      omega
    · exact (List.mem_singleton.mp ht).le
  · dsimp only
    rw [List.countP_append, hcount, List.countP_singleton,
      if_pos (by rw [decide_eq_true_eq]; omega)]
  · dsimp only
    by_cases hone : options.attempts ≤ 1
    · rw [if_pos hone]
      exact .inr rfl
    · rw [if_neg hone]
      exact .inl ⟨rfl, not_le.mp hone⟩

/-- A failure that is counted with those before it. -/
theorem Lockout.failed_counted {stat : IpStat} (h : Lockout options now failed (some stat))
    (hunlocked : stat.lockedUntil = 0) (hfresh : stat.failedAttempts < options.attempts)
    (hle : now ≤ now') :
    Lockout options now' (failed ++ [now']) (some (failedStat options now' stat)) ∧
      (failed.countP fun t => now' - options.lock < t) < options.attempts := by
  obtain ⟨hnonneg, hlast, hpast, hcount, -⟩ := h
  have hlock := lock_pos options
  have hfewer : (failed.countP fun t => now' - options.lock < t) ≤
      failed.countP fun t => stat.lastAttemptAt - options.lock < t := by
    refine List.countP_mono_left fun t _ ht => ?_
    rw [decide_eq_true_eq] at ht ⊢
    omega
  set counted := (failedStat options now' stat).failedAttempts with hcounted
  have hcountedEq : counted =
      (if options.lock < now' - stat.lastAttemptAt ∧ stat.lockedUntil = 0 then 0
        else stat.failedAttempts) + 1 := rfl
  have hmany : (failed.countP fun t => now' - options.lock < t) + 1 ≤ counted := by
    rw [hcountedEq]
    by_cases hstale : options.lock < now' - stat.lastAttemptAt ∧ stat.lockedUntil = 0
    · rw [if_pos hstale, countP_eq_zero fun t ht => ?_]
      have hle := hpast t ht
      omega
    · rw [if_neg hstale]
      omega
  refine ⟨⟨hnonneg.trans (hlast.trans hle), le_rfl, ?_, ?_, ?_⟩, by omega⟩
  · intro t ht
    obtain ht | ht := List.mem_append.mp ht
    · exact (hpast t ht).trans (hlast.trans hle)
    · exact (List.mem_singleton.mp ht).le
  · show ((failed ++ [now']).countP fun t => now' - options.lock < t) ≤ counted
    rw [List.countP_append, List.countP_singleton, if_pos (by rw [decide_eq_true_eq]; omega)]
    exact hmany
  · show (if options.attempts ≤ counted then now' + options.lock else stat.lockedUntil) = 0 ∧
        counted < options.attempts ∨
      (if options.attempts ≤ counted then now' + options.lock else stat.lockedUntil) =
        now' + options.lock
    by_cases hfull : options.attempts ≤ counted
    · rw [if_pos hfull]
      exact .inr rfl
    · rw [if_neg hfull]
      exact .inl ⟨hunlocked, not_le.mp hfull⟩

/-- An entry that the check removes counts no failure any more. -/
theorem Lockout.of_removed {stat : IpStat} (h : Lockout options now failed (some stat))
    (hgone : options.lock < now' - stat.lastAttemptAt ∨
      (stat.lockedUntil ≠ 0 ∧ stat.lockedUntil ≤ now')) :
    ∀ t ∈ failed, t + options.lock ≤ now' := by
  intro t ht
  have hpast := h.2.2.1 t ht
  obtain hstale | ⟨hlocked, hexpired⟩ := hgone
  · omega
  · have heq := h.lockedUntil_eq hlocked
    omega

/-- What an event leaves of what is known of an address; an attempt that fails finds fewer failures
in the window than are allowed. -/
theorem StatStep.lockout (hstep : StatStep options clock old outcome new)
    (hmonotone : Monotone clock) (hnonneg : 0 ≤ clock 0)
    (h : Lockout options (clock 0) failed old)
    (hspaced : Spaced options.attempts options.lock failed) :
    (∃ n, Lockout options (clock n) (record failed outcome) new) ∧
      Spaced options.attempts options.lock (record failed outcome) := by
  cases hstep with
  | kept => exact ⟨⟨0, h⟩, hspaced⟩
  | evicted stat n hstale => exact ⟨⟨n, h.of_removed (.inl hstale)⟩, hspaced⟩
  | refused => exact ⟨⟨0, h⟩, hspaced⟩
  | succeeded => exact ⟨⟨0, fun t ht => absurd ht List.not_mem_nil⟩, .nil⟩
  | failed old base n hunlocked hbase =>
    have hle : clock 0 ≤ clock n := hmonotone (Nat.zero_le n)
    suffices hnext : Lockout options (clock n) (failed ++ [clock n])
        (some (failedStat options (clock n) (base.getD ⟨0, 0, clock n⟩))) ∧
        (failed.countP fun t => clock n - options.lock < t) < options.attempts from
      ⟨⟨n, hnext.1⟩, hspaced.snoc hnext.2⟩
    have hfresh (hgone : ∀ t ∈ failed, t + options.lock ≤ clock n) :=
      Lockout.failed_fresh hgone (hnonneg.trans hle)
    obtain rfl | ⟨rfl, stat, rfl, hstale⟩ := hbase
    · cases old with
      | none => exact hfresh fun t ht => (h t ht).trans hle
      | some stat =>
        rw [Option.bind_some, unlockedStat]
        split_ifs with hgone
        · exact hfresh fun t ht => (h.of_removed hgone t ht).trans hle
        · obtain hzero | heq := h.2.2.2.2
          · exact h.failed_counted hzero.1 hzero.2 hle
          · -- an entry that is neither locked nor removed has no lock
            have hlock := lock_pos options
            have hlast := h.1
            have hlocked : stat.lockedUntil ≠ 0 := by omega
            refine absurd ⟨hlocked, ?_⟩ (hunlocked stat rfl)
            by_contra hnot
            exact hgone (.inr ⟨hlocked, not_lt.mp hnot⟩)
    · exact hfresh (h.of_removed (.inl hstale))

/-- An attempt of a locked address is refused. -/
theorem StatStep.refused_of_locked {stat : IpStat}
    (hstep : StatStep options clock (some stat) outcome new)
    (hlocked : stat.lockedUntil ≠ 0 ∧ clock 0 < stat.lockedUntil) :
    outcome = none ∨ outcome = some .refused := by
  cases hstep with
  | kept => exact .inl rfl
  | evicted => exact .inl rfl
  | refused => exact .inr rfl
  | succeeded _ hunlocked => exact absurd hlocked (hunlocked stat rfl)
  | failed _ _ _ hunlocked => exact absurd hlocked (hunlocked stat rfl)

/-- The entry of a locked address stays. -/
theorem StatStep.stays {stat : IpStat} (hstep : StatStep options clock (some stat) outcome new)
    (h : Lockout options now failed (some stat)) (hlocked : stat.lockedUntil ≠ 0)
    (hbefore : ∀ n, clock n < stat.lockedUntil) : new = some stat := by
  cases hstep with
  | kept => rfl
  | evicted _ n hstale =>
    have heq := h.lockedUntil_eq hlocked
    have hlt := hbefore n
    omega
  | refused => rfl
  | succeeded _ hunlocked => exact absurd ⟨hlocked, hbefore 0⟩ (hunlocked stat rfl)
  | failed _ _ _ hunlocked => exact absurd ⟨hlocked, hbefore 0⟩ (hunlocked stat rfl)

/-! ### Every run -/

theorem Timed.tail (h : Timed (event :: events)) : Timed events where
  monotone other hother := h.monotone other (List.mem_cons_of_mem event hother)
  nonneg other hother := h.nonneg other (List.mem_cons_of_mem event hother)
  ordered := (List.pairwise_cons.mp h.ordered).2

/-- What is known of an address before an event; the failures are spaced. -/
def Tracked (options : Options) (ip : String) (now : ℤ) (failed : List ℤ) (e : Engine) : Prop :=
  Lockout options now failed (e.ipAttempts.lookup ip) ∧
    Spaced options.attempts options.lock failed

theorem tracked_empty (options : Options) (ip : String) (now : ℤ) :
    Tracked options ip now [] {} :=
  ⟨fun _ ht => absurd ht List.not_mem_nil, .nil⟩

/-- One event keeps what is known of an address. -/
theorem tracked_step (hip : ip ≠ "") (hmonotone : Monotone event.clock)
    (hnonneg : 0 ≤ event.clock 0) (hnow : now ≤ event.clock 0) (h : Tracked options ip now failed e) :
    ∃ n, Tracked options ip (event.clock n) (record failed (e.attempt options ip event))
      (e.step options event) := by
  obtain ⟨⟨n, hlockout⟩, hspaced⟩ :=
    (step_stat hip e event).lockout hmonotone hnonneg (h.1.later hnow) h.2
  exact ⟨n, hlockout, hspaced⟩

/-- The failures after a run, from those before it. -/
def recorded (options : Options) (ip : String) : List ℤ → Engine → List Event → List ℤ
  | failed, _, [] => failed
  | failed, e, event :: events =>
    recorded options ip (record failed (e.attempt options ip event)) (e.step options event) events

/-- A run keeps what is known of an address. -/
theorem tracked_run (hip : ip ≠ "") (htimed : Timed events)
    (hnow : ∀ event ∈ events, now ≤ event.clock 0) (h : Tracked options ip now failed e) :
    ∃ now', Tracked options ip now' (recorded options ip failed e events)
        (runFrom (step options) e events) ∧
      ∀ time, now ≤ time → (∀ event ∈ events, ∀ n, event.clock n ≤ time) → now' ≤ time := by
  induction events generalizing e now failed with
  | nil => exact ⟨now, h, fun _ hle _ => hle⟩
  | cons event rest ih =>
    obtain ⟨n, hstep⟩ := tracked_step hip (htimed.monotone event List.mem_cons_self)
      (htimed.nonneg event List.mem_cons_self) (hnow event List.mem_cons_self) h
    have hlater : ∀ other ∈ rest, event.clock n ≤ other.clock 0 := fun other hother =>
      (List.pairwise_cons.mp htimed.ordered).1 other hother n 0
    obtain ⟨now', htracked, hbound⟩ := ih htimed.tail hlater hstep
    refine ⟨now', htracked, fun time _ hall => ?_⟩
    rw [List.forall_mem_cons] at hall
    exact hbound time (hall.1 n) hall.2

/-- Without a success of the address its failures are added to those before. -/
theorem recorded_eq (hnone : ∀ before event after, events = before ++ event :: after →
      (runFrom (step options) e before).attempt options ip event ≠ some .succeeded) :
    recorded options ip failed e events = failed ++ failures options ip e events := by
  induction events generalizing e failed with
  | nil => exact (List.append_nil failed).symm
  | cons event rest ih =>
    rw [recorded, failures, ih fun before other after heq =>
      hnone (event :: before) other after (congrArg _ heq), ← List.append_assoc]
    have hfirst := hnone [] event rest rfl
    cases hattempt : e.attempt options ip event with
    | none => exact congrArg (· ++ _) (List.append_nil failed).symm
    | some outcome =>
      cases outcome with
      | refused => exact congrArg (· ++ _) (List.append_nil failed).symm
      | failed => rfl
      | succeeded => exact absurd hattempt hfirst

/-- A locked address stays locked through events before its lock expires. -/
theorem locked_run {stat : IpStat} (hip : ip ≠ "")
    (hstat : e.ipAttempts.lookup ip = some stat) (hlocked : stat.lockedUntil ≠ 0)
    (h : Lockout options now failed (some stat))
    (hbefore : ∀ event ∈ events, ∀ n, event.clock n < stat.lockedUntil) :
    (runFrom (step options) e events).ipAttempts.lookup ip = some stat := by
  induction events generalizing e with
  | nil => exact hstat
  | cons event rest ih =>
    rw [List.forall_mem_cons] at hbefore
    have hstep : StatStep options event.clock _ _ _ := step_stat hip e event
    rw [hstat] at hstep
    exact ih (hstep.stays h hlocked hbefore.1) hbefore.2

/-- The removal of stale addresses keeps a locked one. -/
theorem Lockout.lookup_dropStale {stat : IpStat} (h : Lockout options now' failed (some stat))
    (hstat : e.ipAttempts.lookup ip = some stat)
    (hlocked : stat.lockedUntil ≠ 0 ∧ now < stat.lockedUntil) :
    (dropStale options now e.ipAttempts).lookup ip = some stat := by
  obtain hkept | ⟨-, other, hother, hstale⟩ := Engine.lookup_dropStale options now e.ipAttempts ip
  · rw [hkept, hstat]
  · rw [hstat] at hother
    cases hother
    have heq := h.lockedUntil_eq hlocked.1
    omega

theorem Timed.left {later : List Event} (h : Timed (events ++ later)) : Timed events where
  monotone event hevent := h.monotone event (List.mem_append_left later hevent)
  nonneg event hevent := h.nonneg event (List.mem_append_left later hevent)
  ordered := (List.pairwise_append.mp h.ordered).1

theorem Timed.right {earlier : List Event} (h : Timed (earlier ++ events)) : Timed events where
  monotone event hevent := h.monotone event (List.mem_append_right earlier hevent)
  nonneg event hevent := h.nonneg event (List.mem_append_right earlier hevent)
  ordered := (List.pairwise_append.mp h.ordered).2.1

/-- What is known of an address after a run from the start, before the events that follow. -/
theorem tracked_after (hip : ip ≠ "") {later : List Event} (htimed : Timed (events ++ later)) :
    ∃ failed now, Tracked options ip now failed (run options events) ∧
      ∀ event ∈ later, now ≤ event.clock 0 := by
  obtain ⟨now, htracked, hbound⟩ := tracked_run hip htimed.left htimed.left.nonneg
    (tracked_empty options ip 0)
  refine ⟨_, now, htracked, fun event hevent => hbound _ (htimed.right.nonneg event hevent) ?_⟩
  exact fun earlier hearlier n =>
    (List.pairwise_append.mp htimed.ordered).2.2 earlier hearlier event hevent n 0

/-- While an address has no success, no half-open window of the lock duration has more failures of
it than are allowed. Until its lock expires every attempt of a locked address is refused, and the
removal of stale addresses keeps it. -/
theorem lockout_bound (options : Options) (ip : String) (hip : ip ≠ "")
    (before between : List Event) (htimed : Timed (before ++ between)) :
    ((∀ earlier event later, between = earlier ++ event :: later →
        (run options (before ++ earlier)).attempt options ip event ≠ some .succeeded) →
      ∀ start,
        ((failures options ip (run options before) between).countP fun t =>
          start ≤ t ∧ t < start + options.lock) ≤ options.attempts ∧
        ((failures options ip (run options before) between).countP fun t =>
          start < t ∧ t ≤ start + options.lock) ≤ options.attempts) ∧
    (∀ until', LockedUntil (run options before) ip until' →
      (∀ earlier event later, between = earlier ++ event :: later → event.clock 0 < until' →
        LockedUntil (run options (before ++ earlier)) ip until' ∧
          ((run options (before ++ earlier)).attempt options ip event = none ∨
            (run options (before ++ earlier)).attempt options ip event = some .refused)) ∧
      ∀ now < until', (dropStale options now (run options before).ipAttempts).lookup ip =
        (run options before).ipAttempts.lookup ip) := by
  have hrun (earlier : List Event) : run options (before ++ earlier) =
      runFrom (step options) (run options before) earlier := runFrom_append ..
  obtain ⟨failed, now, htracked, hnow⟩ := tracked_after hip htimed
  refine ⟨fun hnone start => ?_, ?_⟩
  · simp only [hrun] at hnone
    obtain ⟨_, htracked', -⟩ := tracked_run hip htimed.right hnow htracked
    have hspaced := htracked'.2
    rw [recorded_eq hnone] at hspaced
    have hclosed := hspaced.countP_le (narrow_closed_open start options.lock)
    have hopen := hspaced.countP_le (narrow_open_closed start options.lock)
    rw [List.countP_append] at hclosed hopen
    exact ⟨by omega, by omega⟩
  · rintro _ ⟨stat, hstat, hlocked, rfl⟩
    have hlockout := htracked.1
    rw [hstat] at hlockout
    refine ⟨?_, fun time htime => ?_⟩
    · rintro earlier event later rfl hbefore
      have hordered := (List.pairwise_append.mp htimed.right.ordered).2.2
      have hstays := locked_run hip hstat hlocked hlockout fun other hother n =>
        (hordered other hother event List.mem_cons_self n 0).trans_lt hbefore
      rw [hrun]
      refine ⟨⟨stat, hstays, hlocked, rfl⟩, ?_⟩
      have hstep : StatStep options event.clock _ _ _ :=
        step_stat hip (runFrom (step options) (run options before) earlier) event
      rw [hstays] at hstep
      exact hstep.refused_of_locked ⟨hlocked, hbefore⟩
    · rw [hlockout.lookup_dropStale hstat ⟨hlocked, htime⟩, hstat]

def sampleGuess (now : ℤ) : Event := ⟨.verify (.str "") "10.0.0.7", fun _ => now⟩

def strictOptions : Options where
  maxFailedAttempts := 2
  lockDurationMs := 10000
  authUrl _ _ := none

theorem timed_sampleGuesses :
    Timed ([sampleGuess 1000, sampleGuess 2000] ++ [sampleGuess 11999]) where
  monotone event hevent := by
    simp only [List.cons_append, List.nil_append, List.mem_cons, List.not_mem_nil,
      or_false] at hevent
    obtain rfl | rfl | rfl := hevent
    all_goals exact monotone_const
  nonneg event hevent := by
    simp only [List.cons_append, List.nil_append, List.mem_cons, List.not_mem_nil,
      or_false] at hevent
    obtain rfl | rfl | rfl := hevent
    all_goals decide
  ordered := by
    simp [sampleGuess]

theorem lockedUntil_sampleGuesses :
    LockedUntil (run strictOptions [sampleGuess 1000, sampleGuess 2000]) "10.0.0.7" 12000 :=
  ⟨⟨2, 12000, 2000⟩, by decide +kernel, by decide, rfl⟩

theorem lockout_bound_sampleGuesses :
    (run strictOptions ([sampleGuess 1000, sampleGuess 2000] ++ [])).attempt strictOptions
        "10.0.0.7" (sampleGuess 11999) = none ∨
      (run strictOptions ([sampleGuess 1000, sampleGuess 2000] ++ [])).attempt strictOptions
        "10.0.0.7" (sampleGuess 11999) = some .refused :=
  (((lockout_bound strictOptions "10.0.0.7" (by decide) _ _ timed_sampleGuesses).2 12000
    lockedUntil_sampleGuesses).1 [] _ [] rfl (by decide)).2

end Engine

end DshOrbit.PairingCode
