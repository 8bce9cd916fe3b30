import DshOrbit.Lib.JsMap
import DshOrbit.Lib.Run
import DshOrbit.Lib.Window
import Mathlib.Data.List.TakeWhile
import Mathlib.Order.Basic
import Mathlib.Tactic.SplitIfs

/-!
# The rate limiter of the Hub listener

`SlidingWindowLimiter` (`registry/server.mjs`) keeps for each key the instants of the requests that
it admitted. Keys whose last instant is an hour old are removed when there are too many.

## Main definitions

- `Limiter.allow` — the function of that name
- `admitted` — the instants of the admitted requests of a key
- `Lawful` — the clock does not run backwards, and a key keeps its limit and its window

## Main results

- `limiter_bound` — what is admitted, and that the clean-up has no part in it
-/

namespace DshOrbit.HubServer

open DshOrbit.Lib

/-! ### The limiter -/

/-- A call of `allow`, with the reading of the clock. -/
structure LimiterCall where
  key : String
  limit : ℕ
  windowMs : ℤ
  now : ℤ

/-- `this.windows`. -/
structure Limiter where
  windows : JsMap String (List ℤ) := ∅

namespace Limiter

/-- The instants that are kept for a key. -/
def entries (s : Limiter) (key : String) : List ℤ := (s.windows.lookup key).getD []

/-- `while (entries.length > 0 && entries[0] <= at - windowMs) entries.shift()`. -/
def shifted (s : Limiter) (call : LimiterCall) : List ℤ :=
  (s.entries call.key).dropWhile fun t => t ≤ call.now - call.windowMs

/-- The last instant of a key is an hour old. -/
def idle (now : ℤ) (list : List ℤ) : Bool := list.getLast?.all fun last => last ≤ now - 3600000

/-- The removal of idle keys from a map of more than 10000. -/
def cleanUp (now : ℤ) (s : Limiter) : Limiter :=
  if 10000 < s.windows.size then
    ⟨s.windows.entries.foldl
      (fun windows entry => if idle now entry.2 then windows.erase entry.1 else windows) s.windows⟩
  else s

def allow (s : Limiter) (call : LimiterCall) : Bool × Limiter :=
  let entries := s.shifted call
  if call.limit ≤ entries.length then (false, ⟨s.windows.insert call.key entries⟩)
  else (true, cleanUp call.now ⟨s.windows.insert call.key (entries ++ [call.now])⟩)

/-- `allow` without the clean-up. -/
def allowKeeping (s : Limiter) (call : LimiterCall) : Bool × Limiter :=
  let entries := s.shifted call
  if call.limit ≤ entries.length then (false, ⟨s.windows.insert call.key entries⟩)
  else (true, ⟨s.windows.insert call.key (entries ++ [call.now])⟩)

end Limiter

/-! ### Runs -/

section Runs

variable (allow : Limiter → LimiterCall → Bool × Limiter)

/-- What the calls are answered with. -/
def decisions : Limiter → List LimiterCall → List Bool
  | _, [] => []
  | s, call :: rest => (allow s call).1 :: decisions (allow s call).2 rest

/-- The instants of the admitted requests of a key. -/
def admitted (key : String) : Limiter → List LimiterCall → List ℤ
  | _, [] => []
  | s, call :: rest =>
    (if call.key = key ∧ (allow s call).1 = true then [call.now] else []) ++
      admitted key (allow s call).2 rest

/-- The limiter after the calls. -/
def afterCalls (s : Limiter) (calls : List LimiterCall) : Limiter :=
  runFrom (fun s call => (allow s call).2) s calls

end Runs

/-- The limit and the window of each key. -/
structure Policy where
  limit : String → ℕ
  windowMs : String → ℤ
  windowMs_le : ∀ key, windowMs key ≤ 3600000

/-- The clock does not run backwards, and a key is used with its limit and its window. -/
structure Lawful (policy : Policy) (calls : List LimiterCall) : Prop where
  ordered : (calls.map LimiterCall.now).Pairwise (· ≤ ·)
  limits : ∀ call ∈ calls, call.limit = policy.limit call.key
  windows : ∀ call ∈ calls, call.windowMs = policy.windowMs call.key

/-! ### What is kept -/

variable {s : Limiter} {call : LimiterCall} {key : String} {now : ℤ} {policy : Policy}
  {calls before after : List LimiterCall}

theorem entries_insert (list : List ℤ) :
    Limiter.entries ⟨s.windows.insert call.key list⟩ key =
      if key = call.key then list else s.entries key := by
  rw [Limiter.entries, JsMap.lookup_insert_eq]
  split_ifs
  · rfl
  · rfl

/-- The clean-up keeps the instants of a key, or removes them when they are an hour old. -/
theorem entries_cleanUp (now : ℤ) (s : Limiter) (key : String) :
    (s.cleanUp now).entries key = s.entries key ∨
      (s.cleanUp now).entries key = [] ∧ Limiter.idle now (s.entries key) = true := by
  rw [Limiter.cleanUp]
  split_ifs with hmany
  · have hlookup :=
      JsMap.lookup_foldl_erase s.windows (fun list => Limiter.idle now list = true) key
    rw [Limiter.entries, hlookup, Limiter.entries]
    cases s.windows.lookup key with
    | none => exact .inl rfl
    | some list =>
      by_cases hidle : Limiter.idle now list = true
      · rw [Option.filter_some, if_neg (by simpa using hidle)]
        exact .inr ⟨rfl, hidle⟩
      · rw [Option.filter_some, if_pos (by simpa using hidle)]
        exact .inl rfl
  · exact .inl rfl

/-- What is kept of the admitted instants of a key: a tail, and what is missing has left the
window. -/
structure Keeps (windowMs now : ℤ) (times kept : List ℤ) : Prop where
  ordered : times.Pairwise (· ≤ ·)
  past : ∀ t ∈ times, t ≤ now
  tail : ∃ gone, times = gone ++ kept ∧ ∀ t ∈ gone, t + windowMs ≤ now

variable {windowMs now' : ℤ} {times kept : List ℤ}

theorem Keeps.later (h : Keeps windowMs now times kept) (hle : now ≤ now') :
    Keeps windowMs now' times kept := by
  obtain ⟨gone, htimes, hgone⟩ := h.tail
  refine ⟨h.ordered, fun t ht => (h.past t ht).trans hle, gone, htimes, fun t ht => ?_⟩
  exact (hgone t ht).trans hle

/-- The instants that are left after the shift are those in the window. -/
theorem Keeps.dropWhile_eq (h : Keeps windowMs now times kept) :
    kept.dropWhile (fun t => t ≤ now - windowMs) = times.filter fun t => now - windowMs < t := by
  obtain ⟨gone, htimes, hgone⟩ := h.tail
  have hkept : kept.Pairwise (· ≤ ·) := by
    have hordered := h.ordered
    rw [htimes] at hordered
    exact (List.pairwise_append.mp hordered).2.1
  have hnone : gone.filter (fun t => now - windowMs < t) = [] := by
    refine List.filter_eq_nil_iff.mpr fun t ht => ?_
    have hleft := hgone t ht
    rw [decide_eq_true_eq]
    omega
  rw [dropWhile_eq_filter hkept, htimes, List.filter_append, hnone, List.nil_append]

theorem Keeps.shift (h : Keeps windowMs now times kept) :
    Keeps windowMs now times (kept.dropWhile fun t => t ≤ now - windowMs) := by
  obtain ⟨gone, htimes, hgone⟩ := h.tail
  refine ⟨h.ordered, h.past, gone ++ kept.takeWhile fun t => t ≤ now - windowMs, ?_, ?_⟩
  · rw [List.append_assoc, List.takeWhile_append_dropWhile, htimes]
  · intro t ht
    obtain ht | ht := List.mem_append.mp ht
    · exact hgone t ht
    · have hleft := List.mem_takeWhile_imp ht
      rw [decide_eq_true_eq] at hleft
      omega

theorem Keeps.push (h : Keeps windowMs now times kept) :
    Keeps windowMs now (times ++ [now]) (kept ++ [now]) := by
  obtain ⟨gone, htimes, hgone⟩ := h.tail
  refine ⟨?_, ?_, gone, by rw [htimes, List.append_assoc], hgone⟩
  · refine List.pairwise_append.mpr ⟨h.ordered, List.pairwise_singleton _ _, ?_⟩
    rintro t ht _ hlast
    rw [List.mem_singleton.mp hlast]
    exact h.past t ht
  · intro t ht
    obtain ht | ht := List.mem_append.mp ht
    · exact h.past t ht
    · exact (List.mem_singleton.mp ht).le

/-- An idle key can be removed: its instants are an hour old, and no window is longer. -/
theorem Keeps.remove (h : Keeps windowMs now times kept) (hwindow : windowMs ≤ 3600000)
    (hidle : Limiter.idle now kept = true) : Keeps windowMs now times [] := by
  refine ⟨h.ordered, h.past, times, (List.append_nil times).symm, fun t ht => ?_⟩
  obtain ⟨gone, rfl, hgone⟩ := h.tail
  obtain ht | ht := List.mem_append.mp ht
  · exact hgone t ht
  · obtain ⟨init, last, rfl⟩ := (List.eq_nil_or_concat' kept).resolve_left (List.ne_nil_of_mem ht)
    have hlast : last ≤ now - 3600000 := by
      rw [Limiter.idle, List.getLast?_concat] at hidle
      simpa using hidle
    have hle : t ≤ last := by
      obtain ht | ht := List.mem_append.mp ht
      · have hordered := (List.pairwise_append.mp h.ordered).2.1
        exact (List.pairwise_append.mp hordered).2.2 t ht last (List.mem_singleton_self last)
      · exact (List.mem_singleton.mp ht).le
    omega

/-! ### Calls -/

/-- What the limiter knows of each key. -/
def Faithful (policy : Policy) (now : ℤ) (s : Limiter) (times : String → List ℤ) : Prop :=
  ∀ key, Keeps (policy.windowMs key) now (times key) (s.entries key)

/-- The admitted instants of each key after a call. -/
def addTime (times : String → List ℤ) (call : LimiterCall) (admits : Bool) : String → List ℤ :=
  fun key => times key ++ if call.key = key ∧ admits = true then [call.now] else []

/-- The instants of a key in the window that ends with a call. -/
def recent (call : LimiterCall) (times : List ℤ) : ℕ :=
  times.countP fun t => call.now - call.windowMs < t

variable {byKey : String → List ℤ}

/-- A call is admitted when fewer than its limit lie in the window that ends with it; with the
clean-up and without, the limiter stays faithful. -/
theorem allow_faithful (h : Faithful policy now s byKey) (hle : now ≤ call.now)
    (hlimit : call.limit = policy.limit call.key)
    (hwindow : call.windowMs = policy.windowMs call.key) :
    ((s.allow call).1 = true ↔ recent call (byKey call.key) < policy.limit call.key) ∧
      (s.allowKeeping call).1 = (s.allow call).1 ∧
      Faithful policy call.now (s.allow call).2 (addTime byKey call (s.allow call).1) ∧
      Faithful policy call.now (s.allowKeeping call).2 (addTime byKey call (s.allow call).1) := by
  have hlater (key : String) := (h key).later hle
  have hkey := hlater call.key
  rw [← hwindow] at hkey
  have hshifted : s.shifted call =
      (byKey call.key).filter fun t => call.now - call.windowMs < t := hkey.dropWhile_eq
  have hrecent : recent call (byKey call.key) = (s.shifted call).length := by
    rw [hshifted, recent, List.countP_eq_length_filter]
  have hshift : Keeps (policy.windowMs call.key) call.now (byKey call.key) (s.shifted call) := by
    rw [← hwindow]
    exact hkey.shift
  rw [Limiter.allow, Limiter.allowKeeping, hrecent, ← hlimit]
  by_cases hfull : call.limit ≤ (s.shifted call).length
  · have hnext : Faithful policy call.now ⟨s.windows.insert call.key (s.shifted call)⟩
        (addTime byKey call false) := by
      intro key
      rw [entries_insert, addTime, if_neg (by simp), List.append_nil]
      split_ifs with heq
      · rw [heq]
        exact hshift
      · exact hlater key
    rw [if_pos hfull, if_pos hfull]
    exact ⟨iff_of_false (by simp) (by omega), rfl, hnext, hnext⟩
  · have hpushed : Faithful policy call.now
        ⟨s.windows.insert call.key (s.shifted call ++ [call.now])⟩ (addTime byKey call true) := by
      intro key
      rw [entries_insert, addTime]
      by_cases heq : key = call.key
      · rw [if_pos heq, if_pos ⟨heq.symm, rfl⟩, heq]
        exact hshift.push
      · rw [if_neg heq, if_neg fun hsame => heq hsame.1.symm, List.append_nil]
        exact hlater key
    rw [if_neg hfull, if_neg hfull]
    refine ⟨iff_of_true rfl (by omega), rfl, fun key => ?_, hpushed⟩
    obtain hkept | ⟨hremoved, hidle⟩ := entries_cleanUp call.now
      ⟨s.windows.insert call.key (s.shifted call ++ [call.now])⟩ key
    · rw [hkept]
      exact hpushed key
    · rw [hremoved]
      exact (hpushed key).remove (policy.windowMs_le key) hidle

/-! ### Every run -/

theorem Lawful.tail (h : Lawful policy (call :: calls)) : Lawful policy calls where
  ordered := (List.pairwise_cons.mp h.ordered).2
  limits other hother := h.limits other (List.mem_cons_of_mem call hother)
  windows other hother := h.windows other (List.mem_cons_of_mem call hother)

theorem Lawful.head_le (h : Lawful policy (call :: calls)) :
    ∀ other ∈ calls, call.now ≤ other.now :=
  fun other hother =>
    (List.pairwise_cons.mp h.ordered).1 other.now (List.mem_map_of_mem hother)

theorem addTime_append (byKey : String → List ℤ) (call : LimiterCall) (admits : Bool)
    (key : String) (rest : List ℤ) :
    byKey key ++ ((if call.key = key ∧ admits = true then [call.now] else []) ++ rest) =
      addTime byKey call admits key ++ rest := (List.append_assoc ..).symm

/-- The answers do not depend on the clean-up. -/
theorem decisions_keeping {s' : Limiter} (hlawful : Lawful policy calls)
    (hnow : ∀ call ∈ calls, now ≤ call.now) (h : Faithful policy now s byKey)
    (h' : Faithful policy now s' byKey) :
    decisions Limiter.allow s calls = decisions Limiter.allowKeeping s' calls := by
  induction calls generalizing s s' now byKey with
  | nil => rfl
  | cons call rest ih =>
    have hle := hnow call List.mem_cons_self
    have hlimit := hlawful.limits call List.mem_cons_self
    have hwindow := hlawful.windows call List.mem_cons_self
    obtain ⟨hallow, -, hnext, -⟩ := allow_faithful h hle hlimit hwindow
    obtain ⟨hallow', hkeeping, -, hnext'⟩ := allow_faithful h' hle hlimit hwindow
    have hsame : (s.allow call).1 = (s'.allow call).1 :=
      Bool.eq_iff_iff.mpr (hallow.trans hallow'.symm)
    rw [decisions, decisions, hkeeping, hsame]
    rw [hsame] at hnext
    exact congrArg _ (ih hlawful.tail hlawful.head_le hnext hnext')

/-- The limiter knows after a run what it admitted in it. -/
theorem afterCalls_faithful {bound : ℤ} (hlawful : Lawful policy calls)
    (hnow : ∀ call ∈ calls, now ≤ call.now) (hbound : ∀ call ∈ calls, call.now ≤ bound)
    (hle : now ≤ bound) (h : Faithful policy now s byKey) :
    Faithful policy bound (afterCalls Limiter.allow s calls)
      fun key => byKey key ++ admitted Limiter.allow key s calls := by
  induction calls generalizing s now byKey with
  | nil =>
    intro key
    dsimp only
    rw [admitted, List.append_nil]
    exact (h key).later hle
  | cons call rest ih =>
    obtain ⟨-, -, hnext, -⟩ := allow_faithful h (hnow call List.mem_cons_self)
      (hlawful.limits call List.mem_cons_self) (hlawful.windows call List.mem_cons_self)
    rw [List.forall_mem_cons] at hbound
    intro key
    dsimp only
    rw [admitted, addTime_append]
    exact ih hlawful.tail hlawful.head_le hbound.2 hbound.1 hnext key

/-- The admitted instants of a key are spaced by its limit. -/
theorem admitted_spaced (hlawful : Lawful policy calls) (hnow : ∀ call ∈ calls, now ≤ call.now)
    (h : Faithful policy now s byKey)
    (hspaced : Spaced (policy.limit key) (policy.windowMs key) (byKey key)) :
    Spaced (policy.limit key) (policy.windowMs key)
      (byKey key ++ admitted Limiter.allow key s calls) := by
  induction calls generalizing s now byKey with
  | nil => simpa [admitted] using hspaced
  | cons call rest ih =>
    have hwindow := hlawful.windows call List.mem_cons_self
    obtain ⟨hallow, -, hnext, -⟩ := allow_faithful h (hnow call List.mem_cons_self)
      (hlawful.limits call List.mem_cons_self) hwindow
    rw [admitted, addTime_append]
    refine ih hlawful.tail hlawful.head_le hnext ?_
    rw [addTime]
    split_ifs with hadmitted
    · obtain ⟨rfl, hadmits⟩ := hadmitted
      refine hspaced.snoc ?_
      rw [← hwindow]
      exact hallow.mp hadmits
    · rw [List.append_nil]
      exact hspaced

theorem faithful_empty (policy : Policy) (now : ℤ) : Faithful policy now {} fun _ => [] := by
  intro key
  refine ⟨List.Pairwise.nil, fun t ht => absurd ht List.not_mem_nil, [], rfl, fun t ht => ?_⟩
  exact absurd ht List.not_mem_nil

/-- No reading of the clock precedes this one. -/
theorem exists_le_now (hlawful : Lawful policy calls) : ∃ now, ∀ call ∈ calls, now ≤ call.now := by
  cases calls with
  | nil => exact ⟨0, fun _ hmem => absurd hmem List.not_mem_nil⟩
  | cons call rest =>
    refine ⟨call.now, fun other hother => ?_⟩
    obtain rfl | hother := List.mem_cons.mp hother
    · exact le_rfl
    · exact hlawful.head_le other hother

theorem Lawful.left (h : Lawful policy (before ++ after)) : Lawful policy before where
  ordered := by
    have hordered := h.ordered
    rw [List.map_append] at hordered
    exact (List.pairwise_append.mp hordered).1
  limits call hcall := h.limits call (List.mem_append_left after hcall)
  windows call hcall := h.windows call (List.mem_append_left after hcall)

/-- In every run at non-decreasing times with a fixed limit and window of each key no half-open
window holds more admitted requests of a key than its limit, a request is admitted exactly when
fewer lie in the window that ends with it, and the answers are those of a limiter that never
removes a key. -/
theorem limiter_bound (policy : Policy) (calls : List LimiterCall) (hlawful : Lawful policy calls) :
    (∀ key start,
      ((admitted Limiter.allow key {} calls).countP fun t =>
        start ≤ t ∧ t < start + policy.windowMs key) ≤ policy.limit key ∧
      ((admitted Limiter.allow key {} calls).countP fun t =>
        start < t ∧ t ≤ start + policy.windowMs key) ≤ policy.limit key) ∧
    (∀ before call after, calls = before ++ call :: after →
      (((afterCalls Limiter.allow {} before).allow call).1 = true ↔
        ((admitted Limiter.allow call.key {} before).countP fun t =>
          call.now - policy.windowMs call.key < t ∧ t ≤ call.now) < policy.limit call.key)) ∧
    decisions Limiter.allow {} calls = decisions Limiter.allowKeeping {} calls := by
  obtain ⟨now, hnow⟩ := exists_le_now hlawful
  refine ⟨fun key start => ?_, ?_, ?_⟩
  · have hspaced := @admitted_spaced _ key now policy calls _ hlawful hnow
      (faithful_empty policy now) .nil
    rw [List.nil_append] at hspaced
    exact ⟨hspaced.countP_le (narrow_closed_open start _),
      hspaced.countP_le (narrow_open_closed start _)⟩
  · rintro before call after rfl
    have hcall : call ∈ before ++ call :: after := List.mem_append_right _ List.mem_cons_self
    have hbefore : ∀ earlier ∈ before, earlier.now ≤ call.now := by
      intro earlier hearlier
      have hordered := hlawful.ordered
      rw [List.map_append] at hordered
      exact (List.pairwise_append.mp hordered).2.2 _ (List.mem_map_of_mem hearlier) _
        (List.mem_map_of_mem List.mem_cons_self)
    have hfaithful := afterCalls_faithful hlawful.left
      (fun earlier hearlier => hnow earlier (List.mem_append_left _ hearlier)) hbefore
      (hnow call hcall) (faithful_empty policy now)
    have hwindow := hlawful.windows call hcall
    obtain ⟨hallow, -⟩ := allow_faithful hfaithful le_rfl (hlawful.limits call hcall) hwindow
    rw [hallow, recent, List.nil_append, hwindow]
    refine iff_of_eq (congrArg (· < _) (List.countP_congr fun t ht => ?_))
    have hpast := (hfaithful call.key).past t ht
    rw [decide_eq_true_eq, decide_eq_true_eq]
    omega
  · exact decisions_keeping hlawful hnow (faithful_empty policy now) (faithful_empty policy now)

def heartbeatPolicy : Policy where
  limit _ := 3
  windowMs _ := 1000
  windowMs_le _ := by decide

def heartbeats : List LimiterCall :=
  [0, 400, 800, 999, 1000].map fun now => ⟨"heartbeat:node_1", 3, 1000, now⟩

theorem limiter_bound_heartbeats :
    decisions Limiter.allow {} heartbeats = [true, true, true, false, true] ∧
      decisions Limiter.allow {} heartbeats = decisions Limiter.allowKeeping {} heartbeats := by
  refine ⟨by decide, (limiter_bound heartbeatPolicy heartbeats ⟨by decide, ?_, ?_⟩).2.2⟩
  · intro call hcall
    obtain ⟨now, -, rfl⟩ := List.mem_map.mp hcall
    rfl
  · intro call hcall
    obtain ⟨now, -, rfl⟩ := List.mem_map.mp hcall
    rfl

end DshOrbit.HubServer
