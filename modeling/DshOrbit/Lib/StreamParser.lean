import Mathlib.Data.List.Basic

/-!
# Incremental stream parsers

An incremental parser looks at the unparsed front of a byte stream and either
waits for more, fails for good, or consumes a nonempty part of it. This file
gives the parser loop over received chunks and the rules that hold of every
such parser: the events do not depend on how the stream was cut into chunks,
invariants of one decision are invariants of every run, and a codec whose
frames are each one decision round-trips.

## Main definitions

- `Verdict` — what the parser decides at the front of the buffer
- `StreamParser` — a decision function that only looks at the front
- `StreamParser.feed` — the loop run on one received chunk
- `StreamParser.feedAll` — the loop run on a list of chunks
- `StreamParser.loop` — the loop run on a whole buffer
-/

namespace DshOrbit.Lib

universe u v w

/-- One decision at the front of the unparsed buffer. -/
inductive Verdict (σ : Type u) (β : Type v) (ε : Type w)
  /-- The front is incomplete: keep the buffer and return. -/
  | wait
  /-- The stream is rejected; nothing is parsed after this. -/
  | fail (event : ε)
  /-- A front part was consumed, leaving `rest`. -/
  | advance (control : σ) (events : List ε) (rest : List β)

/-- A parser whose decision is settled by the front of the buffer: more bytes
behind a decided front never change it. -/
structure StreamParser (σ : Type u) (β : Type v) (ε : Type w) where
  verdict : σ → List β → Verdict σ β ε
  verdict_nil : ∀ s, verdict s [] = .wait
  advance_shorter : ∀ {s buf s' events rest},
    verdict s buf = .advance s' events rest → rest.length < buf.length
  advance_append : ∀ {s buf s' events rest}, verdict s buf = .advance s' events rest →
    ∀ more, verdict s (buf ++ more) = .advance s' events (rest ++ more)
  fail_append : ∀ {s buf event}, verdict s buf = .fail event →
    ∀ more, verdict s (buf ++ more) = .fail event

/-- What the parser keeps between two chunks. -/
structure StreamState (σ : Type u) (β : Type v) where
  control : σ
  buffer : List β
  failed : Bool

namespace StreamParser

variable {σ : Type u} {β : Type v} {ε : Type w}

/-- The parser loop with an explicit bound on its iterations. -/
def drain (p : StreamParser σ β ε) : ℕ → σ → List β → StreamState σ β × List ε
  | 0, s, buf => (⟨s, buf, false⟩, [])
  | n + 1, s, buf =>
    match p.verdict s buf with
    | .wait => (⟨s, buf, false⟩, [])
    | .fail event => (⟨s, buf, true⟩, [event])
    | .advance s' events rest =>
      let r := p.drain n s' rest
      (r.1, events ++ r.2)

/-- Append one received chunk to the buffer and run the loop. Every iteration
that goes on shortens the buffer, so its length bounds them. -/
def feed (p : StreamParser σ β ε) (st : StreamState σ β) (chunk : List β) : StreamState σ β × List ε :=
  if st.failed then (st, [])
  else
    let buffer := st.buffer ++ chunk
    p.drain (buffer.length + 1) st.control buffer

/-- Feed the chunks of a stream one after the other. -/
def feedAll (p : StreamParser σ β ε) : StreamState σ β → List (List β) → StreamState σ β × List ε
  | st, [] => (st, [])
  | st, chunk :: chunks =>
    let r := p.feed st chunk
    let t := p.feedAll r.1 chunks
    (t.1, r.2 ++ t.2)

/-- Nothing more can be parsed from the bytes that have arrived. -/
def Settled (p : StreamParser σ β ε) (st : StreamState σ β) : Prop :=
  st.failed = true ∨ p.verdict st.control st.buffer = .wait

/-! ### The loop -/

/-- One iteration of the loop. -/
theorem drain_succ (p : StreamParser σ β ε) (n : ℕ) (s : σ) (buf : List β) :
    p.drain (n + 1) s buf =
      match p.verdict s buf with
      | .wait => (⟨s, buf, false⟩, [])
      | .fail event => (⟨s, buf, true⟩, [event])
      | .advance s' events rest =>
        ((p.drain n s' rest).1, events ++ (p.drain n s' rest).2) := rfl

/-- Fuel beyond the buffer's length changes nothing. -/
theorem drain_fuel (p : StreamParser σ β ε) {n m : ℕ} {s : σ} {buf : List β}
    (hn : buf.length < n) (hm : buf.length < m) : p.drain n s buf = p.drain m s buf := by
  induction n generalizing m s buf with
  | zero => omega
  | succ n ih =>
    obtain ⟨m, rfl⟩ : ∃ k, m = k + 1 := ⟨m - 1, by omega⟩
    rw [drain_succ, drain_succ]
    cases hv : p.verdict s buf with
    | wait => rfl
    | fail event => rfl
    | advance s' events rest =>
      have hlt := p.advance_shorter hv
      simp only
      rw [ih (m := m) (by omega) (by omega)]

/-- The loop with as many iterations as a buffer can need. -/
def loop (p : StreamParser σ β ε) (s : σ) (buf : List β) : StreamState σ β × List ε :=
  p.drain (buf.length + 1) s buf

theorem loop_wait (p : StreamParser σ β ε) {s : σ} {buf : List β} (h : p.verdict s buf = .wait) :
    p.loop s buf = (⟨s, buf, false⟩, []) := by
  rw [loop, drain_succ, h]

theorem loop_fail (p : StreamParser σ β ε) {s : σ} {buf : List β} {event : ε}
    (h : p.verdict s buf = .fail event) : p.loop s buf = (⟨s, buf, true⟩, [event]) := by
  rw [loop, drain_succ, h]

theorem loop_advance (p : StreamParser σ β ε) {s s' : σ} {buf rest : List β} {events : List ε}
    (h : p.verdict s buf = .advance s' events rest) :
    p.loop s buf = ((p.loop s' rest).1, events ++ (p.loop s' rest).2) := by
  rw [loop, drain_succ, h, loop]
  dsimp only
  rw [p.drain_fuel (p.advance_shorter h) (Nat.lt_succ_self _)]

theorem feed_eq_loop (p : StreamParser σ β ε) (s : σ) (chunk : List β) :
    p.feed ⟨s, [], false⟩ chunk = p.loop s chunk := rfl

/-- Induction along the iterations of the loop. -/
theorem loop_induct (p : StreamParser σ β ε) {motive : σ → List β → Prop}
    (wait : ∀ s buf, p.verdict s buf = .wait → motive s buf)
    (fail : ∀ s buf event, p.verdict s buf = .fail event → motive s buf)
    (advance : ∀ s buf s' events rest, p.verdict s buf = .advance s' events rest →
      motive s' rest → motive s buf) (s : σ) (buf : List β) : motive s buf := by
  induction hlength : buf.length using Nat.strongRecOn generalizing s buf with
  | ind n ih =>
    cases hv : p.verdict s buf with
    | wait => exact wait s buf hv
    | fail event => exact fail s buf event hv
    | advance s' events rest =>
      exact advance s buf s' events rest hv
        (ih rest.length (hlength ▸ p.advance_shorter hv) s' rest rfl)

/-- The loop stops only when the parser waits or has failed. -/
theorem drain_settled (p : StreamParser σ β ε) {n : ℕ} {s : σ} {buf : List β}
    (hn : buf.length < n) : p.Settled (p.drain n s buf).1 := by
  induction n generalizing s buf with
  | zero => omega
  | succ n ih =>
    rw [drain_succ]
    cases hv : p.verdict s buf with
    | wait => exact Or.inr hv
    | fail event => exact Or.inl rfl
    | advance s' events rest =>
      have hlt := p.advance_shorter hv
      exact ih (by omega)

theorem feed_settled (p : StreamParser σ β ε) (st : StreamState σ β) (chunk : List β) :
    p.Settled (p.feed st chunk).1 := by
  unfold feed
  split
  · next h => exact Or.inl h
  · exact p.drain_settled (Nat.lt_succ_self _)

/-- A failed stream swallows every further chunk. -/
theorem feed_of_failed (p : StreamParser σ β ε) {st : StreamState σ β} (h : st.failed = true)
    (chunk : List β) : p.feed st chunk = (st, []) := by
  simp [feed, h]

theorem feedAll_of_failed (p : StreamParser σ β ε) {st : StreamState σ β} (h : st.failed = true)
    (chunks : List (List β)) : p.feedAll st chunks = (st, []) := by
  induction chunks with
  | nil => rfl
  | cons chunk chunks ih => simp [feedAll, p.feed_of_failed h, ih]

/-- Feeding nothing to a settled stream is no step. -/
theorem feed_nil (p : StreamParser σ β ε) {st : StreamState σ β} (h : p.Settled st) :
    p.feed st [] = (st, []) := by
  obtain ⟨s, buf, failed⟩ := st
  rcases h with hf | hw
  · exact p.feed_of_failed hf []
  · cases failed with
    | true => exact p.feed_of_failed rfl []
    | false =>
      simp only at hw
      simp [feed, drain_succ, hw]

/-! ### Chunking -/

/-- Two streams nobody can tell apart: both failed, or equal. -/
def Agree (r t : StreamState σ β) : Prop :=
  r.failed = t.failed ∧ (t.failed = false → r = t)

theorem Agree.refl (r : StreamState σ β) : Agree r r := ⟨rfl, fun _ => rfl⟩

theorem Agree.trans {r t q : StreamState σ β} (h₁ : Agree r t) (h₂ : Agree t q) : Agree r q :=
  ⟨h₁.1.trans h₂.1, fun hq => (h₁.2 (h₂.1.trans hq)).trans (h₂.2 hq)⟩

/-- Agreeing streams stay so, with the same events. -/
theorem Agree.feed (p : StreamParser σ β ε) {r t : StreamState σ β} (h : Agree r t)
    (chunk : List β) :
    Agree (p.feed r chunk).1 (p.feed t chunk).1 ∧ (p.feed r chunk).2 = (p.feed t chunk).2 := by
  cases ht : t.failed with
  | false => rw [h.2 ht]; exact ⟨Agree.refl _, rfl⟩
  | true =>
    rw [p.feed_of_failed ht, p.feed_of_failed (h.1.trans ht)]
    exact ⟨h, rfl⟩

theorem Agree.feedAll (p : StreamParser σ β ε) {r t : StreamState σ β} (h : Agree r t)
    (chunks : List (List β)) :
    Agree (p.feedAll r chunks).1 (p.feedAll t chunks).1 ∧
      (p.feedAll r chunks).2 = (p.feedAll t chunks).2 := by
  induction chunks generalizing r t with
  | nil => exact ⟨h, rfl⟩
  | cons chunk chunks ih =>
    obtain ⟨hs, he⟩ := h.feed p chunk
    obtain ⟨hs', he'⟩ := ih hs
    exact ⟨hs', by simp only [StreamParser.feedAll, he, he']⟩

/-- Bytes that arrive behind the buffer are parsed after it: running the loop
on both is running it on the first part and feeding the second. -/
theorem drain_append (p : StreamParser σ β ε) {n : ℕ} {s : σ} {buf more : List β}
    (hn : (buf ++ more).length < n) :
    let r := p.drain n s buf
    Agree (p.drain n s (buf ++ more)).1 (p.feed r.1 more).1 ∧
      (p.drain n s (buf ++ more)).2 = r.2 ++ (p.feed r.1 more).2 := by
  induction n generalizing s buf with
  | zero => omega
  | succ n ih =>
    simp only [drain_succ]
    cases hv : p.verdict s buf with
    | wait =>
      simp only [feed, Bool.false_eq_true, if_false, List.nil_append]
      have hfuel := p.drain_fuel (s := s) hn (Nat.lt_succ_self (buf ++ more).length)
      simp only [drain_succ] at hfuel
      rw [hfuel]
      exact ⟨Agree.refl _, rfl⟩
    | fail event =>
      simp only [p.fail_append hv, feed, if_true, List.append_nil]
      exact ⟨⟨rfl, fun h => by simp at h⟩, trivial⟩
    | advance s' events rest =>
      have hlt := p.advance_shorter hv
      simp only [p.advance_append hv]
      have hlen : (rest ++ more).length < n := by
        simp only [List.length_append] at hn ⊢
        omega
      obtain ⟨hs, he⟩ := ih (s := s') hlen
      exact ⟨hs, by rw [he, List.append_assoc]⟩

/-- Feeding two chunks is feeding their concatenation. -/
theorem feed_append (p : StreamParser σ β ε) (st : StreamState σ β) (a b : List β) :
    Agree (p.feed st (a ++ b)).1 (p.feed (p.feed st a).1 b).1 ∧
      (p.feed st (a ++ b)).2 = (p.feed st a).2 ++ (p.feed (p.feed st a).1 b).2 := by
  cases hf : st.failed with
  | true => simp [p.feed_of_failed hf, Agree.refl]
  | false =>
    have hbound : ((st.buffer ++ a) ++ b).length < (st.buffer ++ (a ++ b)).length + 1 := by
      simp
    have h := p.drain_append (s := st.control) hbound
    have hfuel : p.drain ((st.buffer ++ (a ++ b)).length + 1) st.control (st.buffer ++ a) =
        (p.feed st a) := by
      simp only [feed, hf, Bool.false_eq_true, if_false]
      exact p.drain_fuel (by simp only [List.length_append]; omega) (Nat.lt_succ_self _)
    simp only [hfuel] at h
    simpa only [feed, hf, Bool.false_eq_true, if_false, List.append_assoc] using h

/-- Feeding a list of chunks is feeding the stream they are cut from. -/
theorem feedAll_flatten (p : StreamParser σ β ε) {st : StreamState σ β} (h : p.Settled st)
    (chunks : List (List β)) :
    Agree (p.feed st chunks.flatten).1 (p.feedAll st chunks).1 ∧
      (p.feed st chunks.flatten).2 = (p.feedAll st chunks).2 := by
  induction chunks generalizing st with
  | nil => simp [feedAll, p.feed_nil h, Agree.refl]
  | cons chunk chunks ih =>
    obtain ⟨hs, he⟩ := p.feed_append st chunk chunks.flatten
    obtain ⟨hs', he'⟩ := ih (p.feed_settled st chunk)
    simp only [List.flatten_cons, feedAll]
    exact ⟨hs.trans hs', by rw [he, he']⟩

theorem feedAll_settled (p : StreamParser σ β ε) {st : StreamState σ β} (h : p.Settled st)
    (chunks : List (List β)) : p.Settled (p.feedAll st chunks).1 := by
  induction chunks generalizing st with
  | nil => exact h
  | cons chunk chunks ih => exact ih (p.feed_settled st chunk)

theorem feedAll_append (p : StreamParser σ β ε) (st : StreamState σ β) (as bs : List (List β)) :
    p.feedAll st (as ++ bs) =
      ((p.feedAll (p.feedAll st as).1 bs).1,
        (p.feedAll st as).2 ++ (p.feedAll (p.feedAll st as).1 bs).2) := by
  induction as generalizing st with
  | nil => simp [feedAll]
  | cons a as ih => simp [feedAll, ih, List.append_assoc]

/-! ### Invariants of a run -/

/-- What one decision preserves, the loop preserves: `I` on the control state
until the stream fails, `P` on every event. -/
theorem drain_invariant (p : StreamParser σ β ε) {I : σ → Prop} {P : ε → Prop}
    (hadvance : ∀ {s buf s' events rest}, I s → p.verdict s buf = .advance s' events rest →
      I s' ∧ ∀ e ∈ events, P e)
    (hfail : ∀ {s buf event}, I s → p.verdict s buf = .fail event → P event)
    (n : ℕ) {s : σ} (buf : List β) (hs : I s) :
    I (p.drain n s buf).1.control ∧ ∀ e ∈ (p.drain n s buf).2, P e := by
  induction n generalizing s buf with
  | zero => exact ⟨hs, List.forall_mem_nil _⟩
  | succ n ih =>
    rw [drain_succ]
    cases hv : p.verdict s buf with
    | wait => exact ⟨hs, by simp⟩
    | fail event => exact ⟨hs, by simpa using hfail hs hv⟩
    | advance s' events rest =>
      obtain ⟨hs', hevents⟩ := hadvance hs hv
      obtain ⟨hI, hP⟩ := ih rest hs'
      refine ⟨hI, fun e he => ?_⟩
      rcases List.mem_append.mp he with he | he
      · exact hevents e he
      · exact hP e he

theorem feedAll_invariant (p : StreamParser σ β ε) {I : σ → Prop} {P : ε → Prop}
    (hadvance : ∀ {s buf s' events rest}, I s → p.verdict s buf = .advance s' events rest →
      I s' ∧ ∀ e ∈ events, P e)
    (hfail : ∀ {s buf event}, I s → p.verdict s buf = .fail event → P event)
    {st : StreamState σ β} (chunks : List (List β)) (hst : I st.control) :
    I (p.feedAll st chunks).1.control ∧ ∀ e ∈ (p.feedAll st chunks).2, P e := by
  induction chunks generalizing st with
  | nil => exact ⟨hst, by simp [feedAll]⟩
  | cons chunk chunks ih =>
    have hfeed : I (p.feed st chunk).1.control ∧ ∀ e ∈ (p.feed st chunk).2, P e := by
      unfold feed
      split
      · exact ⟨hst, by simp⟩
      · exact p.drain_invariant hadvance hfail _ _ hst
    obtain ⟨hI, hP⟩ := ih hfeed.1
    refine ⟨hI, fun e he => ?_⟩
    rcases List.mem_append.mp he with he | he
    · exact hfeed.2 e he
    · exact hP e he

/-! ### Failure -/

/-- A failure event can only be the last one, and only of a failed stream. -/
def FailsLast (F : ε → Prop) (r : StreamState σ β × List ε) : Prop :=
  (r.1.failed = false → ∀ e ∈ r.2, ¬F e) ∧ ∀ e ∈ r.2.dropLast, ¬F e

theorem FailsLast.append {F : ε → Prop} {r t : StreamState σ β × List ε}
    (hr : FailsLast F r) (ht : FailsLast F t) (hstop : r.1.failed = true → t.2 = [] ∧ t.1 = r.1) :
    FailsLast F (t.1, r.2 ++ t.2) := by
  cases hf : r.1.failed with
  | true =>
    obtain ⟨hnil, hstate⟩ := hstop hf
    simpa [FailsLast, hnil, hstate] using hr
  | false =>
    refine ⟨fun h e he => ?_, fun e he => ?_⟩
    · rcases List.mem_append.mp he with he | he
      · exact hr.1 hf e he
      · exact ht.1 h e he
    · cases hnil : t.2 with
      | nil =>
        simp only [hnil, List.append_nil] at he
        exact hr.2 e he
      | cons x xs =>
        rw [List.dropLast_append_of_ne_nil (by simp [hnil])] at he
        rcases List.mem_append.mp he with he | he
        · exact hr.1 hf e he
        · exact ht.2 e he

theorem drain_failsLast (p : StreamParser σ β ε) {F : ε → Prop}
    (hadvance : ∀ {s buf s' events rest}, p.verdict s buf = .advance s' events rest →
      ∀ e ∈ events, ¬F e)
    (n : ℕ) (s : σ) (buf : List β) : FailsLast F (p.drain n s buf) := by
  induction n generalizing s buf with
  | zero => exact ⟨fun _ => List.forall_mem_nil _, List.forall_mem_nil _⟩
  | succ n ih =>
    rw [drain_succ]
    cases hv : p.verdict s buf with
    | wait => simp [FailsLast]
    | fail event => simp [FailsLast]
    | advance s' events rest =>
      have hevents : FailsLast F ((⟨s', rest, false⟩ : StreamState σ β), events) :=
        ⟨fun _ => hadvance hv, fun e he => hadvance hv e (List.dropLast_subset _ he)⟩
      exact hevents.append (ih s' rest) (by simp)

/-- Nothing is delivered after a failure, in the same chunk or a later one. -/
theorem feedAll_failsLast (p : StreamParser σ β ε) {F : ε → Prop}
    (hadvance : ∀ {s buf s' events rest}, p.verdict s buf = .advance s' events rest →
      ∀ e ∈ events, ¬F e)
    (st : StreamState σ β) (chunks : List (List β)) : FailsLast F (p.feedAll st chunks) := by
  induction chunks generalizing st with
  | nil => simp [feedAll, FailsLast]
  | cons chunk chunks ih =>
    have hfeed : FailsLast F (p.feed st chunk) := by
      unfold feed
      split
      · simp [FailsLast]
      · exact p.drain_failsLast hadvance _ _ _
    exact hfeed.append (ih _) fun h => by simp [p.feedAll_of_failed h]

/-! ### Codecs -/

/-- If every encoded message is consumed by one decision that leaves the
control state alone, the loop delivers exactly the messages. -/
theorem drain_flatMap (p : StreamParser σ β ε) {μ : Type*} {s : σ} {enc : μ → List β}
    {event : μ → ε} {n : ℕ} {msgs : List μ}
    (hmsg : ∀ m ∈ msgs, ∀ rest, p.verdict s (enc m ++ rest) = .advance s [event m] rest)
    (hn : (msgs.flatMap enc).length < n) :
    p.drain n s (msgs.flatMap enc) = (⟨s, [], false⟩, msgs.map event) := by
  induction msgs generalizing n with
  | nil =>
    obtain ⟨n, rfl⟩ : ∃ k, n = k + 1 := ⟨n - 1, by omega⟩
    rw [List.flatMap_nil, drain_succ, p.verdict_nil]
    rfl
  | cons m msgs ih =>
    obtain ⟨n, rfl⟩ : ∃ k, n = k + 1 := ⟨n - 1, by omega⟩
    have hv := hmsg m (by simp) (msgs.flatMap enc)
    have hlt := p.advance_shorter hv
    simp only [List.flatMap_cons, List.length_append] at hn hlt ⊢
    simp only [drain_succ, hv]
    rw [ih (fun m' hm' => hmsg m' (by simp [hm'])) (by omega)]
    simp

theorem feed_flatMap (p : StreamParser σ β ε) {μ : Type*} {s : σ} {enc : μ → List β}
    {event : μ → ε} {msgs : List μ}
    (hmsg : ∀ m ∈ msgs, ∀ rest, p.verdict s (enc m ++ rest) = .advance s [event m] rest) :
    p.feed ⟨s, [], false⟩ (msgs.flatMap enc) = (⟨s, [], false⟩, msgs.map event) := by
  simp only [feed, Bool.false_eq_true, if_false, List.nil_append]
  exact p.drain_flatMap hmsg (Nat.lt_succ_self _)

end StreamParser

end DshOrbit.Lib
