import DshOrbit.ReverseNode.Channel

/-!
# The request body on the node

The frames of one `open` in HTTP mode on their way to the local request
(`node/reverse-channels.mjs`): the queue, the pump that is entered from new frames and from the
drain of the request, and the one `end`. The life cycle of flows and channels is in
`ReverseNode.Channel`; here are the calls on the request, and what waits for them.

## Main definitions

- `RequestCall` — what is called on the local request
- `RequestBody` — the request, and the queue of its flow
- `pump`, `abortRequestQueue`, `onRequestBody`, `onRequestEnd`, `abortFlow` — the functions of that
  name
- `RequestBody.step` — what can happen, in any order
- `RequestBody.Faithful` — the request is sent what the Hub has sent

## Main results

- `written_run` — every run keeps it whose frames come before the end and fit under the cap
-/

namespace DshOrbit.ReverseNode

open DshOrbit.Lib DshOrbit.ReverseWs

inductive RequestCall
  | write (bytes : Buffer)
  | finish
  deriving DecidableEq

structure RequestBody where
  /-- What was called on the request, and what its buffer holds. -/
  calls : List RequestCall := []
  writableLength : ℕ := 0
  /-- How much leaves the buffer at once with each write. -/
  flushed : ℕ → ℕ := fun _ => 0
  requestEnded : Bool := false
  pendingRequestBytes : List Buffer := []
  pendingRequestBytesTotal : ℕ := 0
  requestPumpWaiting : Bool := false
  /-- The pump listens for the drain of the request. -/
  drainListener : Bool := false
  requestEndPending : Bool := false
  requestEndedSent : Bool := false
  tearingDown : Bool := false
  /-- The flow is the one of its channel, which has its two handlers. -/
  current : Bool := true
  /-- The frames that the handlers were given. -/
  frames : List Buffer := []

namespace RequestBody

/-- `closeChannel`, and the end of an HTTP flow, take the handlers away. -/
def release (s : RequestBody) : RequestBody := { s with current := false }

def abortFlow (s : RequestBody) : RequestBody :=
  if s.tearingDown then s else { s with tearingDown := true }.release

def write (s : RequestBody) (bytes : Buffer) : RequestBody :=
  { s with
    calls := s.calls ++ [.write bytes]
    writableLength := s.writableLength + bytes.length - s.flushed s.calls.length }

def finish (s : RequestBody) : RequestBody :=
  { s with requestEndedSent := true, calls := s.calls ++ [.finish] }

/-- The loop of `pump`, over the queued bytes. -/
def pumpLoop : List Buffer → RequestBody → RequestBody
  | [], s =>
    let s : RequestBody := { s with pendingRequestBytes := [], requestPumpWaiting := false }
    if s.requestEndPending && !s.requestEndedSent then s.finish else s
  | bytes :: rest, s =>
    if channelSoftMarkBytes ≤ s.writableLength then
      { s with pendingRequestBytes := bytes :: rest, drainListener := true }
    else
      let s : RequestBody :=
        { s with
          pendingRequestBytes := rest
          pendingRequestBytesTotal := s.pendingRequestBytesTotal - bytes.length }
      let s := s.write bytes
      if channelHardCapBytes < s.writableLength then s.abortFlow else pumpLoop rest s

def pump (s : RequestBody) : RequestBody :=
  if s.tearingDown || !s.current then { s with requestPumpWaiting := false }
  else pumpLoop s.pendingRequestBytes s

/-- `abortRequestQueue`, which starts the pump. -/
def abortRequestQueue (s : RequestBody) : RequestBody :=
  if s.requestPumpWaiting then s else { s with requestPumpWaiting := true }.pump

def onRequestBody (s : RequestBody) (bytes : Buffer) : RequestBody :=
  let s : RequestBody :=
    { s with
      frames := s.frames ++ [bytes]
      pendingRequestBytesTotal := s.pendingRequestBytesTotal + bytes.length }
  if channelHardCapBytes < s.pendingRequestBytesTotal then s.abortFlow
  else { s with pendingRequestBytes := s.pendingRequestBytes ++ [bytes] }.abortRequestQueue

def onRequestEnd (s : RequestBody) : RequestBody :=
  if s.requestEnded then s
  else
    let s : RequestBody := { s with requestEnded := true }
    if s.pendingRequestBytes ≠ [] ∨ s.requestPumpWaiting then
      { s with requestEndPending := true }.abortRequestQueue
    else if !s.requestEndedSent then s.finish
    else s

/-- The check of the interval that watches the queues, with the queue of the channel and whether
there was no progress for the stall timeout. -/
def checkD7 (s : RequestBody) (channelQueued : ℕ) (stalled : Bool) : RequestBody :=
  if s.tearingDown then s
  else
    let upstreamQueued := s.writableLength + s.pendingRequestBytesTotal
    if channelHardCapBytes < channelQueued ∨ channelHardCapBytes < upstreamQueued then s.abortFlow
    else if (channelSoftMarkBytes ≤ channelQueued ∨ channelSoftMarkBytes ≤ upstreamQueued) ∧ stalled
      then s.abortFlow
    else s

end RequestBody

/-- What happens to a request: a frame or the end of it from the Hub, the sending of bytes that the
request holds, its drain, a tick of the D7 interval, an abort of the node, and the end of the flow
or of its channel. -/
inductive RequestEvent
  | frame (bytes : Buffer)
  | requestEnd
  | flush (n : ℕ)
  | drain
  | d7Tick (channelQueued : ℕ) (stalled : Bool)
  | abort
  | response
  | channelClose

namespace RequestBody

def step (s : RequestBody) : RequestEvent → RequestBody
  | .frame bytes => if !s.current then s else s.onRequestBody bytes
  | .requestEnd => if !s.current then s else s.onRequestEnd
  | .flush n => { s with writableLength := s.writableLength - n }
  | .drain => if !s.drainListener then s else { s with drainListener := false }.pump
  | .d7Tick channelQueued stalled => s.checkD7 channelQueued stalled
  | .abort => s.abortFlow
  | .response => if s.tearingDown then s else { s with tearingDown := true }.release
  | .channelClose => s.release

def run (flushed : ℕ → ℕ) (events : List RequestEvent) : RequestBody :=
  runFrom step { flushed } events

/-- The bytes that were written to the request. -/
def written (s : RequestBody) : List Buffer :=
  s.calls.filterMap fun
    | .write bytes => some bytes
    | .finish => none

/-- Nothing has ended the flow. -/
def live (s : RequestBody) : Bool := !s.tearingDown && s.current

/-- The request is sent what the Hub has sent. -/
structure Faithful (s : RequestBody) : Prop where
  /-- In order, and with nothing left out but what is queued. -/
  bytes : s.live = true → s.written ++ s.pendingRequestBytes = s.frames
  start : s.written <+: s.frames
  /-- One `end`, behind all bytes. -/
  calls : s.calls = s.written.map .write ++ if s.requestEndedSent then [.finish] else []
  ended : s.requestEndedSent = true → s.written = s.frames ∧ s.requestEnded = true
  sent : s.live = true → s.requestEnded = true → s.requestPumpWaiting = false →
    s.requestEndedSent = true
  quiet : s.live = false → ∀ event, (s.step event).calls = s.calls
  /-- What is queued for the request and in it. -/
  capped : s.live = true → s.writableLength + s.pendingRequestBytesTotal ≤ channelHardCapBytes

/-- A frame comes before the request was ended, and what is queued stays under the cap with it,
unless the queue of the flow alone goes over it. -/
def Clean (s : RequestBody) : RequestEvent → Prop
  | .frame bytes => s.live = true →
    s.requestEndedSent = false ∧
      (s.writableLength + (s.pendingRequestBytesTotal + bytes.length) ≤ channelHardCapBytes ∨
        channelHardCapBytes < s.pendingRequestBytesTotal + bytes.length)
  | _ => True

/-! ### What every step keeps -/

def byteCount (queue : List Buffer) : ℕ := (queue.map List.length).sum

/-- The bookkeeping of a flow, with the bytes that are still to be written. -/
structure Books (s : RequestBody) (pending : List Buffer) : Prop where
  bytes : s.written ++ pending = s.frames
  calls : s.calls = s.written.map .write ++ if s.requestEndedSent then [.finish] else []
  ended : s.requestEndedSent = true → pending = [] ∧ s.requestEnded = true
  endPending : s.requestEndPending = true → s.requestEnded = true
  total : s.pendingRequestBytesTotal = byteCount pending
  capped : s.writableLength + s.pendingRequestBytesTotal ≤ channelHardCapBytes

/-- A flow that nothing has ended. -/
structure Serving (s : RequestBody) : Prop extends Books s s.pendingRequestBytes where
  idle : s.requestPumpWaiting = false → s.pendingRequestBytes = []
  sent : s.requestEnded = true → s.requestEndedSent = true ∨
    (s.requestEndPending = true ∧ s.requestPumpWaiting = true)

/-- A flow that has ended. -/
structure Gone (s : RequestBody) : Prop where
  current : s.current = false
  start : s.written <+: s.frames
  calls : s.calls = s.written.map .write ++ if s.requestEndedSent then [.finish] else []
  ended : s.requestEndedSent = true → s.written = s.frames ∧ s.requestEnded = true

def Kept (s : RequestBody) : Prop :=
  (s.tearingDown = false ∧ s.current = true ∧ Serving s) ∨ Gone s

variable {s : RequestBody}

theorem kept_initial (flushed : ℕ → ℕ) : Kept { flushed } := by
  refine .inl ⟨rfl, rfl, ⟨rfl, rfl, nofun, nofun, rfl, Nat.zero_le _⟩, fun _ => rfl, nofun⟩

theorem Books.gone {pending : List Buffer} (h : Books s pending) (hcurrent : s.current = false) :
    Gone s where
  current := hcurrent
  start := ⟨pending, h.bytes⟩
  calls := h.calls
  ended := by
    intro hsent
    obtain ⟨hpending, hended⟩ := h.ended hsent
    refine ⟨?_, hended⟩
    rw [← h.bytes, hpending, List.append_nil]

/-- An abort ends the flow, or finds it ended. -/
theorem kept_abortFlow {pending : List Buffer} (htear : s.tearingDown = false)
    (h : Books s pending) : Kept s.abortFlow := by
  have htorn : Books { s with tearingDown := true, current := false } pending :=
    ⟨h.bytes, h.calls, h.ended, h.endPending, h.total, h.capped⟩
  rw [abortFlow, if_neg (by simp [htear])]
  exact .inr (htorn.gone rfl)

@[simp] theorem written_write (s : RequestBody) (bytes : Buffer) :
    (s.write bytes).written = s.written ++ [bytes] := by
  simp [write, written]

@[simp] theorem written_finish (s : RequestBody) : s.finish.written = s.written := by
  simp [finish, written]

theorem byteCount_cons (bytes : Buffer) (rest : List Buffer) :
    byteCount (bytes :: rest) = bytes.length + byteCount rest := by
  rw [byteCount, List.map_cons, List.sum_cons]
  rfl

/-- A round of the pump moves bytes from the queue to the request. -/
theorem Books.write {bytes : Buffer} {rest : List Buffer} (h : Books s (bytes :: rest)) :
    Books
      ({ s with
        pendingRequestBytes := rest
        pendingRequestBytesTotal := s.pendingRequestBytesTotal - bytes.length }.write bytes)
      rest := by
  have hunsent : s.requestEndedSent = false := by
    by_contra hsent
    have := (h.ended (by simpa using hsent)).1
    cases this
  have htotal := h.total
  rw [byteCount_cons] at htotal
  have hcapped := h.capped
  refine ⟨?_, ?_, ?_, h.endPending, ?_, ?_⟩
  · rw [written_write]
    show (s.written ++ [bytes]) ++ rest = s.frames
    rw [List.append_assoc, List.singleton_append, h.bytes]
  · rw [written_write]
    show s.calls ++ [.write bytes] =
      List.map .write (s.written ++ [bytes]) ++ if s.requestEndedSent then [.finish] else []
    rw [h.calls, hunsent]
    simp
  · intro hsent
    exact absurd (show s.requestEndedSent = true from hsent) (by simp [hunsent])
  · show s.pendingRequestBytesTotal - bytes.length = byteCount rest
    omega
  · show s.writableLength + bytes.length - s.flushed s.calls.length +
      (s.pendingRequestBytesTotal - bytes.length) ≤ channelHardCapBytes
    omega

theorem kept_pumpLoop (pending : List Buffer) (htear : s.tearingDown = false)
    (hcurrent : s.current = true) (hwaiting : pending ≠ [] → s.requestPumpWaiting = true)
    (h : Books s pending)
    (hended : s.requestEnded = true → s.requestEndedSent = true ∨ s.requestEndPending = true) :
    Kept (pumpLoop pending s) := by
  induction pending generalizing s with
  | nil =>
    have hbytes : s.written ++ [] = s.frames := h.bytes
    rw [pumpLoop]
    dsimp only
    by_cases hfinish : (s.requestEndPending && !s.requestEndedSent) = true
    · rw [if_pos hfinish]
      simp only [Bool.and_eq_true, Bool.not_eq_true'] at hfinish
      obtain ⟨hpending, hunsent⟩ := hfinish
      refine .inl ⟨htear, hcurrent, ⟨?_, ?_, ?_, h.endPending, h.total, h.capped⟩, fun _ => rfl,
        fun _ => .inl rfl⟩
      · rw [written_finish]
        exact hbytes
      · rw [written_finish]
        show s.calls ++ [.finish] = List.map .write s.written ++ [.finish]
        rw [h.calls, hunsent]
        simp
      · intro _
        exact ⟨rfl, h.endPending hpending⟩
    · rw [if_neg hfinish]
      refine .inl ⟨htear, hcurrent, ⟨hbytes, h.calls, h.ended, h.endPending, h.total, h.capped⟩,
        fun _ => rfl, ?_⟩
      intro hend
      obtain hsent | hpending := hended hend
      · exact .inl hsent
      · exact .inl (by simpa [hpending] using hfinish)
  | cons bytes rest ih =>
    have hrunning : s.requestPumpWaiting = true := hwaiting (by simp)
    rw [pumpLoop]
    dsimp only
    split_ifs with hfull hover
    · refine .inl ⟨htear, hcurrent, ⟨h.bytes, h.calls, h.ended, h.endPending, h.total, h.capped⟩,
        ?_, ?_⟩
      · intro hidle
        exact absurd (show s.requestPumpWaiting = false from hidle) (by simp [hrunning])
      · intro hend
        obtain hsent | hpending := hended hend
        · exact .inl hsent
        · exact .inr ⟨hpending, hrunning⟩
    · exact kept_abortFlow htear h.write
    · exact ih htear hcurrent (fun _ => hrunning) h.write hended

theorem kept_pump (htear : s.tearingDown = false) (hcurrent : s.current = true)
    (hwaiting : s.pendingRequestBytes ≠ [] → s.requestPumpWaiting = true)
    (h : Books s s.pendingRequestBytes)
    (hended : s.requestEnded = true → s.requestEndedSent = true ∨ s.requestEndPending = true) :
    Kept s.pump := by
  rw [pump, if_neg (by simp [htear, hcurrent])]
  exact kept_pumpLoop _ htear hcurrent hwaiting h hended

/-- The pump is running already, or is started. -/
theorem kept_abortRequestQueue (htear : s.tearingDown = false) (hcurrent : s.current = true)
    (h : Books s s.pendingRequestBytes)
    (hended : s.requestEnded = true → s.requestEndedSent = true ∨ s.requestEndPending = true) :
    Kept s.abortRequestQueue := by
  rw [abortRequestQueue]
  split_ifs with hwaiting
  · refine .inl ⟨htear, hcurrent, h, fun hidle => absurd hwaiting (by simp [hidle]), ?_⟩
    intro hend
    obtain hsent | hpending := hended hend
    · exact .inl hsent
    · exact .inr ⟨hpending, hwaiting⟩
  · exact kept_pump htear hcurrent (fun _ => rfl)
      ⟨h.bytes, h.calls, h.ended, h.endPending, h.total, h.capped⟩ hended

theorem Serving.sentOrPending (h : Serving s) (hend : s.requestEnded = true) :
    s.requestEndedSent = true ∨ s.requestEndPending = true := by
  obtain hsent | ⟨hpending, -⟩ := h.sent hend
  · exact .inl hsent
  · exact .inr hpending

theorem kept_onRequestBody (htear : s.tearingDown = false) (hcurrent : s.current = true)
    (h : Serving s) {bytes : Buffer} (hunsent : s.requestEndedSent = false)
    (hfits : s.writableLength + (s.pendingRequestBytesTotal + bytes.length) ≤ channelHardCapBytes ∨
      channelHardCapBytes < s.pendingRequestBytesTotal + bytes.length) :
    Kept (s.onRequestBody bytes) := by
  have hframes : s.written ++ (s.pendingRequestBytes ++ [bytes]) = s.frames ++ [bytes] := by
    rw [← List.append_assoc, h.bytes]
  rw [onRequestBody]
  dsimp only
  split_ifs with hover
  · rw [abortFlow, if_neg (by simp [htear])]
    refine .inr ⟨rfl, ⟨s.pendingRequestBytes ++ [bytes], hframes⟩, h.calls, ?_⟩
    intro hsent
    exact absurd (show s.requestEndedSent = true from hsent) (by simp [hunsent])
  · refine kept_abortRequestQueue htear hcurrent
      ⟨hframes, h.calls, ?_, h.endPending, ?_, ?_⟩ h.sentOrPending
    · intro hsent
      exact absurd (show s.requestEndedSent = true from hsent) (by simp [hunsent])
    · show s.pendingRequestBytesTotal + bytes.length = byteCount (s.pendingRequestBytes ++ [bytes])
      rw [h.total, byteCount, byteCount, List.map_append, List.sum_append]
      rfl
    · exact hfits.resolve_right hover

theorem kept_onRequestEnd (htear : s.tearingDown = false) (hcurrent : s.current = true)
    (h : Serving s) : Kept s.onRequestEnd := by
  rw [onRequestEnd]
  dsimp only
  split_ifs with hend hbusy hsent
  · exact .inl ⟨htear, hcurrent, h⟩
  · exact kept_abortRequestQueue htear hcurrent
      ⟨h.bytes, h.calls, fun hsent => ⟨(h.toBooks.ended hsent).1, rfl⟩, fun _ => rfl, h.total,
        h.capped⟩ fun _ => .inr rfl
  · obtain ⟨hpending, hwaiting⟩ := not_or.mp hbusy
    have hempty : s.pendingRequestBytes = [] := not_not.mp hpending
    have hunsent : s.requestEndedSent = false := by simpa using hsent
    refine .inl ⟨htear, hcurrent, ⟨?_, ?_, fun _ => ⟨hempty, rfl⟩, fun _ => rfl, h.total,
      h.capped⟩, h.idle, fun _ => .inl rfl⟩
    · rw [written_finish]
      exact h.bytes
    · rw [written_finish]
      show s.calls ++ [.finish] = List.map .write s.written ++ [.finish]
      rw [h.calls, hunsent]
      simp
  · refine .inl ⟨htear, hcurrent, ⟨h.bytes, h.calls, ?_, fun _ => rfl, h.total, h.capped⟩, h.idle,
      fun _ => .inl (by simpa using hsent)⟩
    intro hdone
    exact ⟨(h.toBooks.ended hdone).1, rfl⟩

/-- A step after the end of the flow: nothing is called on the request. -/
structure Quiet (s s' : RequestBody) : Prop where
  current : s'.current = false
  calls : s'.calls = s.calls
  frames : s'.frames = s.frames
  sent : s'.requestEndedSent = s.requestEndedSent
  ended : s'.requestEnded = s.requestEnded

theorem Quiet.refl (h : s.current = false) : Quiet s s := ⟨h, rfl, rfl, rfl, rfl⟩

theorem quiet_abortFlow (h : s.current = false) : Quiet s s.abortFlow := by
  rw [abortFlow]
  split_ifs
  · exact .refl h
  · exact ⟨rfl, rfl, rfl, rfl, rfl⟩

theorem quiet_step (h : s.current = false) (event : RequestEvent) : Quiet s (s.step event) := by
  cases event with
  | frame bytes =>
    rw [step, if_pos (by simp [h])]
    exact .refl h
  | requestEnd =>
    rw [step, if_pos (by simp [h])]
    exact .refl h
  | flush n => exact ⟨h, rfl, rfl, rfl, rfl⟩
  | drain =>
    rw [step, pump]
    split_ifs with hlistens hstopped
    · exact .refl h
    · exact ⟨h, rfl, rfl, rfl, rfl⟩
    · simp [h] at hstopped
  | d7Tick channelQueued stalled =>
    rw [step, checkD7]
    dsimp only
    split_ifs
    · exact .refl h
    · exact quiet_abortFlow h
    · exact quiet_abortFlow h
    · exact .refl h
  | abort => exact quiet_abortFlow h
  | response =>
    rw [step]
    split_ifs
    · exact .refl h
    · exact ⟨rfl, rfl, rfl, rfl, rfl⟩
  | channelClose => exact ⟨rfl, rfl, rfl, rfl, rfl⟩

theorem Gone.step (h : Gone s) (event : RequestEvent) : Gone (s.step event) := by
  have hquiet := quiet_step h.current event
  have hwritten : (s.step event).written = s.written := by rw [written, hquiet.calls, written]
  refine ⟨hquiet.current, ?_, ?_, ?_⟩
  · rw [hwritten, hquiet.frames]
    exact h.start
  · rw [hwritten, hquiet.calls, hquiet.sent]
    exact h.calls
  · rw [hwritten, hquiet.frames, hquiet.sent, hquiet.ended]
    exact h.ended

theorem Serving.gone (h : Serving s) : Gone s.release :=
  Books.gone (s := s.release)
    ⟨h.bytes, h.calls, h.toBooks.ended, h.endPending, h.total, h.capped⟩ rfl

/-- A clean step keeps the books. -/
theorem kept_step (h : Kept s) {event : RequestEvent} (hclean : Clean s event) :
    Kept (s.step event) := by
  obtain ⟨htear, hcurrent, hserving⟩ | hgone := h
  · have hbooks : Books s s.pendingRequestBytes := hserving.toBooks
    cases event with
    | frame bytes =>
      obtain ⟨hunsent, hfits⟩ := hclean (by simp [live, htear, hcurrent])
      rw [step, if_neg (by simp [hcurrent])]
      exact kept_onRequestBody htear hcurrent hserving hunsent hfits
    | requestEnd =>
      rw [step, if_neg (by simp [hcurrent])]
      exact kept_onRequestEnd htear hcurrent hserving
    | flush n =>
      refine .inl ⟨htear, hcurrent, ⟨hbooks.bytes, hbooks.calls, hbooks.ended, hbooks.endPending,
        hbooks.total, ?_⟩, hserving.idle, hserving.sent⟩
      exact (Nat.add_le_add_right (Nat.sub_le _ _) _).trans hbooks.capped
    | drain =>
      rw [step]
      split_ifs with hlistens
      · exact .inl ⟨htear, hcurrent, hserving⟩
      · refine kept_pump htear hcurrent ?_ ⟨hbooks.bytes, hbooks.calls, hbooks.ended,
          hbooks.endPending, hbooks.total, hbooks.capped⟩ hserving.sentOrPending
        intro hpending
        by_contra hidle
        exact hpending (hserving.idle (by simpa using hidle))
    | d7Tick channelQueued stalled =>
      rw [step, checkD7]
      dsimp only
      split_ifs
      · exact .inl ⟨htear, hcurrent, hserving⟩
      · exact kept_abortFlow htear hbooks
      · exact kept_abortFlow htear hbooks
      · exact .inl ⟨htear, hcurrent, hserving⟩
    | abort => exact kept_abortFlow htear hbooks
    | response =>
      rw [step, if_neg (by simp [htear])]
      have htorn : Books { s with tearingDown := true, current := false } s.pendingRequestBytes :=
        ⟨hbooks.bytes, hbooks.calls, hbooks.ended, hbooks.endPending, hbooks.total, hbooks.capped⟩
      exact .inr (htorn.gone rfl)
    | channelClose => exact .inr hserving.gone
  · exact .inr (hgone.step event)

theorem Kept.faithful (h : Kept s) : Faithful s := by
  obtain ⟨htear, hcurrent, hserving⟩ | hgone := h
  · have hlive : s.live = true := by simp [live, htear, hcurrent]
    refine ⟨fun _ => hserving.bytes, ⟨_, hserving.bytes⟩, hserving.calls, ?_, ?_, ?_,
      fun _ => hserving.capped⟩
    · intro hsent
      obtain ⟨hpending, hended⟩ := hserving.toBooks.ended hsent
      refine ⟨?_, hended⟩
      rw [← hserving.bytes, hpending, List.append_nil]
    · intro _ hended hidle
      obtain hsent | ⟨-, hwaiting⟩ := hserving.sent hended
      · exact hsent
      · simp [hidle] at hwaiting
    · intro hover
      simp [hlive] at hover
  · have hlive : s.live = false := by simp [live, hgone.current]
    refine ⟨?_, hgone.start, hgone.calls, hgone.ended, ?_, ?_, ?_⟩
    · intro hserved
      simp [hlive] at hserved
    · intro hserved
      simp [hlive] at hserved
    · intro _ event
      exact (quiet_step hgone.current event).calls
    · intro hserved
      simp [hlive] at hserved

/-- In every run of clean steps the request is sent the frames in order, then its end, and nothing
after an abort. -/
theorem written_run (flushed : ℕ → ℕ) (events : List RequestEvent)
    (hclean : EachStep step Clean { flushed } events) : Faithful (run flushed events) :=
  (runFrom_invariant (I := Kept) (fun _ _ h hstep => kept_step h hstep) (kept_initial flushed)
    hclean).faithful

theorem written_run_ended :
    Faithful (run (fun _ => 0) [.frame [1], .requestEnd, .channelClose]) :=
  written_run (fun _ => 0) [.frame [1], .requestEnd, .channelClose]
    ⟨fun _ => ⟨rfl, .inl (by decide)⟩, trivial, trivial, trivial⟩

/-- A frame behind the `request-end` is written to a request that has been ended. -/
theorem write_after_end :
    (run (fun _ => 0) [.frame [1], .requestEnd, .frame [2]]).calls =
        [.write [1], .finish, .write [2]] ∧
      ¬ Faithful (run (fun _ => 0) [.frame [1], .requestEnd, .frame [2]]) := by
  refine ⟨by decide, fun hfaithful => ?_⟩
  have hended := (hfaithful.calls).symm
  revert hended
  decide

end RequestBody

end DshOrbit.ReverseNode
