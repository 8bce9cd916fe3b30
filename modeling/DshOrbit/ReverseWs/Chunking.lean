import DshOrbit.ReverseWs.Parser

/-!
# Chunking and size bounds of the frame parser

The callbacks of the parser depend on the byte stream alone, never on how the
socket cut it into chunks, and neither the unparsed buffer nor the fragments
grow beyond the message size cap.

## Main results

- `parseFrame_wait_lt` — a waiting parser holds less than one whole frame
- `callbacks_chunking` — chunking, failure and size bounds over every stream
-/

namespace DshOrbit.ReverseWs

open DshOrbit.Lib

/-- The parser state after the chunks were pushed one after the other. -/
def pushed (cfg : ParserConfig) (chunks : List Buffer) : ParserState :=
  ((createFrameParser cfg).feedAll ParserState.initial chunks).1

/-- The callbacks made while the chunks were pushed one after the other. -/
def callbacks (cfg : ParserConfig) (chunks : List Buffer) : List ParserEvent :=
  ((createFrameParser cfg).feedAll ParserState.initial chunks).2

/-! ### The unparsed buffer -/

theorem readPayload_wait_lt {cfg : ParserConfig} {s : Fragments} {fin : Bool} {opcode : UInt8}
    {masked : Bool} {buffer : Buffer} {length offset : ℕ} (hoff : offset ≤ 10)
    (h : readPayload cfg s fin opcode masked buffer length offset = .wait) :
    buffer.length < cfg.maxMessageBytes + 14 := by
  unfold readPayload at h
  split_ifs at h with hbig hshort
  · have := (payloadOffset_le masked offset).2
    omega
  · rcases handleFrame_decided cfg s fin opcode (framePayload masked buffer offset length) with
      ⟨e, he⟩ | ⟨s', events, he⟩ <;> simp [he] at h

/-- The length field is incomplete only while its own bytes are missing. -/
theorem readLength_incomplete {cfg : ParserConfig} {buffer : Buffer} {second : UInt8}
    (h : readLength cfg buffer second = .incomplete) : buffer.length < 10 := by
  unfold readLength at h
  dsimp only at h
  split_ifs at h <;> omega

/-- A waiting parser holds less than one frame of the largest size. -/
theorem parseFrame_wait_lt {cfg : ParserConfig} {s : Fragments} {buffer : Buffer}
    (h : parseFrame cfg s buffer = .wait) : buffer.length < cfg.maxMessageBytes + 14 := by
  match buffer with
  | [] => simp
  | [b] => simp
  | first :: second :: tail =>
    simp only [parseFrame] at h
    split_ifs at h
    cases hl : readLength cfg (first :: second :: tail) second with
    | incomplete =>
      have := readLength_incomplete hl
      omega
    | oversize => simp [hl] at h
    | known length offset =>
      simp only [hl] at h
      exact readPayload_wait_lt (readLength_known hl (by simp)).2.1 h

/-! ### Fragments and delivered messages -/

/-- The byte count is that of the fragments held, and within the cap. -/
def Fragments.Bounded (cfg : ParserConfig) (s : Fragments) : Prop :=
  s.fragmentBytes = s.fragments.flatten.length ∧ s.fragmentBytes ≤ cfg.maxMessageBytes

/-- A delivered data message carries, or was decoded from, at most the cap. -/
def ParserEvent.Bounded (cfg : ParserConfig) : ParserEvent → Prop
  | .message (.binary payload) => payload.length ≤ cfg.maxMessageBytes
  | .message (.text text) =>
    ∃ payload : Buffer, payload.length ≤ cfg.maxMessageBytes ∧ text = utf8Decode payload
  | .ping payload => payload.length ≤ cfg.maxMessageBytes
  | .pong payload => payload.length ≤ cfg.maxMessageBytes
  | .close _ => True
  | .error _ => True

def ParserEvent.IsError : ParserEvent → Prop
  | .error _ => True
  | _ => False

theorem Fragments.empty_bounded (cfg : ParserConfig) : Fragments.empty.Bounded cfg :=
  ⟨rfl, Nat.zero_le _⟩

/-- A complete payload within the cap is delivered within the cap. -/
theorem handleData_bounded {cfg : ParserConfig} {opcode : UInt8} {payload : Buffer}
    (h : payload.length ≤ cfg.maxMessageBytes) :
    ∀ e ∈ handleData opcode payload, e.Bounded cfg := by
  unfold handleData
  split_ifs <;> simp only [List.mem_singleton, forall_eq, List.not_mem_nil, false_imp_iff,
    implies_true, ParserEvent.Bounded, h]
  exact ⟨payload, h, rfl⟩

theorem handleData_not_error (opcode : UInt8) (payload : Buffer) :
    ∀ e ∈ handleData opcode payload, ¬e.IsError := by
  unfold handleData
  split_ifs <;> simp [ParserEvent.IsError]

theorem length_applyMask (maskingKey payload : Buffer) :
    (applyMask maskingKey payload).length = payload.length := by
  simp [applyMask]

theorem length_framePayload_le (masked : Bool) (buffer : Buffer) (offset length : ℕ) :
    (framePayload masked buffer offset length).length ≤ length := by
  unfold framePayload
  cases masked <;> simp [length_applyMask]

/-- What one iteration that goes on keeps: the fragments' bound, and bounds on
everything it delivers. -/
theorem parseFrame_bounded {cfg : ParserConfig} {s s' : Fragments} {buffer rest : Buffer}
    {events : List ParserEvent} (hs : s.Bounded cfg)
    (h : parseFrame cfg s buffer = .advance s' events rest) :
    s'.Bounded cfg ∧ ∀ e ∈ events, e.Bounded cfg := by
  obtain ⟨first, second, tail, length, offset, -, -, hcap, -, hframe⟩ := parseFrame_cases h
  have hp := (length_framePayload_le (second &&& 0x80 != 0) buffer offset length).trans hcap
  generalize framePayload (second &&& 0x80 != 0) buffer offset length = payload at hp hframe
  obtain ⟨-, ⟨rfl, -, rfl, -⟩ | ⟨base, -, -, hcount, hend⟩ | ⟨-, -, -, rfl, rfl⟩⟩ :=
    handleFrame_cases hframe
  · exact ⟨hs, handleData_bounded hp⟩
  · have hlen : (s.fragments ++ [payload]).flatten.length = s.fragmentBytes + payload.length := by
      simp [hs.1]
    rcases hend with ⟨-, rfl, rfl⟩ | ⟨-, rfl, rfl⟩
    · exact ⟨Fragments.empty_bounded cfg, handleData_bounded (by omega)⟩
    · exact ⟨⟨hlen.symm, hcount⟩, by simp⟩
  · exact ⟨⟨by simp, hp⟩, by simp⟩

/-- An iteration that goes on reports no failure. -/
theorem parseFrame_not_error {cfg : ParserConfig} {s s' : Fragments} {buffer rest : Buffer}
    {events : List ParserEvent} (h : parseFrame cfg s buffer = .advance s' events rest) :
    ∀ e ∈ events, ¬e.IsError := by
  obtain ⟨first, second, tail, length, offset, -, -, -, -, hframe⟩ := parseFrame_cases h
  obtain ⟨-, ⟨-, -, rfl, -⟩ | ⟨base, -, -, -, ⟨-, -, rfl⟩ | ⟨-, rfl, -⟩⟩ | ⟨-, -, -, rfl, -⟩⟩ :=
    handleFrame_cases hframe
  · exact handleData_not_error _ _
  · exact handleData_not_error _ _
  · simp
  · simp

/-- A failure is always reported through `onError`. -/
theorem parseFrame_fail {cfg : ParserConfig} {s : Fragments} {buffer : Buffer}
    {event : ParserEvent} (h : parseFrame cfg s buffer = .fail event) :
    ∃ message, event = .error message := by
  match buffer with
  | [] => simp [parseFrame] at h
  | [b] => simp [parseFrame] at h
  | first :: second :: tail =>
    simp only [parseFrame] at h
    split_ifs at h
    · exact ⟨_, (Verdict.fail.inj h).symm⟩
    · exact ⟨_, (Verdict.fail.inj h).symm⟩
    cases hl : readLength cfg (first :: second :: tail) second with
    | incomplete => simp [hl] at h
    | oversize =>
      simp only [hl] at h
      exact ⟨_, (Verdict.fail.inj h).symm⟩
    | known length offset =>
      simp only [hl, readPayload] at h
      split_ifs at h
      · exact ⟨_, (Verdict.fail.inj h).symm⟩
      rcases handleFrame_decided cfg s _ _ (framePayload _ _ _ _) with ⟨e, he⟩ | ⟨s', es, he⟩
      · rw [he] at h; exact ⟨_, (Verdict.fail.inj h).symm⟩
      · rw [he] at h; simp at h

/-- The fragments and every delivered message stay within the cap. -/
theorem pushed_bounded (cfg : ParserConfig) (chunks : List Buffer) :
    (pushed cfg chunks).control.Bounded cfg ∧ ∀ e ∈ callbacks cfg chunks, e.Bounded cfg := by
  refine (createFrameParser cfg).feedAll_invariant (I := Fragments.Bounded cfg)
    (fun hs h => parseFrame_bounded hs h) ?_ chunks (Fragments.empty_bounded cfg)
  intro s buf event _ h
  obtain ⟨message, rfl⟩ := parseFrame_fail h
  trivial

/-- Failures come last: the loop stops at the first one and stays stopped. -/
theorem pushed_failsLast (cfg : ParserConfig) (chunks : List Buffer) :
    StreamParser.FailsLast ParserEvent.IsError (pushed cfg chunks, callbacks cfg chunks) :=
  (createFrameParser cfg).feedAll_failsLast (fun h => parseFrame_not_error h) _ chunks

/-! ### Every stream, every chunking -/

/-- The callbacks are those of the undivided stream. -/
theorem callbacks_flatten (cfg : ParserConfig) (chunks : List Buffer) :
    callbacks cfg chunks =
      ((createFrameParser cfg).feed ParserState.initial chunks.flatten).2 :=
  ((createFrameParser cfg).feedAll_flatten (initial_settled cfg) chunks).2.symm

/-- Chunks pushed after a failure are swallowed. -/
theorem callbacks_append_of_failed {cfg : ParserConfig} {chunks : List Buffer}
    (h : (pushed cfg chunks).failed = true) (more : List Buffer) :
    callbacks cfg (chunks ++ more) = callbacks cfg chunks := by
  have hswallow := (createFrameParser cfg).feedAll_of_failed h more
  unfold pushed at hswallow
  unfold callbacks
  rw [StreamParser.feedAll_append, hswallow, List.append_nil]

/-- A parser that has not failed waits for the rest of one frame. -/
theorem pushed_waits {cfg : ParserConfig} {chunks : List Buffer}
    (h : (pushed cfg chunks).failed = false) :
    parseFrame cfg (pushed cfg chunks).control (pushed cfg chunks).buffer = .wait := by
  rcases (createFrameParser cfg).feedAll_settled (initial_settled cfg) chunks with hf | hw
  · exact absurd (hf.symm.trans h) (by simp)
  · exact hw

/-- **Chunking invariance and boundedness.** Two ways of cutting one byte
stream into chunks make the same callbacks. A failure is the last callback,
also over every chunk pushed later. Delivered messages stay within the cap.
While the parser has not failed, its buffer is one incomplete frame and its
fragments hold at most the cap. -/
theorem callbacks_chunking (cfg : ParserConfig) :
    (∀ chunks₁ chunks₂ : List Buffer, chunks₁.flatten = chunks₂.flatten →
      callbacks cfg chunks₁ = callbacks cfg chunks₂) ∧
    ∀ chunks : List Buffer,
      (∀ e ∈ (callbacks cfg chunks).dropLast, ¬e.IsError) ∧
      (∀ e ∈ callbacks cfg chunks, e.IsError →
        ∀ more, callbacks cfg (chunks ++ more) = callbacks cfg chunks) ∧
      (∀ e ∈ callbacks cfg chunks, e.Bounded cfg) ∧
      ((pushed cfg chunks).failed = false →
        parseFrame cfg (pushed cfg chunks).control (pushed cfg chunks).buffer = .wait ∧
        (pushed cfg chunks).buffer.length < cfg.maxMessageBytes + 14 ∧
        (pushed cfg chunks).control.fragments.flatten.length ≤ cfg.maxMessageBytes) := by
  refine ⟨fun chunks₁ chunks₂ h => ?_, fun chunks => ⟨?_, fun e he herr more => ?_, ?_, fun h => ?_⟩⟩
  · rw [callbacks_flatten, callbacks_flatten, h]
  · exact (pushed_failsLast cfg chunks).2
  · cases hf : (pushed cfg chunks).failed with
    | true => exact callbacks_append_of_failed hf more
    | false => exact absurd herr ((pushed_failsLast cfg chunks).1 hf e he)
  · exact (pushed_bounded cfg chunks).2
  · have hwait := pushed_waits h
    obtain ⟨hcount, hcap⟩ := (pushed_bounded cfg chunks).1
    exact ⟨hwait, parseFrame_wait_lt hwait, by omega⟩

/-- An unmasked text frame `hi`, whole and cut inside its header. -/
theorem callbacks_chunking_hi :
    callbacks ⟨true, 65536, by decide⟩ [[0x81, 2, 0x68, 0x69]] =
      callbacks ⟨true, 65536, by decide⟩ [[0x81], [2, 0x68], [0x69]] :=
  (callbacks_chunking ⟨true, 65536, by decide⟩).1 _ _ (by decide)

end DshOrbit.ReverseWs
