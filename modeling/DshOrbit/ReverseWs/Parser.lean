import DshOrbit.ReverseWs.Frame

/-!
# The frame parser as a stream parser

Every decision of `parseFrame` is settled by the bytes at the front of the
buffer, so the parser is an incremental stream parser and the rules of
`Lib.StreamParser` apply to it.

## Main definitions

- `createFrameParser` — the parser of one connection
- `ParserState` — what it keeps between two chunks

## Main results

- `handleFrame_cases`, `parseFrame_cases` — everything one iteration can do
- `parseFrame_append` — more bytes behind a decided front change nothing
-/

namespace DshOrbit.ReverseWs

open DshOrbit.Lib

/-! ### One frame -/

/-- A complete frame is handled without looking at the bytes behind it. -/
theorem handleFrame_decided (cfg : ParserConfig) (s : Fragments) (fin : Bool) (opcode : UInt8)
    (payload : Buffer) :
    (∃ e, ∀ rest, handleFrame cfg s fin opcode payload rest = .fail (.error e)) ∨
      ∃ s' events, ∀ rest, handleFrame cfg s fin opcode payload rest = .advance s' events rest := by
  unfold handleFrame
  split
  · split
    · exact Or.inl ⟨_, fun _ => rfl⟩
    · exact Or.inr ⟨_, _, fun _ => rfl⟩
  split
  · cases s.fragmentOpcode with
    | none => exact Or.inl ⟨_, fun _ => rfl⟩
    | some base =>
      simp only
      split
      · exact Or.inl ⟨_, fun _ => rfl⟩
      split
      · exact Or.inr ⟨_, _, fun _ => rfl⟩
      · exact Or.inr ⟨_, _, fun _ => rfl⟩
  split
  · exact Or.inl ⟨_, fun _ => rfl⟩
  split
  · exact Or.inr ⟨_, _, fun _ => rfl⟩
  · exact Or.inr ⟨_, _, fun _ => rfl⟩

/-- Everything a complete frame can do when the parser goes on: deliver a whole
payload, end a fragmented message, or extend or start one. -/
theorem handleFrame_cases {cfg : ParserConfig} {s s' : Fragments} {fin : Bool} {opcode : UInt8}
    {payload rest rest' : Buffer} {events : List ParserEvent}
    (h : handleFrame cfg s fin opcode payload rest = .advance s' events rest') :
    rest' = rest ∧
      ((s' = s ∧ fin = true ∧ events = handleData opcode payload ∧
          (0x8 ≤ opcode ∧ payload.length ≤ 125 ∨
            opcode ≠ opcodeContinuation ∧ s.fragmentOpcode = none)) ∨
        (∃ base, s.fragmentOpcode = some base ∧ opcode = opcodeContinuation ∧
          s.fragmentBytes + payload.length ≤ cfg.maxMessageBytes ∧
          (fin = true ∧ s' = .empty ∧
              events = handleData base (s.fragments ++ [payload]).flatten ∨
            fin = false ∧ events = [] ∧
              s' = ⟨s.fragments ++ [payload], some base, s.fragmentBytes + payload.length⟩)) ∨
        (s.fragmentOpcode = none ∧ opcode ≠ opcodeContinuation ∧ fin = false ∧ events = [] ∧
          s' = ⟨[payload], some opcode, payload.length⟩)) := by
  unfold handleFrame at h
  split at h
  · -- control frame
    next hop =>
    split at h <;> simp only [reduceCtorEq, Verdict.advance.injEq] at h
    next hok =>
    obtain ⟨rfl, rfl, rfl⟩ := h
    simp only [Bool.or_eq_true, Bool.not_eq_true', decide_eq_true_eq, not_or,
      Bool.not_eq_false, Nat.not_lt] at hok
    exact ⟨rfl, Or.inl ⟨rfl, hok.1, rfl, Or.inl ⟨hop, hok.2⟩⟩⟩
  split at h
  · -- continuation
    next hcont =>
    cases hbase : s.fragmentOpcode with
    | none => simp [hbase] at h
    | some base =>
      simp only [hbase] at h
      split at h
      · simp at h
      next hcap =>
      have hcap := Nat.le_of_not_lt hcap
      split at h <;> simp only [Verdict.advance.injEq] at h <;> obtain ⟨rfl, rfl, rfl⟩ := h
      · next hfin => exact ⟨rfl, Or.inr (Or.inl ⟨base, rfl, hcont, hcap, Or.inl ⟨hfin, rfl, rfl⟩⟩)⟩
      · next hfin =>
        exact ⟨rfl, Or.inr (Or.inl ⟨base, rfl, hcont, hcap,
          Or.inr ⟨Bool.eq_false_iff.mpr hfin, rfl, rfl⟩⟩)⟩
  split at h
  · simp at h
  -- first or only frame of a data message
  next hcont hstart =>
  have hstart : s.fragmentOpcode = none := by simpa using hstart
  split at h <;> simp only [Verdict.advance.injEq] at h <;> obtain ⟨rfl, rfl, rfl⟩ := h
  · next hfin => exact ⟨rfl, Or.inl ⟨rfl, hfin, rfl, Or.inr ⟨hcont, hstart⟩⟩⟩
  · next hfin =>
    exact ⟨rfl, Or.inr (Or.inr ⟨hstart, hcont, Bool.eq_false_iff.mpr hfin, rfl, rfl⟩)⟩

/-- A known length field lies within the buffer, right behind the first two
bytes. -/
theorem readLength_known {cfg : ParserConfig} {buffer : Buffer} {second : UInt8}
    {length offset : ℕ} (h : readLength cfg buffer second = .known length offset)
    (hbuf : 2 ≤ buffer.length) : 2 ≤ offset ∧ offset ≤ 10 ∧ offset ≤ buffer.length := by
  unfold readLength at h
  dsimp only at h
  split at h
  · split at h <;> simp only [reduceCtorEq, LengthField.known.injEq] at h
    omega
  split at h
  · split at h
    · simp at h
    split at h <;> simp only [reduceCtorEq, LengthField.known.injEq] at h
    omega
  · simp only [LengthField.known.injEq] at h
    omega

/-- A length field that is settled stays so when bytes arrive behind it. -/
theorem readLength_append (cfg : ParserConfig) (buffer more : Buffer) (second : UInt8)
    (h : readLength cfg buffer second ≠ .incomplete) :
    readLength cfg (buffer ++ more) second = readLength cfg buffer second := by
  have htake : ∀ k n, k + n ≤ buffer.length →
      ((buffer ++ more).drop k).take n = (buffer.drop k).take n := by
    intro k n hk
    rw [List.drop_append_of_le_length (by omega),
      List.take_append_of_le_length (by simp; omega)]
  unfold readLength at h ⊢
  dsimp only at h ⊢
  split at h
  · next h126 =>
    rw [if_pos h126, if_pos h126]
    split at h
    · exact absurd rfl h
    · next hlen =>
      rw [if_neg hlen, if_neg (by simp; omega), htake 2 2 (by omega)]
  · next h126 =>
    rw [if_neg h126, if_neg h126]
    split at h
    · next h127 =>
      rw [if_pos h127, if_pos h127]
      split at h
      · exact absurd rfl h
      · next hlen =>
        rw [if_neg hlen, if_neg (by simp; omega), htake 2 8 (by omega)]
    · next h127 => rw [if_neg h127, if_neg h127]

/-- What one decision says when `more` arrives behind the buffer. -/
def appendRest (more : Buffer) :
    Verdict Fragments UInt8 ParserEvent → Verdict Fragments UInt8 ParserEvent
  | .wait => .wait
  | .fail event => .fail event
  | .advance s events rest => .advance s events (rest ++ more)

theorem payloadOffset_le (masked : Bool) (offset : ℕ) :
    offset ≤ payloadOffset masked offset ∧ payloadOffset masked offset ≤ offset + 4 := by
  unfold payloadOffset
  split <;> omega

/-- Taking bytes from the front does not see what is appended behind them. -/
theorem take_drop_append {buffer : Buffer} {k n : ℕ} (more : Buffer)
    (h : k + n ≤ buffer.length) :
    ((buffer ++ more).drop k).take n = (buffer.drop k).take n := by
  rw [List.drop_append_of_le_length (by omega),
    List.take_append_of_le_length (by simp; omega)]

/-- The payload of a complete frame does not change when bytes arrive. -/
theorem framePayload_append {masked : Bool} {buffer : Buffer} {length offset : ℕ}
    (more : Buffer) (h : payloadOffset masked offset + length ≤ buffer.length) :
    framePayload masked (buffer ++ more) offset length =
      framePayload masked buffer offset length := by
  unfold framePayload
  rw [take_drop_append more h]
  cases masked with
  | false => rfl
  | true =>
    have hkey : offset + 4 ≤ buffer.length := by
      simp only [payloadOffset, if_true] at h
      omega
    rw [take_drop_append more hkey]

theorem readPayload_append (cfg : ParserConfig) (s : Fragments) (fin : Bool) (opcode : UInt8)
    (masked : Bool) (buffer more : Buffer) (length offset : ℕ)
    (h : readPayload cfg s fin opcode masked buffer length offset ≠ .wait) :
    readPayload cfg s fin opcode masked (buffer ++ more) length offset =
      appendRest more (readPayload cfg s fin opcode masked buffer length offset) := by
  unfold readPayload at h ⊢
  by_cases hbig : cfg.maxMessageBytes < length
  · simp only [if_pos hbig]; rfl
  simp only [if_neg hbig] at h ⊢
  by_cases hshort : buffer.length < payloadOffset masked offset + length
  · exact absurd (if_pos hshort) h
  have hle : payloadOffset masked offset + length ≤ buffer.length := Nat.le_of_not_lt hshort
  rw [if_neg hshort, if_neg (by rw [List.length_append]; omega), framePayload_append more hle,
    List.drop_append_of_le_length hle]
  rcases handleFrame_decided cfg s fin opcode (framePayload masked buffer offset length) with
    ⟨e, he⟩ | ⟨s', events, he⟩
  · rw [he, he]; rfl
  · rw [he, he]; rfl

/-- More bytes behind a decided front change nothing. -/
theorem parseFrame_append (cfg : ParserConfig) (s : Fragments) (buffer more : Buffer)
    (h : parseFrame cfg s buffer ≠ .wait) :
    parseFrame cfg s (buffer ++ more) = appendRest more (parseFrame cfg s buffer) := by
  match buffer with
  | [] => exact absurd rfl h
  | [b] => exact absurd rfl h
  | first :: second :: tail =>
    simp only [List.cons_append, parseFrame] at h ⊢
    split_ifs at h ⊢ with hclient hserver
    · rfl
    · rfl
    rw [← List.cons_append, ← List.cons_append]
    cases hl : readLength cfg (first :: second :: tail) second with
    | incomplete => simp [hl] at h
    | oversize =>
      rw [readLength_append cfg _ more second (by simp [hl]), hl]
      rfl
    | known length offset =>
      rw [readLength_append cfg _ more second (by simp [hl]), hl]
      exact readPayload_append cfg s _ _ _ _ more length offset (by simpa [hl] using h)

/-- An iteration that goes on has handled one complete frame within the cap. -/
theorem parseFrame_cases {cfg : ParserConfig} {s s' : Fragments} {buffer rest : Buffer}
    {events : List ParserEvent} (h : parseFrame cfg s buffer = .advance s' events rest) :
    ∃ first second tail length offset, buffer = first :: second :: tail ∧
      readLength cfg buffer second = .known length offset ∧ length ≤ cfg.maxMessageBytes ∧
      payloadOffset (second &&& 0x80 != 0) offset + length ≤ buffer.length ∧
      handleFrame cfg s (first &&& 0x80 != 0) (first &&& 0x0f)
        (framePayload (second &&& 0x80 != 0) buffer offset length)
        (buffer.drop (payloadOffset (second &&& 0x80 != 0) offset + length)) =
          .advance s' events rest := by
  match buffer with
  | [] => simp [parseFrame] at h
  | [b] => simp [parseFrame] at h
  | first :: second :: tail =>
    simp only [parseFrame] at h
    split_ifs at h
    cases hl : readLength cfg (first :: second :: tail) second with
    | incomplete => simp [hl] at h
    | oversize => simp [hl] at h
    | known length offset =>
      simp only [hl, readPayload] at h
      split_ifs at h with hbig hshort
      exact ⟨first, second, tail, length, offset, rfl, hl, Nat.le_of_not_lt hbig,
        Nat.le_of_not_lt hshort, h⟩

/-- A decision that goes on consumed at least the two header bytes. -/
theorem parseFrame_shorter {cfg : ParserConfig} {s s' : Fragments} {buffer rest : Buffer}
    {events : List ParserEvent} (h : parseFrame cfg s buffer = .advance s' events rest) :
    rest.length < buffer.length := by
  obtain ⟨first, second, tail, length, offset, rfl, hl, -, hfits, hframe⟩ := parseFrame_cases h
  obtain ⟨hoff, -, -⟩ := readLength_known hl (by simp)
  have hext := (payloadOffset_le (second &&& 0x80 != 0) offset).1
  rw [(handleFrame_cases hframe).1, List.length_drop]
  omega

/-- The parser of one connection. -/
def createFrameParser (cfg : ParserConfig) : StreamParser Fragments UInt8 ParserEvent where
  verdict := parseFrame cfg
  verdict_nil := fun _ => rfl
  advance_shorter := parseFrame_shorter
  advance_append := fun {s buf s' events rest} h more => by
    rw [parseFrame_append cfg s buf more (by simp [h]), h]; rfl
  fail_append := fun {s buf event} h more => by
    rw [parseFrame_append cfg s buf more (by simp [h]), h]; rfl

/-- What the parser keeps between two pushes. -/
abbrev ParserState := StreamState Fragments UInt8

/-- The parser before any byte has arrived. -/
def ParserState.initial : ParserState := ⟨.empty, [], false⟩

theorem initial_settled (cfg : ParserConfig) :
    (createFrameParser cfg).Settled ParserState.initial := Or.inr rfl

end DshOrbit.ReverseWs
