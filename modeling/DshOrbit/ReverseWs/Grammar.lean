import DshOrbit.ReverseWs.Chunking

/-!
# The grammar of frames

Which frames RFC 6455 forbids to a peer without extensions, told from the complete frames of a
stream alone, and which of them the parser of the reverse transport refuses
(`registry/reverse-ws.mjs`). The parser reads past the reserved bits, has no branch for the reserved
opcodes, and goes on after a close frame.

## Main definitions

- `readFrame`, `framesOf` — the complete frames of a stream, without a role and without a cap
- `Frame.Forbidden` — a frame that the protocol forbids after the frames before it
- `Frame.Refused` — a frame that the parser refuses
- `Conforms` — forbidden frames are reported at once, and no data comes after a close frame
- `Clean` — no frame is reserved, and none is final data after a close frame, up to the first that
  is refused

## Main results

- `Frame.forbidden_iff` — the parser refuses the forbidden frames that are not reserved
- `conforms_iff` — the streams on which the parser follows the protocol
-/

namespace DshOrbit.ReverseWs

open DshOrbit.Lib

/-! ### Frames of a stream -/

/-- A complete frame, its payload unmasked. -/
structure Frame where
  first : UInt8
  second : UInt8
  payload : Buffer
  deriving DecidableEq, Repr

namespace Frame

def fin (frame : Frame) : Bool := frame.first &&& 0x80 != 0

def reservedBits (frame : Frame) : UInt8 := frame.first &&& 0x70

def opcode (frame : Frame) : UInt8 := frame.first &&& 0x0f

def masked (frame : Frame) : Bool := frame.second &&& 0x80 != 0

def isControl (frame : Frame) : Bool := 0x8 ≤ frame.opcode

end Frame

/-- The payload length and where the length field ends, of the frame at the front. -/
def frameLength (buffer : Buffer) (second : UInt8) : Option (ℕ × ℕ) :=
  let length := (second &&& 0x7f).toNat
  if length = 126 then
    if buffer.length < 4 then none else some (ofBigEndian ((buffer.drop 2).take 2), 4)
  else if length = 127 then
    if buffer.length < 10 then none else some (ofBigEndian ((buffer.drop 2).take 8), 10)
  else some (length, 2)

/-- The complete frame at the front, and what follows it. -/
def readFrame (buffer : Buffer) : Option (Frame × Buffer) :=
  match buffer with
  | first :: second :: _ =>
    (frameLength buffer second).bind fun (length, offset) =>
      let masked := second &&& 0x80 != 0
      let stop := payloadOffset masked offset + length
      if buffer.length < stop then none
      else some (⟨first, second, framePayload masked buffer offset length⟩, buffer.drop stop)
  | _ => none

theorem frameLength_append {buffer : Buffer} {second : UInt8} {field : ℕ × ℕ}
    (h : frameLength buffer second = some field) (more : Buffer) :
    frameLength (buffer ++ more) second = some field := by
  rw [frameLength] at h ⊢
  split_ifs at h with hshort hfew hlong hfew'
  · rw [if_pos hshort, if_neg (by rw [List.length_append]; omega),
      take_drop_append more (by omega)]
    exact h
  · rw [if_neg hshort, if_pos hlong, if_neg (by rw [List.length_append]; omega),
      take_drop_append more (by omega)]
    exact h
  · rw [if_neg hshort, if_neg hlong]
    exact h

/-- A length field is read from its own bytes. -/
theorem frameLength_front {buffer more : Buffer} {second : UInt8} {length offset : ℕ}
    (h : frameLength (buffer ++ more) second = some (length, offset))
    (hoffset : offset ≤ buffer.length) : frameLength buffer second = some (length, offset) := by
  rw [frameLength] at h ⊢
  split_ifs at h with hshort hfew hlong hfew'
  · obtain ⟨rfl, rfl⟩ := Prod.mk.inj (Option.some.inj h)
    rw [if_pos hshort, if_neg (Nat.not_lt.mpr hoffset), take_drop_append more (by omega)]
  · obtain ⟨rfl, rfl⟩ := Prod.mk.inj (Option.some.inj h)
    rw [if_neg hshort, if_pos hlong, if_neg (Nat.not_lt.mpr hoffset),
      take_drop_append more (by omega)]
  · rw [if_neg hshort, if_neg hlong]
    exact h

theorem two_le_of_frameLength {buffer : Buffer} {second : UInt8} {length offset : ℕ}
    (h : frameLength buffer second = some (length, offset)) : 2 ≤ offset := by
  rw [frameLength] at h
  split_ifs at h <;> cases h <;> omega

/-- What is read of a complete frame. -/
theorem readFrame_eq_some {buffer rest : Buffer} {frame : Frame}
    (h : readFrame buffer = some (frame, rest)) :
    ∃ tail length offset, buffer = frame.first :: frame.second :: tail ∧
      frameLength buffer frame.second = some (length, offset) ∧
      payloadOffset frame.masked offset + length ≤ buffer.length ∧
      frame.payload = framePayload frame.masked buffer offset length ∧
      rest = buffer.drop (payloadOffset frame.masked offset + length) := by
  match buffer with
  | [] => cases h
  | [b] => cases h
  | first :: second :: tail =>
    rw [readFrame] at h
    obtain ⟨⟨length, offset⟩, hlength, hfits⟩ := Option.bind_eq_some_iff.mp h
    dsimp only at hfits
    split_ifs at hfits with hshort
    cases hfits
    exact ⟨tail, length, offset, rfl, hlength, Nat.le_of_not_lt hshort, rfl, rfl⟩

theorem readFrame_of_complete {buffer tail : Buffer} {first second : UInt8} {length offset : ℕ}
    (hbuffer : buffer = first :: second :: tail)
    (hlength : frameLength buffer second = some (length, offset))
    (hfits : payloadOffset (second &&& 0x80 != 0) offset + length ≤ buffer.length) :
    readFrame buffer =
      some (⟨first, second, framePayload (second &&& 0x80 != 0) buffer offset length⟩,
        buffer.drop (payloadOffset (second &&& 0x80 != 0) offset + length)) := by
  subst hbuffer
  rw [readFrame, hlength, Option.bind_some]
  dsimp only
  rw [if_neg (Nat.not_lt.mpr hfits)]

/-- Bytes behind a complete frame change nothing. -/
theorem readFrame_append {buffer rest : Buffer} {frame : Frame}
    (h : readFrame buffer = some (frame, rest)) (more : Buffer) :
    readFrame (buffer ++ more) = some (frame, rest ++ more) := by
  obtain ⟨tail, length, offset, hbuffer, hlength, hfits, hpayload, rfl⟩ := readFrame_eq_some h
  have hbuffer' : buffer ++ more = frame.first :: frame.second :: (tail ++ more) := by
    rw [hbuffer]
    rfl
  have hfits' : payloadOffset frame.masked offset + length ≤ (buffer ++ more).length := by
    rw [List.length_append]
    omega
  rw [readFrame_of_complete hbuffer' (frameLength_append hlength more) hfits']
  have hsame : framePayload (frame.second &&& 0x80 != 0) (buffer ++ more) offset length =
      frame.payload := (framePayload_append more hfits).trans hpayload.symm
  rw [hsame, ← Frame.masked, List.drop_append_of_le_length hfits]

theorem readFrame_shorter {buffer rest : Buffer} {frame : Frame}
    (h : readFrame buffer = some (frame, rest)) : rest.length < buffer.length := by
  obtain ⟨tail, length, offset, -, hlength, hfits, -, rfl⟩ := readFrame_eq_some h
  have htwo := two_le_of_frameLength hlength
  have hoffset := (payloadOffset_le frame.masked offset).1
  rw [List.length_drop]
  omega

/-- A complete frame stands alone as well. -/
theorem readFrame_front {buffer rest : Buffer} {frame : Frame}
    (h : readFrame buffer = some (frame, rest)) :
    ∃ front, buffer = front ++ rest ∧ readFrame front = some (frame, []) := by
  obtain ⟨tail, length, offset, hbuffer, hlength, hfits, hpayload, rfl⟩ := readFrame_eq_some h
  have htwo := two_le_of_frameLength hlength
  have hoffset := (payloadOffset_le frame.masked offset).1
  generalize hstop : payloadOffset frame.masked offset + length = stop at hfits ⊢
  have hfront : (buffer.take stop).length = stop := List.length_take_of_le hfits
  have hsplit := List.take_append_drop stop buffer
  refine ⟨buffer.take stop, hsplit.symm, ?_⟩
  have hcons : buffer.take stop = frame.first :: frame.second :: tail.take (stop - 2) := by
    obtain ⟨n, rfl⟩ : ∃ n, stop = n + 2 := ⟨stop - 2, by omega⟩
    rw [hbuffer]
    rfl
  have hfield : frameLength (buffer.take stop) frame.second = some (length, offset) := by
    rw [← hsplit] at hlength
    exact frameLength_front hlength (by omega)
  have hwhole : payloadOffset frame.masked offset + length ≤ (buffer.take stop).length := by omega
  have hsame := framePayload_append (buffer.drop stop) hwhole
  rw [hsplit] at hsame
  rw [readFrame_of_complete hcons hfield hwhole, ← Frame.masked, ← hsame, ← hpayload,
    List.drop_eq_nil_of_le (by omega)]

def frameVerdict (buffer : Buffer) : Verdict Unit UInt8 Frame :=
  match readFrame buffer with
  | none => .wait
  | some (frame, rest) => .advance () [frame] rest

theorem frameVerdict_none {buffer : Buffer} (h : readFrame buffer = none) :
    frameVerdict buffer = .wait := by
  rw [frameVerdict, h]

theorem frameVerdict_some {buffer rest : Buffer} {frame : Frame}
    (h : readFrame buffer = some (frame, rest)) :
    frameVerdict buffer = .advance () [frame] rest := by
  rw [frameVerdict, h]

theorem readFrame_of_advance {buffer rest : Buffer} {s' : Unit} {frames : List Frame}
    (h : frameVerdict buffer = .advance s' frames rest) :
    ∃ frame, frames = [frame] ∧ readFrame buffer = some (frame, rest) := by
  cases hread : readFrame buffer with
  | none =>
    rw [frameVerdict_none hread] at h
    cases h
  | some found =>
    obtain ⟨frame, rest'⟩ := found
    rw [frameVerdict_some hread] at h
    cases h
    exact ⟨frame, rfl, rfl⟩

theorem frameVerdict_ne_fail (buffer : Buffer) (frame : Frame) :
    frameVerdict buffer ≠ .fail frame := by
  intro h
  cases hread : readFrame buffer with
  | none =>
    rw [frameVerdict_none hread] at h
    cases h
  | some found =>
    rw [frameVerdict_some hread] at h
    cases h

/-- The complete frames of a stream, one after the other. -/
def frameReader : StreamParser Unit UInt8 Frame where
  verdict _ buffer := frameVerdict buffer
  verdict_nil _ := rfl
  advance_shorter h := by
    obtain ⟨frame, rfl, hread⟩ := readFrame_of_advance h
    exact readFrame_shorter hread
  advance_append h more := by
    obtain ⟨frame, rfl, hread⟩ := readFrame_of_advance h
    exact frameVerdict_some (readFrame_append hread more)
  fail_append h := absurd h (frameVerdict_ne_fail _ _)

def framesOf (stream : Buffer) : List Frame := (frameReader.loop () stream).2

theorem framesOf_none {buffer : Buffer} (h : readFrame buffer = none) : framesOf buffer = [] := by
  rw [framesOf, frameReader.loop_wait (frameVerdict_none h)]

theorem framesOf_some {buffer rest : Buffer} {frame : Frame}
    (h : readFrame buffer = some (frame, rest)) : framesOf buffer = frame :: framesOf rest := by
  rw [framesOf, frameReader.loop_advance (frameVerdict_some h)]
  rfl

/-- Induction along the complete frames of a stream. -/
theorem framesOf_induct {motive : Buffer → Prop}
    (none : ∀ buffer, readFrame buffer = none → motive buffer)
    (some : ∀ buffer frame rest, readFrame buffer = some (frame, rest) → motive rest →
      motive buffer) (buffer : Buffer) : motive buffer := by
  apply frameReader.loop_induct (motive := fun _ buffer => motive buffer) ?_ ?_ ?_ () buffer
  · intro _ buffer h
    cases hread : readFrame buffer with
    | none => exact none buffer hread
    | some found =>
      have hverdict : frameVerdict buffer = .wait := h
      rw [frameVerdict_some hread] at hverdict
      cases hverdict
  · intro _ buffer frame h
    exact absurd h (frameVerdict_ne_fail buffer frame)
  · intro _ buffer _ frames rest h ih
    obtain ⟨frame, -, hread⟩ := readFrame_of_advance h
    exact some buffer frame rest hread ih

/-! ### The grammar -/

/-- What the frames before a frame leave behind: the payload bytes of an unfinished message, and
whether a close frame was among them. -/
structure Context where
  fragmentBytes : Option ℕ := none
  closed : Bool := false
  deriving DecidableEq, Repr

def Context.next (c : Context) (frame : Frame) : Context :=
  if frame.isControl then { c with closed := c.closed || frame.opcode = opcodeClose }
  else
    { c with
      fragmentBytes :=
        if frame.fin then none else some (c.fragmentBytes.getD 0 + frame.payload.length) }

namespace Frame

/-- A frame with a reserved bit, or with an opcode that has no meaning. -/
def Reserved (frame : Frame) : Prop :=
  frame.reservedBits ≠ 0 ∨ 3 ≤ frame.opcode ∧ frame.opcode ≤ 7 ∨ 0xb ≤ frame.opcode

/-- A frame that the protocol forbids to a peer without extensions. -/
inductive Forbidden (isClient : Bool) (c : Context) (frame : Frame) : Prop
  | reserved (h : frame.Reserved)
  | fragmentedControl (hcontrol : frame.isControl = true) (hfin : frame.fin = false)
  | longControl (hcontrol : frame.isControl = true) (hlong : 125 < frame.payload.length)
  | mask (h : frame.masked = isClient)
  | noStart (hopcode : frame.opcode = opcodeContinuation) (h : c.fragmentBytes = none)
  | newData (hopcode : frame.opcode = opcodeText ∨ frame.opcode = opcodeBinary)
    (h : c.fragmentBytes.isSome = true)
  | topBit (h : 2 ^ 63 ≤ frame.payload.length)

/-- A frame that the parser refuses. -/
inductive Refused (cfg : ParserConfig) (c : Context) (frame : Frame) : Prop
  | mask (h : frame.masked = cfg.isClient)
  | cap (h : cfg.maxMessageBytes < frame.payload.length)
  | control (hcontrol : frame.isControl = true)
    (h : frame.fin = false ∨ 125 < frame.payload.length)
  | noStart (hopcode : frame.opcode = opcodeContinuation) (h : c.fragmentBytes = none)
  | newData (hcontrol : frame.isControl = false) (hopcode : frame.opcode ≠ opcodeContinuation)
    (h : c.fragmentBytes.isSome = true)
  | total (hopcode : frame.opcode = opcodeContinuation) (bytes : ℕ)
    (h : c.fragmentBytes = some bytes) (hcap : cfg.maxMessageBytes < bytes + frame.payload.length)

variable {cfg : ParserConfig} {c : Context} {frame : Frame}

/-- Of the forbidden frames, the parser refuses all that are not reserved. -/
theorem Forbidden.refused (h : frame.Forbidden cfg.isClient c) :
    frame.Reserved ∨ frame.Refused cfg c := by
  cases h with
  | reserved h => exact .inl h
  | fragmentedControl hcontrol hfin => exact .inr (.control hcontrol (.inl hfin))
  | longControl hcontrol hlong => exact .inr (.control hcontrol (.inr hlong))
  | mask h => exact .inr (.mask h)
  | noStart hopcode h => exact .inr (.noStart hopcode h)
  | newData hopcode h =>
    right
    cases hopcode with
    | inl htext => exact .newData (by rw [isControl, htext]; rfl) (by rw [htext]; decide) h
    | inr hbinary => exact .newData (by rw [isControl, hbinary]; rfl) (by rw [hbinary]; decide) h
  | topBit h =>
    have hsafe := cfg.maxMessageBytes_safe
    rw [maxSafeInteger] at hsafe
    exact .inr (.cap (by omega))

end Frame

/-- Some frame of the list is forbidden after those before it. -/
def Forbids (isClient : Bool) : Context → List Frame → Prop
  | _, [] => False
  | c, frame :: rest => frame.Forbidden isClient c ∨ Forbids isClient (c.next frame) rest

/-- Up to the first frame that the parser refuses, no frame is reserved, and no data frame that ends
a message comes after a close frame. -/
def Clean (cfg : ParserConfig) : Context → List Frame → Prop
  | _, [] => True
  | c, frame :: rest => frame.Refused cfg c ∨
      ¬frame.Reserved ∧ ¬(c.closed = true ∧ frame.isControl = false ∧ frame.fin = true) ∧
        Clean cfg (c.next frame) rest

/-- However a part of the stream from its start on is cut into chunks: if it contains a forbidden
frame, a failure has been reported, and no data is delivered after a close frame. -/
def Conforms (cfg : ParserConfig) (stream : Buffer) : Prop :=
  ∀ chunks : List Buffer, chunks.flatten <+: stream →
    (Forbids cfg.isClient {} (framesOf chunks.flatten) → ∃ e ∈ callbacks cfg chunks, e.IsError) ∧
    ∀ before code after, callbacks cfg chunks = before ++ .close code :: after →
      ∀ message, .message message ∉ after

/-! ### One frame -/

variable {cfg : ParserConfig} {c : Context} {s s' : Fragments} {frame : Frame}
  {buffer rest : Buffer} {events : List ParserEvent}

theorem length_framePayload {masked : Bool} {offset length : ℕ}
    (h : payloadOffset masked offset + length ≤ buffer.length) :
    (framePayload masked buffer offset length).length = length := by
  have hpayload : ((buffer.drop (payloadOffset masked offset)).take length).length = length := by
    rw [List.length_take, List.length_drop]
    omega
  rw [framePayload]
  cases masked with
  | false => exact hpayload
  | true => exact (length_applyMask _ _).trans hpayload

/-- The parser reads the same length field, unless it is over the cap. -/
theorem readLength_cases {second : UInt8} {length offset : ℕ}
    (h : frameLength buffer second = some (length, offset)) :
    readLength cfg buffer second = .known length offset ∨
      readLength cfg buffer second = .oversize ∧ cfg.maxMessageBytes < length := by
  rw [frameLength] at h
  rw [readLength]
  split_ifs at h with hshort hfew hlong hfew'
  · obtain ⟨rfl, rfl⟩ := Prod.mk.inj (Option.some.inj h)
    rw [if_pos hshort, if_neg hfew]
    exact .inl rfl
  · obtain ⟨rfl, rfl⟩ := Prod.mk.inj (Option.some.inj h)
    rw [if_neg hshort, if_pos hlong, if_neg hfew']
    dsimp only
    split_ifs with hcap
    · exact .inr ⟨rfl, hcap⟩
    · exact .inl rfl
  · obtain ⟨rfl, rfl⟩ := Prod.mk.inj (Option.some.inj h)
    rw [if_neg hshort, if_neg hlong]
    exact .inl rfl

theorem frameLength_of_known {second : UInt8} {length offset : ℕ}
    (h : readLength cfg buffer second = .known length offset) :
    frameLength buffer second = some (length, offset) := by
  rw [readLength] at h
  rw [frameLength]
  split_ifs at h with hshort hfew hlong hfew'
  · cases h
    rw [if_pos hshort, if_neg hfew]
  · dsimp only at h
    split_ifs at h
    cases h
    rw [if_neg hshort, if_pos hlong, if_neg hfew']
  · cases h
    rw [if_neg hshort, if_neg hlong]

/-- Only a complete frame lets the parser go on. -/
theorem readFrame_of_parseFrame (h : parseFrame cfg s buffer = .advance s' events rest) :
    ∃ frame, readFrame buffer = some (frame, rest) := by
  obtain ⟨first, second, tail, length, offset, hbuffer, hlength, -, hfits, hframe⟩ :=
    parseFrame_cases h
  obtain ⟨rfl, -⟩ := handleFrame_cases hframe
  exact ⟨_, readFrame_of_complete hbuffer (frameLength_of_known hlength) hfits⟩

/-- What an iteration does with a frame whose mask bit is right. -/
def parseMasked (cfg : ParserConfig) (s : Fragments) (buffer : Buffer) (frame : Frame) :
    Verdict Fragments UInt8 ParserEvent :=
  match readLength cfg buffer frame.second with
  | .incomplete => .wait
  | .oversize => .fail (.error "frame exceeds the message size cap")
  | .known length offset =>
    readPayload cfg s frame.fin frame.opcode frame.masked buffer length offset

/-- A complete frame is handled if its mask bit is right and it is within the cap, and refused
otherwise. -/
theorem parseFrame_complete (cfg : ParserConfig) (s : Fragments)
    (h : readFrame buffer = some (frame, rest)) :
    (frame.masked = cfg.isClient ∨ cfg.maxMessageBytes < frame.payload.length →
      ∃ message, parseFrame cfg s buffer = .fail (.error message)) ∧
    (frame.masked ≠ cfg.isClient → frame.payload.length ≤ cfg.maxMessageBytes →
      parseFrame cfg s buffer =
        handleFrame cfg s frame.fin frame.opcode frame.payload rest) := by
  obtain ⟨tail, length, offset, hbuffer, hlength, hfits, hpayload, rfl⟩ := readFrame_eq_some h
  have hsize : frame.payload.length = length := by
    rw [hpayload]
    exact length_framePayload hfits
  have hparse : parseFrame cfg s buffer =
      if cfg.isClient && frame.masked then .fail (.error "server frames must not be masked")
      else if !cfg.isClient && !frame.masked then .fail (.error "client frames must be masked")
      else parseMasked cfg s buffer frame := by
    rw [hbuffer]
    rfl
  rw [hparse]
  by_cases hmask : frame.masked = cfg.isClient
  · refine ⟨fun _ => ?_, fun hne => absurd hmask hne⟩
    rw [hmask]
    cases cfg.isClient with
    | false => exact ⟨_, rfl⟩
    | true => exact ⟨_, rfl⟩
  · have hright : ¬(cfg.isClient && frame.masked) = true ∧
        ¬(!cfg.isClient && !frame.masked) = true := by
      revert hmask
      cases frame.masked <;> cases cfg.isClient <;> decide
    rw [if_neg hright.1, if_neg hright.2, parseMasked]
    have hread : readLength cfg buffer frame.second = .known length offset ∨
        readLength cfg buffer frame.second = .oversize ∧ cfg.maxMessageBytes < length :=
      readLength_cases hlength
    constructor
    · intro hbad
      have hcap := hbad.resolve_left hmask
      rcases hread with hknown | ⟨hover, -⟩
      · rw [hknown]
        dsimp only
        rw [readPayload, if_pos (hsize ▸ hcap)]
        exact ⟨_, rfl⟩
      · rw [hover]
        exact ⟨_, rfl⟩
    · intro _ hcap
      rcases hread with hknown | ⟨-, hover⟩
      · rw [hknown]
        dsimp only
        rw [readPayload, if_neg (Nat.not_lt.mpr (hsize ▸ hcap)), if_neg (Nat.not_lt.mpr hfits),
          ← hpayload]
      · omega

/-! ### Events in order -/

/-- No data is delivered after a close frame, or at all where one came before. -/
def Ordered : Bool → List ParserEvent → Prop
  | _, [] => True
  | closed, .message _ :: rest => closed = false ∧ Ordered closed rest
  | _, .close _ :: rest => Ordered true rest
  | closed, .ping _ :: rest | closed, .pong _ :: rest | closed, .error _ :: rest =>
    Ordered closed rest

theorem ordered_true_iff :
    Ordered true events ↔ ∀ message, .message message ∉ events := by
  induction events with
  | nil => exact iff_of_true trivial fun _ => List.not_mem_nil
  | cons e rest ih =>
    cases e with
    | message message =>
      refine iff_of_false (fun h => Bool.noConfusion h.1) ?_
      intro h
      exact h message List.mem_cons_self
    | _ =>
      rw [Ordered, ih]
      simp only [List.mem_cons, reduceCtorEq, false_or]

/-- The order of the callbacks, told by where a close code stands. -/
theorem ordered_false_iff :
    Ordered false events ↔ ∀ before code after, events = before ++ .close code :: after →
      ∀ message, .message message ∉ after := by
  induction events with
  | nil =>
    refine iff_of_true trivial ?_
    intro before code after h
    exact absurd h.symm (List.append_ne_nil_of_right_ne_nil before (List.cons_ne_nil _ after))
  | cons e rest ih =>
    have hsplit : (∀ before code after, e :: rest = before ++ .close code :: after →
        ∀ message, .message message ∉ after) ↔
        ((∀ code, e = .close code → ∀ message, .message message ∉ rest) ∧
          ∀ before code after, rest = before ++ .close code :: after →
            ∀ message, .message message ∉ after) := by
      constructor
      · intro h
        constructor
        · rintro code rfl
          exact h [] code rest rfl
        · rintro before code after rfl
          exact h (e :: before) code after rfl
      · rintro ⟨hhead, htail⟩ before code after h
        cases before with
        | nil =>
          obtain ⟨rfl, rfl⟩ := List.cons.inj h
          exact hhead code rfl
        | cons first before =>
          obtain ⟨rfl, rfl⟩ := List.cons.inj h
          exact htail before code after rfl
    rw [hsplit, ← ih]
    cases e with
    | close code =>
      rw [Ordered, ordered_true_iff]
      constructor
      · intro h
        refine ⟨fun _ _ => h, ?_⟩
        apply ih.mpr
        rintro before code after rfl message hmem
        exact h message (List.mem_append_right _ (List.mem_cons_of_mem _ hmem))
      · intro h
        exact h.1 code rfl
    | message message =>
      rw [Ordered]
      exact ⟨fun h => ⟨nofun, h.2⟩, fun h => ⟨rfl, h.2⟩⟩
    | _ =>
      rw [Ordered]
      exact ⟨fun h => ⟨nofun, h⟩, fun h => h.2⟩

/-! ### Frames and the parser -/

/-- The fragments that the parser holds are those of the unfinished message. -/
structure Related (s : Fragments) (c : Context) : Prop where
  bytes : c.fragmentBytes = s.fragmentOpcode.map fun _ => s.fragmentBytes
  base : ∀ base, s.fragmentOpcode = some base → base = opcodeText ∨ base = opcodeBinary

theorem related_initial : Related .empty {} := ⟨rfl, nofun⟩

theorem opcode_of_control {opcode : UInt8} (hcontrol : 0x8 ≤ opcode) (hreserved : ¬0xb ≤ opcode) :
    opcode = opcodeClose ∨ opcode = opcodePing ∨ opcode = opcodePong := by
  simp only [UInt8.le_iff_toNat_le, ← UInt8.toNat_inj] at *
  have hclose : opcodeClose.toNat = 8 := rfl
  have hping : opcodePing.toNat = 9 := rfl
  have hpong : opcodePong.toNat = 10 := rfl
  have height : (8 : UInt8).toNat = 8 := rfl
  have heleven : (11 : UInt8).toNat = 11 := rfl
  omega

theorem opcode_of_data {opcode : UInt8} (hcontrol : ¬0x8 ≤ opcode)
    (hreserved : ¬(3 ≤ opcode ∧ opcode ≤ 7)) (hstart : opcode ≠ opcodeContinuation) :
    opcode = opcodeText ∨ opcode = opcodeBinary := by
  simp only [UInt8.le_iff_toNat_le, ← UInt8.toNat_inj, ne_eq] at *
  have hcontinuation : opcodeContinuation.toNat = 0 := rfl
  have htext : opcodeText.toNat = 1 := rfl
  have hbinary : opcodeBinary.toNat = 2 := rfl
  have hthree : (3 : UInt8).toNat = 3 := rfl
  have hseven : (7 : UInt8).toNat = 7 := rfl
  have height : (8 : UInt8).toNat = 8 := rfl
  omega

/-- A payload of data is delivered as a message. -/
theorem handleData_of_data {base : UInt8} (h : base = opcodeText ∨ base = opcodeBinary)
    (payload : Buffer) : ∃ message, handleData base payload = [.message message] := by
  cases h with
  | inl htext => exact ⟨_, by rw [handleData, if_pos htext]⟩
  | inr hbinary =>
    subst hbinary
    exact ⟨_, rfl⟩

/-- The parser refuses what it is said to refuse. -/
theorem parseFrame_refused (hrelated : Related s c) (h : readFrame buffer = some (frame, rest))
    (hrefused : frame.Refused cfg c) :
    ∃ message, parseFrame cfg s buffer = .fail (.error message) := by
  obtain ⟨hbad, hgood⟩ := parseFrame_complete cfg s h
  by_cases hheader : frame.masked = cfg.isClient ∨ cfg.maxMessageBytes < frame.payload.length
  · exact hbad hheader
  rw [not_or, Nat.not_lt] at hheader
  rw [hgood hheader.1 hheader.2, handleFrame]
  cases hrefused with
  | mask hmask => exact absurd hmask hheader.1
  | cap hcap => exact absurd hcap (Nat.not_lt.mpr hheader.2)
  | control hcontrol hshape =>
    rw [if_pos (of_decide_eq_true hcontrol), if_pos]
    · exact ⟨_, rfl⟩
    · simpa using hshape
  | noStart hopcode hnone =>
    rw [hrelated.bytes, Option.map_eq_none_iff] at hnone
    rw [hopcode, hnone]
    exact ⟨_, rfl⟩
  | newData hcontrol hopcode hsome =>
    rw [hrelated.bytes, Option.isSome_map] at hsome
    rw [if_neg (of_decide_eq_false hcontrol), if_neg hopcode, if_pos hsome]
    exact ⟨_, rfl⟩
  | total hopcode bytes hbytes hcap =>
    rw [hrelated.bytes] at hbytes
    obtain ⟨base, hbase, rfl⟩ := Option.map_eq_some_iff.mp hbytes
    rw [hopcode, hbase]
    dsimp only
    rw [if_neg (by decide), if_pos rfl, if_pos hcap]
    exact ⟨_, rfl⟩

/-- What the parser does with a frame it accepts, one that is not reserved. -/
structure Accepted (c : Context) (frame : Frame) (s' : Fragments) (events : List ParserEvent) :
    Prop where
  related : Related s' (c.next frame)
  ordered : ∀ more, Ordered c.closed (events ++ more) ↔
    ¬(c.closed = true ∧ frame.isControl = false ∧ frame.fin = true) ∧
      Ordered (c.next frame).closed more

/-- A control frame that is accepted. -/
theorem accepted_control (hrelated : Related s c) (hcontrol : frame.isControl = true)
    (hreserved : ¬frame.Reserved) : Accepted c frame s (handleData frame.opcode frame.payload) := by
  have hnext : c.next frame = { c with closed := c.closed || frame.opcode = opcodeClose } := by
    rw [Context.next, if_pos hcontrol]
  have hfree : ¬(c.closed = true ∧ frame.isControl = false ∧ frame.fin = true) := by
    rw [hcontrol]
    exact fun h => Bool.noConfusion h.2.1
  constructor
  · rw [hnext]
    exact ⟨hrelated.bytes, hrelated.base⟩
  · intro more
    rw [hnext, and_iff_right hfree]
    rcases opcode_of_control (of_decide_eq_true hcontrol) fun h => hreserved (.inr (.inr h)) with
      hopcode | hopcode | hopcode
    · rw [hopcode, decide_eq_true rfl, Bool.or_true]
      exact Iff.rfl
    · rw [hopcode]
      have hother : decide (opcodePing = opcodeClose) = false := by decide
      rw [hother, Bool.or_false]
      exact Iff.rfl
    · rw [hopcode]
      have hother : decide (opcodePong = opcodeClose) = false := by decide
      rw [hother, Bool.or_false]
      exact Iff.rfl

/-- A data frame that ends a message. -/
theorem accepted_final {base : UInt8} (hcontrol : frame.isControl = false) (hfin : frame.fin = true)
    (hbase : base = opcodeText ∨ base = opcodeBinary) (payload : Buffer)
    (hs : s'.fragmentOpcode = none) : Accepted c frame s' (handleData base payload) := by
  obtain ⟨message, hevents⟩ := handleData_of_data hbase payload
  have hnext : c.next frame = { c with fragmentBytes := none } := by
    rw [Context.next, if_neg (by rw [hcontrol]; exact Bool.false_ne_true), if_pos hfin]
  constructor
  · rw [hnext]
    refine ⟨?_, ?_⟩
    · rw [hs]
      rfl
    · intro base hsome
      rw [hs] at hsome
      cases hsome
  · intro more
    rw [hnext, hevents, List.singleton_append, Ordered, hcontrol, hfin]
    simp

/-- A data frame that does not end its message. -/
theorem accepted_partial {base : UInt8} (hcontrol : frame.isControl = false)
    (hfin : frame.fin = false) (hbase : base = opcodeText ∨ base = opcodeBinary)
    (hs : s'.fragmentOpcode = some base)
    (hbytes : s'.fragmentBytes = c.fragmentBytes.getD 0 + frame.payload.length) :
    Accepted c frame s' [] := by
  have hnext : c.next frame =
      { c with fragmentBytes := some (c.fragmentBytes.getD 0 + frame.payload.length) } := by
    rw [Context.next, if_neg (by rw [hcontrol]; exact Bool.false_ne_true),
      if_neg (by rw [hfin]; exact Bool.false_ne_true)]
  constructor
  · rw [hnext]
    refine ⟨?_, ?_⟩
    · rw [hs, Option.map_some, hbytes]
    · intro other hother
      rw [hs] at hother
      exact (Option.some.inj hother) ▸ hbase
  · intro more
    rw [hnext, hfin]
    simp

/-- The parser goes on after every frame that it does not refuse. -/
theorem parseFrame_accepted (hrelated : Related s c) (h : readFrame buffer = some (frame, rest))
    (haccepted : ¬frame.Refused cfg c) :
    ∃ s' events, parseFrame cfg s buffer = .advance s' events rest ∧
      (¬frame.Reserved → Accepted c frame s' events) := by
  have hmask : frame.masked ≠ cfg.isClient := fun hmask => haccepted (.mask hmask)
  have hcap : frame.payload.length ≤ cfg.maxMessageBytes :=
    Nat.le_of_not_lt fun hcap => haccepted (.cap hcap)
  rw [(parseFrame_complete cfg s h).2 hmask hcap, handleFrame]
  cases hcontrol : frame.isControl with
  | true =>
    have hshape : ¬(!frame.fin || decide (125 < frame.payload.length)) = true := by
      intro hshape
      exact haccepted (.control hcontrol (by simpa using hshape))
    rw [if_pos (of_decide_eq_true hcontrol), if_neg hshape]
    exact ⟨s, _, rfl, fun hreserved => accepted_control hrelated hcontrol hreserved⟩
  | false =>
    have hdata := of_decide_eq_false hcontrol
    rw [if_neg hdata]
    by_cases hopcode : frame.opcode = opcodeContinuation
    · rw [if_pos hopcode]
      cases hbase : s.fragmentOpcode with
      | none =>
        refine absurd (Frame.Refused.noStart hopcode ?_) haccepted
        rw [hrelated.bytes, hbase]
        rfl
      | some base =>
        have hbytes : c.fragmentBytes = some s.fragmentBytes := by
          rw [hrelated.bytes, hbase]
          rfl
        have htotal : ¬cfg.maxMessageBytes < s.fragmentBytes + frame.payload.length :=
          fun hcap => haccepted (.total hopcode _ hbytes hcap)
        have hkind := hrelated.base base hbase
        dsimp only
        rw [if_neg htotal]
        cases hfin : frame.fin with
        | true =>
          rw [if_pos rfl]
          exact ⟨_, _, rfl, fun _ => accepted_final hcontrol hfin hkind _ rfl⟩
        | false =>
          rw [if_neg Bool.false_ne_true]
          refine ⟨_, _, rfl, fun _ => accepted_partial hcontrol hfin hkind rfl ?_⟩
          rw [hbytes]
          rfl
    · have hnone : s.fragmentOpcode = none := by
        rw [← Option.not_isSome_iff_eq_none]
        intro hsome
        refine haccepted (.newData hcontrol hopcode ?_)
        rw [hrelated.bytes, Option.isSome_map]
        exact hsome
      have hbytes : c.fragmentBytes = none := by
        rw [hrelated.bytes, hnone]
        rfl
      have hstart : s.fragmentOpcode.isSome = false := by
        rw [hnone]
        rfl
      rw [if_neg hopcode, hstart, if_neg Bool.false_ne_true]
      have hkind : ¬frame.Reserved → frame.opcode = opcodeText ∨ frame.opcode = opcodeBinary :=
        fun hreserved => opcode_of_data hdata (fun h => hreserved (.inr (.inl h))) hopcode
      cases hfin : frame.fin with
      | true =>
        rw [if_pos rfl]
        exact ⟨s, _, rfl, fun hreserved =>
          accepted_final hcontrol hfin (hkind hreserved) _ hnone⟩
      | false =>
        rw [if_neg Bool.false_ne_true]
        refine ⟨_, _, rfl, fun hreserved => accepted_partial hcontrol hfin (hkind hreserved) rfl ?_⟩
        rw [hbytes]
        exact (Nat.zero_add _).symm

/-! ### Whole streams -/

/-- The callbacks on a stream, from any point on: a forbidden frame is reported, and no data comes
after a close frame. -/
def Good (cfg : ParserConfig) (s : Fragments) (c : Context) (stream : Buffer) : Prop :=
  (Forbids cfg.isClient c (framesOf stream) →
    ∃ e ∈ ((createFrameParser cfg).loop s stream).2, e.IsError) ∧
  Ordered c.closed ((createFrameParser cfg).loop s stream).2

/-- Without a complete frame there is nothing to deliver. -/
theorem good_of_none (h : readFrame buffer = none) : Good cfg s c buffer := by
  rw [Good, framesOf_none h]
  refine ⟨False.elim, ?_⟩
  cases hverdict : (createFrameParser cfg).verdict s buffer with
  | wait =>
    rw [StreamParser.loop_wait _ hverdict]
    trivial
  | fail event =>
    obtain ⟨message, rfl⟩ := parseFrame_fail hverdict
    rw [StreamParser.loop_fail _ hverdict]
    trivial
  | advance s' events rest =>
    obtain ⟨frame, hframe⟩ := readFrame_of_parseFrame hverdict
    rw [h] at hframe
    cases hframe

theorem good_of_refused (hrelated : Related s c) (h : readFrame buffer = some (frame, rest))
    (hrefused : frame.Refused cfg c) : Good cfg s c buffer := by
  obtain ⟨message, hverdict⟩ := parseFrame_refused hrelated h hrefused
  have hloop : ((createFrameParser cfg).loop s buffer).2 = [.error message] := by
    rw [StreamParser.loop_fail _ hverdict]
  rw [Good, hloop]
  exact ⟨fun _ => ⟨_, List.mem_singleton_self _, trivial⟩, trivial⟩

/-- A frame that is accepted and not reserved: what follows it decides. -/
theorem good_of_accepted (h : readFrame buffer = some (frame, rest))
    (hverdict : parseFrame cfg s buffer = .advance s' events rest)
    (haccepted : ¬frame.Refused cfg c) (hreserved : ¬frame.Reserved)
    (heffect : Accepted c frame s' events) :
    Good cfg s c buffer ↔
      ¬(c.closed = true ∧ frame.isControl = false ∧ frame.fin = true) ∧
        Good cfg s' (c.next frame) rest := by
  have hloop : ((createFrameParser cfg).loop s buffer).2 =
      events ++ ((createFrameParser cfg).loop s' rest).2 := by
    rw [StreamParser.loop_advance _ hverdict]
  have hforbidden : ¬frame.Forbidden cfg.isClient c :=
    fun hforbidden => hforbidden.refused.elim hreserved haccepted
  have herror : (∃ e ∈ events ++ ((createFrameParser cfg).loop s' rest).2, e.IsError) ↔
      ∃ e ∈ ((createFrameParser cfg).loop s' rest).2, e.IsError := by
    constructor
    · rintro ⟨e, he, hbad⟩
      exact ⟨e, (List.mem_append.mp he).resolve_left
        fun hin => parseFrame_not_error hverdict e hin hbad, hbad⟩
    · rintro ⟨e, he, hbad⟩
      exact ⟨e, List.mem_append_right _ he, hbad⟩
  rw [Good, Good, framesOf_some h, hloop, Forbids, or_iff_right hforbidden, herror,
    heffect.ordered]
  exact and_left_comm

/-- The parts of a stream from its start on that hold its first frame. -/
theorem forall_prefix_iff {P : Buffer → Prop} {front : Buffer}
    (h : readFrame front = some (frame, [])) (hnone : ∀ p, readFrame p = none → P p) :
    (∀ p, p <+: front ++ rest → P p) ↔ ∀ p, p <+: rest → P (front ++ p) := by
  constructor
  · intro hall p hp
    exact hall (front ++ p) ((List.prefix_append_right_inj front).mpr hp)
  · intro hall p hp
    cases hread : readFrame p with
    | none => exact hnone p hread
    | some found =>
      -- the frame that the part holds is the one at the front, so the rest follows it
      obtain ⟨frame', rest'⟩ := found
      obtain ⟨tail, htail⟩ := hp
      obtain ⟨front', rfl, hfront'⟩ := readFrame_front hread
      have hsame : some (frame, rest) = some (frame', rest' ++ tail) := by
        rw [← readFrame_append hread tail, htail]
        exact (readFrame_append h rest).symm
      obtain ⟨rfl, rfl⟩ := Prod.mk.inj (Option.some.inj hsame)
      have hfronts : front' = front := by
        rw [← List.append_assoc] at htail
        exact List.append_cancel_right (List.append_cancel_right htail)
      rw [hfronts]
      exact hall rest' ⟨tail, rfl⟩

/-- Along a stream, the parser follows the protocol exactly where the frames are clean. -/
theorem good_iff (hrelated : Related s c) :
    (∀ p, p <+: buffer → Good cfg s c p) ↔ Clean cfg c (framesOf buffer) := by
  induction buffer using framesOf_induct generalizing s c with
  | none buffer hnone =>
    rw [framesOf_none hnone]
    refine iff_of_true ?_ trivial
    rintro p ⟨tail, rfl⟩
    apply good_of_none
    cases hread : readFrame p with
    | none => rfl
    | some found =>
      rw [readFrame_append hread tail] at hnone
      cases hnone
  | some buffer frame rest hread ih =>
    obtain ⟨front, rfl, hfront⟩ := readFrame_front hread
    rw [framesOf_some hread, Clean, forall_prefix_iff hfront fun p hp => good_of_none hp]
    have hreads : ∀ p, readFrame (front ++ p) = some (frame, p) :=
      fun p => readFrame_append hfront p
    by_cases hrefused : frame.Refused cfg c
    · exact iff_of_true (fun p _ => good_of_refused hrelated (hreads p) hrefused) (.inl hrefused)
    rw [or_iff_right hrefused]
    obtain ⟨s', events, hverdict, heffect⟩ := parseFrame_accepted hrelated hfront hrefused
    have hverdicts : ∀ p, parseFrame cfg s (front ++ p) = .advance s' events p :=
      fun p => (createFrameParser cfg).advance_append hverdict p
    by_cases hreserved : frame.Reserved
    · refine iff_of_false ?_ fun h => h.1 hreserved
      intro h
      have hgood := (h [] List.nil_prefix).1
      have hempty : ((createFrameParser cfg).loop s (front ++ [])).2 = events := by
        rw [StreamParser.loop_advance _ (hverdicts []),
          StreamParser.loop_wait _ ((createFrameParser cfg).verdict_nil s'), List.append_nil]
      rw [framesOf_some (hreads []), hempty] at hgood
      obtain ⟨e, he, hbad⟩ := hgood (.inl (.reserved hreserved))
      exact parseFrame_not_error hverdict e he hbad
    · have haccepted := heffect hreserved
      have hstep := fun p =>
        good_of_accepted (hreads p) (hverdicts p) hrefused hreserved haccepted
      rw [and_iff_right hreserved, ← ih haccepted.related]
      constructor
      · intro h
        refine ⟨((hstep []).mp (h [] List.nil_prefix)).1, ?_⟩
        intro p hp
        exact ((hstep p).mp (h p hp)).2
      · rintro ⟨hfree, hrest⟩ p hp
        exact (hstep p).mpr ⟨hfree, hrest p hp⟩

theorem callbacks_eq_loop (cfg : ParserConfig) (chunks : List Buffer) :
    callbacks cfg chunks = ((createFrameParser cfg).loop .empty chunks.flatten).2 := by
  rw [callbacks_flatten]
  rfl

/-- The parser reports forbidden frames and delivers no data after a close frame exactly on the
streams in which no frame is reserved, and none is final data after a close frame, up to the first
frame that the parser refuses. -/
theorem conforms_iff (cfg : ParserConfig) (stream : Buffer) :
    Conforms cfg stream ↔ Clean cfg {} (framesOf stream) := by
  rw [← good_iff related_initial]
  constructor
  · intro h p hp
    have hwhole : [p].flatten = p := List.flatten_singleton
    obtain ⟨hreport, horder⟩ := h [p] (hwhole.symm ▸ hp)
    rw [callbacks_eq_loop, hwhole] at hreport horder
    exact ⟨hreport, ordered_false_iff.mpr horder⟩
  · intro h chunks hchunks
    obtain ⟨hreport, horder⟩ := h chunks.flatten hchunks
    rw [callbacks_eq_loop]
    exact ⟨hreport, ordered_false_iff.mp horder⟩

/-- A masked, empty text frame with the first reserved bit set is delivered as a message. -/
theorem reserved_bit_accepted : ¬∀ cfg stream, Conforms cfg stream := by
  intro h
  have hconforms := h ⟨false, 65536, by decide⟩ [0xc1, 0x80, 0, 0, 0, 0]
  have hframes : framesOf [0xc1, 0x80, 0, 0, 0, 0] = [⟨0xc1, 0x80, []⟩] := by decide
  have hforbids : Forbids false {} (framesOf [[0xc1, 0x80, 0, 0, 0, 0]].flatten) := by
    rw [List.flatten_singleton, hframes]
    exact .inl (.reserved (.inl (by decide)))
  have hcallbacks : callbacks ⟨false, 65536, by decide⟩ [[0xc1, 0x80, 0, 0, 0, 0]] =
      [.message (.text "")] := by decide
  obtain ⟨e, he, hbad⟩ := (hconforms [[0xc1, 0x80, 0, 0, 0, 0]] List.prefix_rfl).1 hforbids
  rw [hcallbacks, List.mem_singleton] at he
  subst he
  exact hbad

end DshOrbit.ReverseWs
