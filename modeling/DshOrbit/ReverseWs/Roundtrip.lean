import DshOrbit.ReverseWs.Chunking

/-!
# Round trip of the frame codec

What one end encodes, the parser of the other end delivers: each encoded frame
is one decision of the parser, whatever follows it, so a sequence of frames is
delivered as the sequence of its messages.

## Main definitions

- `Outgoing` — a message as a sender frames it
- `encodeMessages` — the bytes of a list of messages

## Main results

- `parseFrame_encodeFrame` — the parser reads back one encoded frame
- `callbacks_encodeMessages` — the round trip of every list of messages
-/

namespace DshOrbit.ReverseWs

open DshOrbit.Lib

/-- A message that one end sends. -/
inductive Outgoing
  | text (text : String)
  | binary (payload : Buffer)
  | ping (payload : Buffer)
  | pong (payload : Buffer)
  | close (payload : Buffer)
  deriving DecidableEq

namespace Outgoing

def opcode : Outgoing → UInt8
  | text _ => opcodeText
  | binary _ => opcodeBinary
  | ping _ => opcodePing
  | pong _ => opcodePong
  | close _ => opcodeClose

def payload : Outgoing → Buffer
  | text t => utf8Bytes t
  | binary payload => payload
  | ping payload => payload
  | pong payload => payload
  | close payload => payload

def isControl : Outgoing → Bool
  | text _ => false
  | binary _ => false
  | _ => true

/-- What the peer's callbacks receive of the message. -/
def delivered : Outgoing → ParserEvent
  | text t => .message (.text t)
  | binary payload => .message (.binary payload)
  | ping payload => .ping payload
  | pong payload => .pong payload
  | close payload => .close (closeCode payload)

/-- The sizes a message may have: the cap of the parser for a data message, 125
bytes for a control frame. -/
def WithinLimits (cfg : ParserConfig) (m : Outgoing) : Prop :=
  if m.isControl then m.payload.length ≤ 125 else m.payload.length ≤ cfg.maxMessageBytes

instance (cfg : ParserConfig) (m : Outgoing) : Decidable (m.WithinLimits cfg) :=
  inferInstanceAs (Decidable (if m.isControl then _ else _))

end Outgoing

/-- The concatenated frames of a list of messages. A sender masks exactly when
the peer's parser is not a client. -/
def encodeMessages (cfg : ParserConfig) (msgs : List (Outgoing × MaskingKey)) : Buffer :=
  msgs.flatMap fun m => encodeFrame m.1.opcode m.1.payload (!cfg.isClient) m.2

/-! ### Masking -/

/-- Masking twice with one key restores the payload. -/
theorem applyMask_applyMask (maskingKey payload : Buffer) :
    applyMask maskingKey (applyMask maskingKey payload) = payload := by
  apply List.ext_getElem
  · simp [length_applyMask]
  · intro i h₁ h₂
    simp [applyMask, UInt8.xor_assoc]

/-! ### The header -/

/-- FIN and the opcode are read back from the first byte. -/
theorem first_byte {opcode : UInt8} (h : opcode < 16) :
    ((0x80 ||| opcode) &&& 0x80 != 0) = true ∧ (0x80 ||| opcode) &&& 0x0f = opcode := by
  have hall : ∀ n : Fin 16, ((0x80 ||| UInt8.ofNat n) &&& 0x80 != 0) = true ∧
      (0x80 ||| UInt8.ofNat n) &&& 0x0f = UInt8.ofNat n := by decide
  have hlt : opcode.toNat < 16 := h
  simpa using hall ⟨opcode.toNat, hlt⟩

/-- The mask bit and the seven length bits are read back from the second byte. -/
theorem second_byte (mask : Bool) {length : ℕ} (h : length < 128) :
    ((maskBit mask ||| UInt8.ofNat length) &&& 0x80 != 0) = mask ∧
      ((maskBit mask ||| UInt8.ofNat length) &&& 0x7f).toNat = length := by
  have hall : ∀ (mask : Bool) (n : Fin 128),
      ((maskBit mask ||| UInt8.ofNat n) &&& 0x80 != 0) = mask ∧
        ((maskBit mask ||| UInt8.ofNat n) &&& 0x7f).toNat = n := by
    decide
  exact hall mask ⟨length, h⟩

/-- The header of a frame of a legal length, as the parser reads it. -/
theorem frameHeader_read (cfg : ParserConfig) (opcode : UInt8) (mask : Bool) {length : ℕ}
    (hlen : length ≤ cfg.maxMessageBytes) (behind : Buffer) :
    ∃ second tail, frameHeader opcode mask length ++ behind = (0x80 ||| opcode) :: second :: tail ∧
      (second &&& 0x80 != 0) = mask ∧
      readLength cfg (frameHeader opcode mask length ++ behind) second =
        .known length (frameHeader opcode mask length).length := by
  have hsafe := cfg.maxMessageBytes_safe
  unfold maxSafeInteger at hsafe
  unfold frameHeader readLength
  by_cases h126 : length < 126
  · -- the second byte holds the length
    obtain ⟨hmask, hseven⟩ := second_byte mask (show length < 128 by omega)
    refine ⟨maskBit mask ||| UInt8.ofNat length, behind, by simp [h126], hmask, ?_⟩
    simp only [hseven, if_pos h126, if_neg (show ¬length = 126 by omega),
      if_neg (show ¬length = 127 by omega)]
    rfl
  by_cases h65536 : length < 65536
  · -- 16-bit length
    obtain ⟨hmask, hseven⟩ := second_byte mask (show 126 < 128 by omega)
    refine ⟨maskBit mask ||| 126, toBigEndian 2 length ++ behind, by simp [h126, h65536],
      hmask, ?_⟩
    have htake : ((([0x80 ||| opcode, maskBit mask ||| 126] ++ toBigEndian 2 length) ++
        behind).drop 2).take 2 = toBigEndian 2 length := by
      simp
    have hseven' : ((maskBit mask ||| 126) &&& 0x7f).toNat = 126 := hseven
    simp only [hseven', if_neg h126, if_pos h65536, if_true, htake,
      ofBigEndian_toBigEndian (show length < 256 ^ 2 by omega)]
    rw [if_neg (by simp)]
    simp
  · -- 64-bit length
    obtain ⟨hmask, hseven⟩ := second_byte mask (show 127 < 128 by omega)
    refine ⟨maskBit mask ||| 127, toBigEndian 8 length ++ behind, by simp [h126, h65536],
      hmask, ?_⟩
    have htake : ((([0x80 ||| opcode, maskBit mask ||| 127] ++ toBigEndian 8 length) ++
        behind).drop 2).take 8 = toBigEndian 8 length := by
      simp
    have hseven' : ((maskBit mask ||| 127) &&& 0x7f).toNat = 127 := hseven
    simp only [hseven', if_neg h126, if_neg h65536, if_true, htake,
      ofBigEndian_toBigEndian (show length < 256 ^ 8 by omega),
      if_neg (show ¬127 = 126 by omega), if_neg (Nat.not_lt.mpr hlen)]
    rw [if_neg (by simp)]
    simp

/-! ### One frame -/

/-- The payload of an encoded frame, as the parser reads it. -/
theorem framePayload_encode (mask : Bool) (header payload rest : Buffer)
    (maskingKey : MaskingKey) :
    framePayload mask
      (header ++ ((if mask then maskingKey.bytes ++ applyMask maskingKey.bytes payload
        else payload) ++ rest)) header.length payload.length = payload := by
  have hkey := maskingKey.length_eq
  unfold framePayload payloadOffset
  cases mask with
  | false => simp
  | true =>
    have hdrop : ((header ++ (maskingKey.bytes ++ applyMask maskingKey.bytes payload ++
        rest)).drop (header.length + 4)).take payload.length =
          applyMask maskingKey.bytes payload := by
      rw [← hkey, List.drop_length_add_append]
      simp [List.append_assoc, ← length_applyMask maskingKey.bytes payload]
    have hbytes : ((header ++ (maskingKey.bytes ++ applyMask maskingKey.bytes payload ++
        rest)).drop header.length).take 4 = maskingKey.bytes := by
      rw [List.drop_left, ← hkey, List.append_assoc, List.take_left]
    simp only [if_true, hdrop, hbytes, applyMask_applyMask]

theorem encodeFrame_eq (opcode : UInt8) (payload : Buffer) (mask : Bool)
    (maskingKey : MaskingKey) (rest : Buffer) :
    encodeFrame opcode payload mask maskingKey ++ rest =
      frameHeader opcode mask payload.length ++
        ((if mask then maskingKey.bytes ++ applyMask maskingKey.bytes payload else payload) ++
          rest) := by
  unfold encodeFrame
  cases mask <;> simp [List.append_assoc]

/-- What stands behind the header: the key of a masked frame, the payload as it
is on the wire, and the bytes after the frame. -/
theorem payload_extent (mask : Bool) (header payload rest : Buffer) (maskingKey : MaskingKey) :
    let behind := (if mask then maskingKey.bytes ++ applyMask maskingKey.bytes payload
      else payload) ++ rest
    (header ++ behind).length = payloadOffset mask header.length + payload.length + rest.length ∧
      (header ++ behind).drop (payloadOffset mask header.length + payload.length) = rest := by
  have hkey := maskingKey.length_eq
  have hmasked := length_applyMask maskingKey.bytes payload
  unfold payloadOffset
  cases mask with
  | false =>
    refine ⟨by simp; omega, ?_⟩
    simp only [Bool.false_eq_true, if_false, List.drop_length_add_append, List.drop_left]
  | true =>
    refine ⟨by simp; omega, ?_⟩
    have hextent : header.length + 4 + payload.length =
        (header ++ (maskingKey.bytes ++ applyMask maskingKey.bytes payload)).length := by
      simp only [List.length_append]
      omega
    have hassoc : header ++ (maskingKey.bytes ++ applyMask maskingKey.bytes payload ++ rest) =
        (header ++ (maskingKey.bytes ++ applyMask maskingKey.bytes payload)) ++ rest := by
      simp only [List.append_assoc]
    simp only [if_true]
    rw [hassoc, hextent, List.drop_left]

/-- The parser reads back one encoded frame, whatever follows it. -/
theorem parseFrame_encodeFrame (cfg : ParserConfig) {s : Fragments} {opcode : UInt8}
    {payload : Buffer} (maskingKey : MaskingKey) (rest : Buffer) (hop : opcode < 16)
    (hlen : payload.length ≤ cfg.maxMessageBytes) :
    parseFrame cfg s (encodeFrame opcode payload (!cfg.isClient) maskingKey ++ rest) =
      handleFrame cfg s true opcode payload rest := by
  rw [encodeFrame_eq]
  have hpayload := framePayload_encode (!cfg.isClient)
    (frameHeader opcode (!cfg.isClient) payload.length) payload rest maskingKey
  obtain ⟨hextent, hdrop⟩ := payload_extent (!cfg.isClient)
    (frameHeader opcode (!cfg.isClient) payload.length) payload rest maskingKey
  generalize (if (!cfg.isClient) = true then maskingKey.bytes ++ applyMask maskingKey.bytes payload
    else payload) ++ rest = behind at hpayload hextent hdrop ⊢
  obtain ⟨second, tail, hcons, hmask, hread⟩ :=
    frameHeader_read cfg opcode (!cfg.isClient) hlen behind
  obtain ⟨hfin, hopcode⟩ := first_byte hop
  rw [hcons] at hread hpayload hextent hdrop ⊢
  simp only [parseFrame, hmask, hfin, hopcode, hread, readPayload, hpayload, hdrop,
    if_neg (Nat.not_lt.mpr hlen)]
  rw [if_neg (by simp), if_neg (by simp), if_neg (by omega)]

/-! ### Every list of messages -/

/-- One encoded message is one decision of an unfragmented parser. -/
theorem parseFrame_outgoing (cfg : ParserConfig) {m : Outgoing} (maskingKey : MaskingKey)
    (hlimit : m.WithinLimits cfg) (hcap : m.payload.length ≤ cfg.maxMessageBytes)
    (rest : Buffer) :
    parseFrame cfg .empty
        (encodeFrame m.opcode m.payload (!cfg.isClient) maskingKey ++ rest) =
      .advance .empty [m.delivered] rest := by
  have hop : m.opcode < 16 := by cases m <;> simp only [Outgoing.opcode] <;> decide
  rw [parseFrame_encodeFrame cfg maskingKey rest hop hcap]
  unfold Outgoing.WithinLimits at hlimit
  cases m with
  | text t =>
    have htext : utf8Decode (Outgoing.text t).payload = t := utf8Decode_utf8Bytes t
    simp [handleFrame, handleData, Outgoing.opcode, Outgoing.delivered, Fragments.empty, htext,
      opcodeText, opcodeContinuation]
  | binary payload =>
    simp [handleFrame, handleData, Outgoing.opcode, Outgoing.payload, Outgoing.delivered,
      Fragments.empty, opcodeText, opcodeBinary, opcodeContinuation]
  | ping payload =>
    have hle : ¬125 < payload.length := Nat.not_lt.mpr hlimit
    simp [handleFrame, handleData, Outgoing.opcode, Outgoing.payload, Outgoing.delivered, hle,
      opcodeText, opcodeBinary, opcodeClose, opcodePing]
  | pong payload =>
    have hle : ¬125 < payload.length := Nat.not_lt.mpr hlimit
    simp [handleFrame, handleData, Outgoing.opcode, Outgoing.payload, Outgoing.delivered, hle,
      opcodeText, opcodeBinary, opcodeClose, opcodePing, opcodePong]
  | close payload =>
    have hle : ¬125 < payload.length := Nat.not_lt.mpr hlimit
    simp [handleFrame, handleData, Outgoing.opcode, Outgoing.payload, Outgoing.delivered, hle,
      opcodeText, opcodeBinary, opcodeClose]

/-- **Round trip.** The frames of any list of messages within the limits, fed to
the parser of the peer in any chunks, deliver exactly those messages in order,
without a failure and with nothing left over. -/
theorem callbacks_encodeMessages (cfg : ParserConfig) (msgs : List (Outgoing × MaskingKey))
    (hlimits : ∀ m ∈ msgs, m.1.WithinLimits cfg)
    (hcap : ∀ m ∈ msgs, m.1.payload.length ≤ cfg.maxMessageBytes)
    (chunks : List Buffer) (hchunks : chunks.flatten = encodeMessages cfg msgs) :
    callbacks cfg chunks = msgs.map (fun m => m.1.delivered) ∧
      pushed cfg chunks = ParserState.initial := by
  have hmsg : ∀ m ∈ msgs, ∀ rest, (createFrameParser cfg).verdict .empty
      (encodeFrame m.1.opcode m.1.payload (!cfg.isClient) m.2 ++ rest) =
        .advance .empty [m.1.delivered] rest :=
    fun m hm rest => parseFrame_outgoing cfg m.2 (hlimits m hm) (hcap m hm) rest
  obtain ⟨hagree, hevents⟩ :=
    (createFrameParser cfg).feedAll_flatten (initial_settled cfg) chunks
  have hbytes : (createFrameParser cfg).feed ParserState.initial chunks.flatten =
      (ParserState.initial, msgs.map fun m => m.1.delivered) := by
    rw [hchunks]; exact (createFrameParser cfg).feed_flatMap hmsg
  rw [hbytes] at hagree hevents
  exact ⟨hevents.symm, (hagree.2 hagree.1.symm).symm⟩

/-- A text, an empty ping and a close frame from a masking sender. -/
theorem callbacks_encodeMessages_client :
    callbacks ⟨false, 65536, by decide⟩
        [encodeMessages ⟨false, 65536, by decide⟩
          [(.text "ok", ⟨[1, 2, 3, 4], rfl⟩), (.ping [], ⟨[9, 9, 9, 9], rfl⟩),
            (.close [3, 232], ⟨[0, 0, 0, 0], rfl⟩)]] =
      [.message (.text "ok"), .ping [], .close 1000] :=
  (callbacks_encodeMessages ⟨false, 65536, by decide⟩
    [(.text "ok", ⟨[1, 2, 3, 4], rfl⟩), (.ping [], ⟨[9, 9, 9, 9], rfl⟩),
      (.close [3, 232], ⟨[0, 0, 0, 0], rfl⟩)]
    (by decide +kernel) (by decide +kernel) _ (List.append_nil _)).1

/-- The cap bounds control frames too: under a cap of one byte a ping of two
bytes is a failure. -/
theorem small_cap_rejects_ping :
    (Outgoing.ping [7, 7]).WithinLimits ⟨true, 1, by decide⟩ ∧
      callbacks ⟨true, 1, by decide⟩
          [encodeMessages ⟨true, 1, by decide⟩ [(.ping [7, 7], ⟨[0, 0, 0, 0], rfl⟩)]] =
        [.error "frame exceeds the message size cap"] ∧
      callbacks ⟨true, 1, by decide⟩
          [encodeMessages ⟨true, 1, by decide⟩ [(.ping [7, 7], ⟨[0, 0, 0, 0], rfl⟩)]] ≠
        [(Outgoing.ping [7, 7]).delivered] := by
  decide

end DshOrbit.ReverseWs
