import DshOrbit.Lib.Bytes
import DshOrbit.Lib.StreamParser

/-!
# The reverse WebSocket codec

The RFC 6455 frame codec of the reverse transport (`registry/reverse-ws.mjs`):
the encoder that writes one frame for each message, and the streaming parser
that both ends run on raw socket chunks.

## Main definitions

- `encodeFrame` — one frame with FIN set, masked for client frames
- `ParserConfig` — the role of the parser and its message size cap
- `parseFrame` — one iteration of the parser loop
- `createFrameParser` — the parser as an incremental stream parser
-/

namespace DshOrbit.ReverseWs

open DshOrbit.Lib

abbrev Buffer := List UInt8

def opcodeContinuation : UInt8 := 0x0
def opcodeText : UInt8 := 0x1
def opcodeBinary : UInt8 := 0x2
def opcodeClose : UInt8 := 0x8
def opcodePing : UInt8 := 0x9
def opcodePong : UInt8 := 0xa

/-- `Number.MAX_SAFE_INTEGER`; no buffer is longer. -/
def maxSafeInteger : ℕ := 9007199254740991

/-! ### Encoding -/

/-- The four bytes that `randomBytes(4)` returns. -/
structure MaskingKey where
  bytes : Buffer
  length_eq : bytes.length = 4

/-- `payload[i] ^ maskingKey[i % 4]` for every byte. -/
def applyMask (maskingKey payload : Buffer) : Buffer :=
  payload.mapIdx fun i b => b ^^^ maskingKey.getD (i % 4) 0

def maskBit (mask : Bool) : UInt8 := if mask then 0x80 else 0x00

/-- The first two bytes and the extended length of a frame. FIN is set: a sender
writes one frame for each message. -/
def frameHeader (opcode : UInt8) (mask : Bool) (length : ℕ) : Buffer :=
  if length < 126 then [0x80 ||| opcode, maskBit mask ||| UInt8.ofNat length]
  else if length < 65536 then [0x80 ||| opcode, maskBit mask ||| 126] ++ toBigEndian 2 length
  else [0x80 ||| opcode, maskBit mask ||| 127] ++ toBigEndian 8 length

/-- Encode one frame. The masking key is drawn only when `mask` is set. -/
def encodeFrame (opcode : UInt8) (payload : Buffer) (mask : Bool) (maskingKey : MaskingKey) :
    Buffer :=
  let header := frameHeader opcode mask payload.length
  if !mask then header ++ payload
  else header ++ maskingKey.bytes ++ applyMask maskingKey.bytes payload

/-! ### The streaming parser -/

structure ParserConfig where
  isClient : Bool
  maxMessageBytes : ℕ
  maxMessageBytes_safe : maxMessageBytes ≤ maxSafeInteger

/-- A data message as `onMessage` receives it. -/
inductive Message
  | text (text : String)
  | binary (payload : Buffer)
  deriving DecidableEq

/-- The callbacks of the parser. -/
inductive ParserEvent
  | message (message : Message)
  | ping (payload : Buffer)
  | pong (payload : Buffer)
  | close (code : ℕ)
  | error (message : String)
  deriving DecidableEq

/-- The fragments of the data message that is being reassembled. -/
structure Fragments where
  fragments : List Buffer
  fragmentOpcode : Option UInt8
  fragmentBytes : ℕ
  deriving DecidableEq

def Fragments.empty : Fragments := ⟨[], none, 0⟩

/-- The status code a close payload carries: its first two bytes, or 1005 where
it carries none. -/
def closeCode (payload : Buffer) : ℕ :=
  if 2 ≤ payload.length then ofBigEndian (payload.take 2) else 1005

/-- Hand one complete payload to its callback; a reserved opcode has none. -/
def handleData (opcode : UInt8) (payload : Buffer) : List ParserEvent :=
  if opcode = opcodeText then [.message (.text (utf8Decode payload))]
  else if opcode = opcodeBinary then [.message (.binary payload)]
  else if opcode = opcodeClose then [.close (closeCode payload)]
  else if opcode = opcodePing then [.ping payload]
  else if opcode = opcodePong then [.pong payload]
  else []

/-- The payload length of the frame at the front and where its extended length
ends. -/
inductive LengthField
  | incomplete
  | oversize
  | known (length offset : ℕ)
  deriving DecidableEq

def readLength (cfg : ParserConfig) (buffer : Buffer) (second : UInt8) : LengthField :=
  let length := (second &&& 0x7f).toNat
  if length = 126 then
    if buffer.length < 4 then .incomplete
    else .known (ofBigEndian ((buffer.drop 2).take 2)) 4
  else if length = 127 then
    if buffer.length < 10 then .incomplete
    else
      let big := ofBigEndian ((buffer.drop 2).take 8)
      if cfg.maxMessageBytes < big then .oversize else .known big 10
  else .known length 2

/-- What the parser does with one complete frame. -/
def handleFrame (cfg : ParserConfig) (s : Fragments) (fin : Bool) (opcode : UInt8)
    (payload rest : Buffer) : Verdict Fragments UInt8 ParserEvent :=
  if 0x8 ≤ opcode then
    if !fin || 125 < payload.length then .fail (.error "invalid control frame")
    else .advance s (handleData opcode payload) rest
  else if opcode = opcodeContinuation then
    match s.fragmentOpcode with
    | none => .fail (.error "continuation without an initial fragment")
    | some base =>
      let fragments := s.fragments ++ [payload]
      let fragmentBytes := s.fragmentBytes + payload.length
      if cfg.maxMessageBytes < fragmentBytes then
        .fail (.error "fragmented message exceeds the message size cap")
      else if fin then .advance .empty (handleData base fragments.flatten) rest
      else .advance ⟨fragments, some base, fragmentBytes⟩ [] rest
  else if s.fragmentOpcode.isSome then
    .fail (.error "new data frame during fragmentation")
  else if fin then .advance s (handleData opcode payload) rest
  else .advance ⟨[payload], some opcode, payload.length⟩ [] rest

/-- Where the payload starts: a masked frame carries its four key bytes first. -/
def payloadOffset (masked : Bool) (offset : ℕ) : ℕ :=
  if masked then offset + 4 else offset

/-- The payload of the complete frame at the front, unmasked. -/
def framePayload (masked : Bool) (buffer : Buffer) (offset length : ℕ) : Buffer :=
  let payload := (buffer.drop (payloadOffset masked offset)).take length
  if masked then applyMask ((buffer.drop offset).take 4) payload else payload

/-- The rest of an iteration once the length field is known. -/
def readPayload (cfg : ParserConfig) (s : Fragments) (fin : Bool) (opcode : UInt8)
    (masked : Bool) (buffer : Buffer) (length offset : ℕ) :
    Verdict Fragments UInt8 ParserEvent :=
  if cfg.maxMessageBytes < length then .fail (.error "frame exceeds the message size cap")
  else if buffer.length < payloadOffset masked offset + length then .wait
  else
    handleFrame cfg s fin opcode (framePayload masked buffer offset length)
      (buffer.drop (payloadOffset masked offset + length))

/-- One iteration of the parser loop on the unparsed buffer. -/
def parseFrame (cfg : ParserConfig) (s : Fragments) (buffer : Buffer) :
    Verdict Fragments UInt8 ParserEvent :=
  match buffer with
  | first :: second :: _ =>
    let fin := first &&& 0x80 != 0
    let opcode := first &&& 0x0f
    let masked := second &&& 0x80 != 0
    if cfg.isClient && masked then .fail (.error "server frames must not be masked")
    else if !cfg.isClient && !masked then .fail (.error "client frames must be masked")
    else
      match readLength cfg buffer second with
      | .incomplete => .wait
      | .oversize => .fail (.error "frame exceeds the message size cap")
      | .known length offset => readPayload cfg s fin opcode masked buffer length offset
  | _ => .wait

end DshOrbit.ReverseWs
