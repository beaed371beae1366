import ClusterWire.Failure
import ClusterWire.Message
import ClusterWire.Utf8

/-! Length-prefixed binary frames, all integers big-endian:

    tag 2 | length 4 | kind 1 | sequence 8 | module 2 | method 1
    caller 8              on internal requests only
    hint length 1 | hint  when bit 0x80 of the kind is set
    body

The length counts the bytes after itself. -/
namespace ClusterWire.Frame

/-- The tag and the length. -/
def prefixLength : Nat := 6

/-- Kind, sequence number, module and method. -/
def headerLength : Nat := 12

def callerLength : Nat := 8

def defaultLimit : Nat := 4 * 1024 * 1024

inductive HeaderFault where
  | misplacedHint (family : Family) (kind : Kind)
  | hintEncoding (fault : Utf8.Fault)
  | lengthMismatch (declared held : Nat)
  | textMessage
  | described (text : String)
deriving DecidableEq, Repr

def HeaderFault.message : HeaderFault → String
  | misplacedHint family kind => s!"origin hint flag on a {family.text} {kind.text} frame"
  | hintEncoding fault => s!"origin hint is not utf-8: {fault.message}"
  | lengthMismatch declared held => s!"length field says {declared} bytes, payload has {held}"
  | textMessage => "text WebSocket messages are not accepted"
  | described text => text

inductive Fault where
  | unknownFamily (tag : UInt16)
  | unknownKind (kind : UInt8)
  | tooShort (length minimum : Nat)
  | tooLarge (length limit : Nat)
  | truncated (needed held : Nat)
  | invalidHeader (reason : HeaderFault)
  | hintTooLong (length : Nat)
deriving DecidableEq, Repr

def tagText (tag : UInt16) : String := s!"0x{Bytes.hex (Bytes.bigEndian 2 tag.toNat)}"

def Fault.message : Fault → String
  | unknownFamily tag => s!"unknown protocol family tag {tagText tag}"
  | unknownKind kind => s!"unknown message kind {kind.toNat}"
  | tooShort length minimum => s!"frame too short: length field {length}, need at least {minimum}"
  | tooLarge length limit => s!"frame too large: {length} bytes exceeds limit of {limit}"
  | truncated needed held => s!"truncated frame: need {needed} bytes, have {held}"
  | invalidHeader reason => s!"invalid frame header: {reason.message}"
  | hintTooLong length => s!"origin hint of {length} bytes does not fit the wire format"

def Fault.label : Fault → String
  | unknownFamily _ => "UnknownFamily"
  | unknownKind _ => "UnknownKind"
  | tooShort _ _ => "FrameTooShort"
  | tooLarge _ _ => "FrameTooLarge"
  | truncated _ _ => "Truncated"
  | invalidHeader _ => "InvalidHeader"
  | hintTooLong _ => "OriginHintTooLong"

instance : Failure Fault := ⟨Fault.label, Fault.message⟩

def hintBytes (m : Message) : Option Bytes := m.hint.map Utf8.encode

def hintField (m : Message) : Bytes :=
  match hintBytes m with
  | some hint => UInt8.ofNat hint.length :: hint
  | none => []

def length (m : Message) : Nat :=
  headerLength + (if m.carriesCaller then callerLength else 0)
    + (hintField m).length + m.body.length

def kindByte (m : Message) : UInt8 :=
  if m.hint.isSome then m.kind.byte ||| 0x80 else m.kind.byte

def callerField (m : Message) : Bytes :=
  if m.carriesCaller then Bytes.bigEndian callerLength m.caller.toUInt64.toNat else []

def payload (m : Message) : Bytes :=
  kindByte m :: Bytes.bigEndian 8 m.sequence.toUInt64.toNat
    ++ Bytes.bigEndian 2 m.protocol.module.toUInt16.toNat
    ++ Bytes.bigEndian 1 m.protocol.method.toUInt8.toNat
    ++ callerField m ++ hintField m ++ m.body

def encode (m : Message) : Except Fault Bytes :=
  match hintBytes m with
  | some hint => if 255 < hint.length then .error (.hintTooLong hint.length) else frame
  | none => frame
where
  frame : Except Fault Bytes :=
    if length m < UInt32.size then
      .ok (Bytes.bigEndian 2 m.family.tag.toNat ++ Bytes.bigEndian 4 (length m) ++ payload m)
    else .error (.tooLarge (length m) (UInt32.size - 1))

/-- Appends the frame of `m`; a message that has none leaves the buffer alone. -/
def append (buffer : Bytes) (m : Message) : Bytes × Option Fault :=
  match encode m with
  | .ok bytes => (buffer ++ bytes, none)
  | .error fault => (buffer, some fault)

/-- Reads a hint: absent without the flag, else a length byte and that many
bytes. The outer `none` is a read past the end. -/
def readHint (flagged : Bool) (bs : Bytes) : Option (Except Fault (Option String × Bytes)) :=
  if !flagged then some (.ok (none, bs))
  else if bs.length < 1 then some (.error (.truncated 1 bs.length))
  else do
    let (size, bs) ← Bytes.field? 1 bs
    if bs.length < size then return .error (.truncated size bs.length)
    let (raw, rest) ← Bytes.split? size bs
    match Utf8.decode raw with
    | .ok hint => return .ok (some hint, rest)
    | .error fault => return .error (.invalidHeader (.hintEncoding fault))

def readCaller (flagged : Bool) (sequence : Int64) (protocol : ProtocolId) (bs : Bytes) :
    Option (Except Fault Message) :=
  if bs.length < callerLength then some (.error (.truncated callerLength bs.length))
  else do
    let (caller, bs) ← Bytes.field? callerLength bs
    match ← readHint flagged bs with
    | .error fault => return .error fault
    | .ok (hint, body) =>
      return .ok (.peerRequest sequence protocol (UInt64.ofNat caller).toInt64 hint body)

/-- What follows the header of a frame. Only an internal request has more than
a body there; the body of a heartbeat is ignored. -/
def readBody (family : Family) (kind : Kind) (flagged : Bool) (sequence : Int64)
    (protocol : ProtocolId) (bs : Bytes) : Option (Except Fault Message) :=
  match family, kind with
  | .internal, .request => readCaller flagged sequence protocol bs
  | family, kind =>
    if flagged then some (.error (.invalidHeader (.misplacedHint family kind)))
    else
      match kind with
      | .request => some (.ok (.request family sequence protocol bs))
      | .response => some (.ok (.response family sequence protocol bs))
      | .heartbeatRequest => some (.ok (.heartbeatRequest family))
      | .heartbeatResponse => some (.ok (.heartbeatResponse family))

def readPayload (family : Family) (bs : Bytes) : Option (Except Fault Message) := do
  let (raw, bs) ← Bytes.field? 1 bs
  match Kind.ofByte? (UInt8.ofNat (raw % 128)) with
  | none => return .error (.unknownKind (UInt8.ofNat (raw % 128)))
  | some kind =>
    let (sequence, bs) ← Bytes.field? 8 bs
    let (module, bs) ← Bytes.field? 2 bs
    let (method, bs) ← Bytes.field? 1 bs
    readBody family kind (decide (128 ≤ raw)) (UInt64.ofNat sequence).toInt64
      ⟨(UInt16.ofNat module).toInt16, (UInt8.ofNat method).toInt8⟩ bs

/-- What a decoder finds at the front of a buffer. `overrun` is a read past
the end of the bytes held. -/
inductive Decoded where
  | needMore
  | message (m : Message) (rest : Bytes)
  | fault (fault : Fault) (rest : Bytes)
  | overrun
deriving DecidableEq, Repr

/-- Family and length, checked as soon as six bytes are there. -/
def readPrefix (limit : Nat) (bs : Bytes) : Except Fault (Family × Nat) :=
  let tag := UInt16.ofNat (Bytes.toNat (bs.take 2))
  let length := Bytes.toNat ((bs.drop 2).take 4)
  match Family.ofTag? tag with
  | none => .error (.unknownFamily tag)
  | some family =>
    if length < headerLength then .error (.tooShort length headerLength)
    else if limit < length then .error (.tooLarge length limit)
    else .ok (family, length)

/-- Takes one frame off the front of a stream. The bytes stay while more are
needed and when the prefix is bad; a frame whose payload is bad is taken off. -/
def decode (limit : Nat) (buffer : Bytes) : Decoded :=
  if buffer.length < prefixLength then .needMore
  else
    match readPrefix limit buffer with
    | .error fault => .fault fault buffer
    | .ok (family, length) =>
      if buffer.length < prefixLength + length then .needMore
      else
        let rest := buffer.drop (prefixLength + length)
        match readPayload family ((buffer.drop prefixLength).take length) with
        | none => .overrun
        | some (.ok m) => .message m rest
        | some (.error fault) => .fault fault rest

def decodeExact (limit : Nat) (bs : Bytes) : Option (Except Fault Message) :=
  if bs.length < prefixLength then some (.error (.truncated prefixLength bs.length))
  else
    match readPrefix limit bs with
    | .error fault => some (.error fault)
    | .ok (family, length) =>
      let held := bs.length - prefixLength
      if held ≠ length then some (.error (.invalidHeader (.lengthMismatch length held)))
      else readPayload family (bs.drop prefixLength)

inductive Stop where
  | needMore
  | fault (fault : Fault)
  | overrun
deriving DecidableEq, Repr

/-- Decodes until more bytes are needed or a frame is bad; gives the messages,
each with what is left behind it, and how it ended with what is left then. -/
def decodeAll (limit : Nat) : Nat → Bytes → List (Message × Bytes) × Stop × Bytes
  | 0, buffer => ([], .needMore, buffer)
  | fuel + 1, buffer =>
    match decode limit buffer with
    | .needMore => ([], .needMore, buffer)
    | .fault fault rest => ([], .fault fault, rest)
    | .overrun => ([], .overrun, buffer)
    | .message m rest =>
      let (ms, stop, left) := decodeAll limit fuel rest
      ((m, rest) :: ms, stop, left)

/-- Every frame takes bytes off the buffer, so its length bounds their number. -/
def drain (limit : Nat) (buffer : Bytes) : List (Message × Bytes) × Stop × Bytes :=
  decodeAll limit (buffer.length + 1) buffer

end ClusterWire.Frame
