import ClusterWire.Proofs.Frame.RoundTrip
import ClusterWire.Proofs.Frame.Stream

/-! A frame has one spelling. What is read as a message is the frame of that message, byte for
byte; only heartbeats are read out of other frames than their own. -/
namespace ClusterWire.Frame

/-- The twelve bytes that every payload begins with. -/
def header (kind : Kind) (flagged : Bool) (s : Int64) (p : ProtocolId) : Bytes :=
  (if flagged then kind.byte ||| 0x80 else kind.byte) :: (Bytes.bigEndian 8 s.toUInt64.toNat
    ++ Bytes.bigEndian 2 p.module.toUInt16.toNat ++ Bytes.bigEndian 1 p.method.toUInt8.toNat)

theorem payload_eq (m : Message) : payload m =
    header m.kind m.hint.isSome m.sequence m.protocol ++ (callerField m ++ (hintField m ++ m.body)) := by
  simp only [payload, header, kindByte, List.cons_append, List.append_assoc]

/-! Each reader is held to the bytes that it took. -/

/-- The kind and the hint's flag leave no bit of their byte. -/
theorem kindByte_of_read {raw : Nat} (byte : raw < 256) {kind : Kind}
    (known : Kind.ofByte? (UInt8.ofNat (raw % 128)) = some kind) :
    UInt8.ofNat raw = if decide (128 ≤ raw) then kind.byte ||| 0x80 else kind.byte := by
  have number : raw % 128 = kind.byte.toNat := by
    rw [Kind.byte_of_ofByte? known]
    exact (Utf8.toNat_byte (by omega)).symm
  by_cases flagged : 128 ≤ raw
  · have split : raw = kind.byte.toNat + 128 := by omega
    rw [if_pos (decide_eq_true flagged), split]
    cases kind <;> rfl
  · have plain : raw = kind.byte.toNat := by omega
    rw [if_neg (by simpa using flagged), plain, UInt8.ofNat_toNat]

theorem header_of_fields {raw s module method : Nat} (byte : raw < Nat.pow 256 1)
    (word : s < Nat.pow 256 8) (half : module < Nat.pow 256 2) (quarter : method < Nat.pow 256 1)
    {kind : Kind} (known : Kind.ofByte? (UInt8.ofNat (raw % 128)) = some kind) :
    header kind (decide (128 ≤ raw)) (UInt64.ofNat s).toInt64
        ⟨(UInt16.ofNat module).toInt16, (UInt8.ofNat method).toInt8⟩ =
      Bytes.bigEndian 1 raw ++ (Bytes.bigEndian 8 s
        ++ (Bytes.bigEndian 2 module ++ Bytes.bigEndian 1 method)) := by
  have second : (UInt64.ofNat s).toInt64.toUInt64.toNat = s := UInt64.toNat_ofNat_of_lt' word
  have third : (UInt16.ofNat module).toInt16.toUInt16.toNat = module :=
    UInt16.toNat_ofNat_of_lt' half
  have fourth : (UInt8.ofNat method).toInt8.toUInt8.toNat = method :=
    UInt8.toNat_ofNat_of_lt' quarter
  simp only [header, ← kindByte_of_read byte known, Bytes.bigEndian_one, second, third, fourth,
    List.append_assoc, List.cons_append, List.nil_append]

theorem header_of_readPayload {family : Family} {bs : Bytes} {m : Message}
    (read : readPayload family bs = some (.ok m)) :
    ∃ kind flagged s p behind, bs = header kind flagged s p ++ behind ∧
      readBody family kind flagged s p behind = some (.ok m) := by
  simp only [readPayload, Option.bind_eq_bind, Option.bind_eq_some_iff] at read
  obtain ⟨⟨raw, afterKind⟩, first, read⟩ := read
  obtain ⟨rfl, byte⟩ := Bytes.field?_eq_some first
  dsimp only at read
  cases known : Kind.ofByte? (UInt8.ofNat (raw % 128)) with
  | none =>
    rw [known] at read
    cases read
  | some kind =>
    rw [known] at read
    simp only [Option.bind_eq_some_iff] at read
    obtain ⟨⟨s, afterSequence⟩, second, ⟨module, afterModule⟩, third, ⟨method, behind⟩, fourth,
      read⟩ := read
    obtain ⟨rfl, word⟩ := Bytes.field?_eq_some second
    obtain ⟨rfl, half⟩ := Bytes.field?_eq_some third
    obtain ⟨rfl, quarter⟩ := Bytes.field?_eq_some fourth
    refine ⟨kind, _, _, _, behind, ?_, read⟩
    rw [header_of_fields byte word half quarter known]
    simp only [List.append_assoc]

/-- A hint that fits a length byte, as its frame has it. -/
theorem hintField_of_text {raw : Bytes} {text : String} (found : Utf8.decode raw = .ok text)
    (fits : raw.length < 256) (s : Int64) (p : ProtocolId) (c : Int64) (body : Bytes) :
    hintField (.peerRequest s p c (some text) body) = Bytes.bigEndian 1 raw.length ++ raw ∧
      text.utf8ByteSize ≤ 255 := by
  have bytes := Utf8.encode_of_decode found
  have field : hintField (.peerRequest s p c (some text) body) =
      UInt8.ofNat (Utf8.encode text).length :: Utf8.encode text := rfl
  constructor
  · rw [field, bytes, Bytes.bigEndian_one]
    rfl
  · rw [← Utf8.length_encode, bytes]
    exact Nat.le_of_lt_succ fits

theorem hintField_of_readHint {flagged : Bool} {bs body : Bytes} {hint : Option String}
    (read : readHint flagged bs = some (.ok (hint, body))) (s : Int64) (p : ProtocolId) (c : Int64) :
    bs = hintField (.peerRequest s p c hint body) ++ body ∧ hint.isSome = flagged ∧
      ∀ text, hint = some text → text.utf8ByteSize ≤ 255 := by
  unfold readHint at read
  split at read
  · rename_i plain
    cases read
    exact ⟨rfl, by simpa using plain, by simp⟩
  · rename_i given
    split at read
    · cases read
    · simp only [Option.bind_eq_bind, Option.bind_eq_some_iff] at read
      obtain ⟨⟨size, afterSize⟩, first, read⟩ := read
      obtain ⟨rfl, byte⟩ := Bytes.field?_eq_some first
      dsimp only at read
      split at read
      · cases read
      · simp only [Option.bind_eq_some_iff] at read
        obtain ⟨⟨raw, rest⟩, second, read⟩ := read
        obtain ⟨rfl, exact⟩ := Bytes.split?_eq_some second
        dsimp only at read
        cases text : Utf8.decode raw with
        | error fault => simp [text, pure] at read
        | ok found =>
          simp only [text, pure, Option.some.injEq, Except.ok.injEq, Prod.mk.injEq] at read
          obtain ⟨rfl, rfl⟩ := read
          subst exact
          obtain ⟨field, short⟩ := hintField_of_text text byte s p c rest
          refine ⟨?_, by simpa using given, ?_⟩
          · rw [field, List.append_assoc]
          · rintro other ⟨⟩
            exact short

/-- A request between servers, as it was written behind its header. -/
theorem peerRequest_of_readCaller {flagged : Bool} {s : Int64} {p : ProtocolId} {bs : Bytes}
    {m : Message} (read : readCaller flagged s p bs = some (.ok m)) :
    ∃ caller hint body, m = .peerRequest s p caller hint body ∧ hint.isSome = flagged ∧
      bs = callerField m ++ (hintField m ++ m.body) ∧
      ∀ text, hint = some text → text.utf8ByteSize ≤ 255 := by
  unfold readCaller at read
  split at read
  · cases read
  · simp only [Option.bind_eq_bind, Option.bind_eq_some_iff] at read
    obtain ⟨⟨caller, afterCaller⟩, first, result, second, read⟩ := read
    obtain ⟨rfl, word⟩ := Bytes.field?_eq_some first
    cases result with
    | error fault => cases read
    | ok found =>
      obtain ⟨hint, body⟩ := found
      simp only [pure, Option.some.injEq, Except.ok.injEq] at read
      obtain ⟨rfl, same, short⟩ :=
        hintField_of_readHint second s p (UInt64.ofNat caller).toInt64
      have value : (UInt64.ofNat caller).toInt64.toUInt64.toNat = caller :=
        UInt64.toNat_ofNat_of_lt' word
      refine ⟨_, _, _, read.symm, same, ?_, short⟩
      subst read
      simp only [callerField, Message.carriesCaller, Message.caller, Message.body, value, if_true]

/-- A frame that has nothing between its header and its body. -/
theorem plain_of_readBody {family : Family} {kind : Kind} {flagged : Bool} {s : Int64}
    {p : ProtocolId} {bs : Bytes} {m : Message} (other : family = .external ∨ kind ≠ .request)
    (read : readBody family kind flagged s p bs = some (.ok m)) :
    flagged = false ∧ m.family = family ∧ m.kind = kind ∧ m.hint = none ∧ callerField m = [] ∧
      (kind.isHeartbeat = false → m.sequence = s ∧ m.protocol = p ∧ m.body = bs) := by
  cases flagged with
  | true =>
    cases kind with
    | request =>
      cases family with
      | internal => simp at other
      | external => cases read
    | response | heartbeatRequest | heartbeatResponse => cases family <;> cases read
  | false =>
    cases kind with
    | request =>
      cases family with
      | internal => simp at other
      | external =>
        cases read
        exact ⟨rfl, rfl, rfl, rfl, rfl, fun _ => ⟨rfl, rfl, rfl⟩⟩
    | response =>
      cases family <;> cases read <;> exact ⟨rfl, rfl, rfl, rfl, rfl, fun _ => ⟨rfl, rfl, rfl⟩⟩
    | heartbeatRequest | heartbeatResponse =>
      cases family <;> cases read <;> exact ⟨rfl, rfl, rfl, rfl, rfl, nofun⟩

/-- What is read out of a payload is of the frame's family. Unless it is a heartbeat, the payload
is its own. -/
theorem payload_of_readPayload {family : Family} {bs : Bytes} {m : Message}
    (found : readPayload family bs = some (.ok m)) :
    m.family = family ∧ (∀ text, m.hint = some text → text.utf8ByteSize ≤ 255) ∧
      (m.kind.isHeartbeat = false → payload m = bs) := by
  obtain ⟨kind, flagged, s, p, behind, rfl, read⟩ := header_of_readPayload found
  by_cases full : family = .internal ∧ kind = .request
  · obtain ⟨rfl, rfl⟩ := full
    obtain ⟨caller, hint, body, rfl, rfl, rfl, short⟩ := peerRequest_of_readCaller read
    exact ⟨rfl, short, fun _ => payload_eq _⟩
  · have other : family = .external ∨ kind ≠ .request := by
      cases family with
      | internal => exact .inr fun same => full ⟨rfl, same⟩
      | external => exact .inl rfl
    obtain ⟨rfl, own, rfl, none, bare, rest⟩ := plain_of_readBody other read
    refine ⟨own, by simp [none], fun speaks => ?_⟩
    obtain ⟨rfl, rfl, rfl⟩ := rest speaks
    simp [payload_eq, none, bare, hintField, hintBytes]

theorem prefix_of_readPrefix {limit length : Nat} {bs : Bytes} {family : Family}
    (held : prefixLength ≤ bs.length) (read : readPrefix limit bs = .ok (family, length)) :
    bs.take prefixLength = Bytes.bigEndian 2 family.tag.toNat ++ Bytes.bigEndian 4 length ∧
      length < UInt32.size := by
  obtain ⟨known, size, -, -⟩ := readPrefix_eq_ok.mp read
  have held : 6 ≤ bs.length := held
  have two : (bs.take 2).length = 2 := List.length_take_of_le (by omega)
  have four : ((bs.drop 2).take 4).length = 4 := by
    simp only [List.length_take, List.length_drop]
    omega
  have tag : family.tag.toNat = Bytes.toNat (bs.take 2) := by
    have small := Bytes.toNat_lt (bs.take 2)
    rw [two] at small
    rw [Family.tag_of_ofTag? known]
    exact UInt16.toNat_ofNat_of_lt' small
  have front : bs.take prefixLength = bs.take 2 ++ (bs.drop 2).take 4 := List.take_add (i := 2) (j := 4)
  have first := Bytes.bigEndian_toNat (bs.take 2)
  have second := Bytes.bigEndian_toNat ((bs.drop 2).take 4)
  have small := Bytes.toNat_lt ((bs.drop 2).take 4)
  rw [two] at first
  rw [four] at second small
  rw [← size, tag, announced, first, second]
  exact ⟨front, small⟩

/-- A message that is read fits, and is shorter than its reader's limit. Unless it is a
heartbeat, what was taken off the buffer is its frame. -/
theorem frame_of_decode {limit : Nat} {buffer rest : Bytes} {m : Message}
    (found : decode limit buffer = .message m rest) :
    (∃ frame, buffer = frame ++ rest) ∧ headerLength ≤ limit ∧
      (∀ text, m.hint = some text → text.utf8ByteSize ≤ 255) ∧
      (m.kind.isHeartbeat = false → length m < UInt32.size ∧ buffer = frameOf m ++ rest) := by
  rcases decode_cases limit buffer with
    h | ⟨-, _, -, h⟩ | ⟨family, size, whole, read, ⟨own, payloads, h⟩ | ⟨_, -, h⟩⟩ <;>
    rw [found] at h <;> cases h
  have taken := List.take_append_drop (prefixLength + size) buffer
  obtain ⟨-, -, least, most⟩ := readPrefix_eq_ok.mp read
  obtain ⟨front, small⟩ := prefix_of_readPrefix (by omega) read
  obtain ⟨rfl, short, spelled⟩ := payload_of_readPayload payloads
  refine ⟨⟨_, taken.symm⟩, Nat.le_trans least most, short, fun speaks => ?_⟩
  have bytes := spelled speaks
  have inside : length m = size := by
    rw [← length_payload, bytes, List.length_take, List.length_drop]
    omega
  refine ⟨by omega, ?_⟩
  rw [frameOf, inside, ← front, bytes, ← List.take_add, taken]

/-- The bytes of a bare heartbeat. -/
def heartbeatFrame (family : Family) (kind : Kind) : Bytes :=
  Bytes.bigEndian 2 family.tag.toNat ++ Bytes.bigEndian 4 headerLength
    ++ kind.byte :: List.replicate 11 0

theorem frameOf_heartbeat {m : Message} (heartbeat : m.kind.isHeartbeat = true) :
    frameOf m = heartbeatFrame m.family m.kind := by
  cases m with
  | heartbeatRequest family | heartbeatResponse family => cases family <;> rfl
  | peerRequest | clientRequest | response => cases heartbeat

/-- A message that is read is written, and its frame is what was read, so that no two frames stand
for one message. A heartbeat may be read out of more frames; it is written as the bare one, which
is read as the heartbeat again. -/
theorem decode_determines {limit : Nat} {buffer rest : Bytes} {m : Message}
    (found : decode limit buffer = .message m rest) :
    ∃ frame, buffer = frame ++ rest ∧
      (m.kind.isHeartbeat = false → encode m = .ok frame ∧
        ∀ limit' frame' rest', decode limit' (frame' ++ rest') = .message m rest' →
          frame' = frame) ∧
      (m.kind.isHeartbeat = true → encode m = .ok (heartbeatFrame m.family m.kind) ∧
        (heartbeatFrame m.family m.kind).length = 18 ∧
        ∀ behind, decode limit (heartbeatFrame m.family m.kind ++ behind) = .message m behind) := by
  obtain ⟨⟨frame, split⟩, enough, short, spelled⟩ := frame_of_decode found
  refine ⟨frame, split, fun speaks => ?_, fun heartbeat => ?_⟩
  · obtain ⟨small, bytes⟩ := spelled speaks
    have own : frame = frameOf m := List.append_cancel_right (split.symm.trans bytes)
    rw [own]
    refine ⟨encode_eq_ok ⟨short, small⟩, fun limit' frame' rest' again => ?_⟩
    obtain ⟨-, -, -, spelled⟩ := frame_of_decode again
    exact List.append_cancel_right (spelled speaks).2
  · have bare : length m = headerLength := by
      cases m with
      | heartbeatRequest | heartbeatResponse => rfl
      | peerRequest | clientRequest | response => cases heartbeat
    have fits : Fits m := ⟨short, by rw [bare]; decide⟩
    rw [← frameOf_heartbeat heartbeat]
    refine ⟨encode_eq_ok fits, ?_, fun behind => ?_⟩
    · rw [length_frameOf, bare]
      rfl
    · exact decode_frameOf fits (bare ▸ enough) behind

/-- A request from another server, with a hint of two bytes that are one character. -/
def hintedFrame : Bytes :=
  [0x7F, 1, 0, 0, 0, 24, 0x81, 0, 0, 0, 0, 0, 0, 0, 9, 0, 10, 3, 0, 0, 0, 0, 0, 0, 0, 7, 2, 0xC3, 0xA9,
    0x7B]

/-- A heartbeat that carries a number, a protocol and a body. -/
def ladenHeartbeat : Bytes :=
  [0x7F, 2, 0, 0, 0, 14, 3, 0, 0, 0, 0, 0, 0, 0, 9, 0, 10, 3, 0xAB, 0xCD]

theorem decode_determines_hinted :
    encode (.peerRequest 9 ⟨10, 3⟩ 7 (some "é") [0x7B]) = .ok hintedFrame ∧
    decode 64 (ladenHeartbeat ++ [1]) = .message (.heartbeatRequest .external) [1] ∧
    decode 64 (heartbeatFrame .external .heartbeatRequest) =
      .message (.heartbeatRequest .external) [] := by
  have hinted : decode 64 (hintedFrame ++ [1]) =
      .message (.peerRequest 9 ⟨10, 3⟩ 7 (some "é") [0x7B]) [1] := by decide
  have laden : decode 64 (ladenHeartbeat ++ [1]) = .message (.heartbeatRequest .external) [1] := by
    decide
  obtain ⟨frame, split, speaks, -⟩ := decode_determines hinted
  obtain ⟨-, -, -, beats⟩ := decode_determines laden
  obtain rfl : hintedFrame = frame := List.append_cancel_right split
  exact ⟨(speaks rfl).1, laden, (beats rfl).2.2 []⟩

end ClusterWire.Frame
