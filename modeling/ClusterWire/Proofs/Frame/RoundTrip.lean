import ClusterWire.Frame
import ClusterWire.Proofs.Utf8

/-! A message that fits the wire format is read back from its own frame,
whatever stands behind the frame and in front of it. -/
namespace ClusterWire

/-- What the ways to make a message make, and what the two changes to a finished
one make of that. -/
inductive Message.Built : Message → Prop where
  | request (f : Family) (s : Int64) (p : ProtocolId) (b : Bytes) : Built (.request f s p b)
  | peerRequest (s : Int64) (p : ProtocolId) (c : Int64) (b : Bytes) :
      Built (.peerRequest s p c none b)
  | response (f : Family) (s : Int64) (p : ProtocolId) (b : Bytes) : Built (.response f s p b)
  | responseTo {m : Message} (b : Bytes) : Built m → Built (m.responseTo b)
  | errorResponse (f : Family) (s : Int64) (b : Bytes) : Built (.errorResponse f s b)
  | push (f : Family) (p : ProtocolId) (b : Bytes) : Built (.push f p b)
  | heartbeatRequest (f : Family) : Built (.heartbeatRequest f)
  | heartbeatResponse (f : Family) : Built (.heartbeatResponse f)
  | withOriginHint {m : Message} (origin : String) : Built m → Built (m.withOriginHint origin)
  | inFamily {m : Message} (f : Family) : Built m → Built (m.inFamily f)

/-- The type of messages holds nothing else. -/
theorem Message.built (m : Message) : m.Built := by
  cases m with
  | peerRequest s p c h b =>
    cases h with
    | none => exact .peerRequest s p c b
    | some origin => exact .withOriginHint origin (.peerRequest s p c b)
  | clientRequest s p b => exact .request .external s p b
  | response f s p b => exact .response f s p b
  | heartbeatRequest f => exact .heartbeatRequest f
  | heartbeatResponse f => exact .heartbeatResponse f

namespace Frame

/-- The hint that would be written has a length byte, and the frame a length
field. -/
def Fits (m : Message) : Prop :=
  (∀ hint, m.hint = some hint → hint.utf8ByteSize ≤ 255) ∧ length m < UInt32.size

theorem sequence_field (s : Int64) :
    (UInt64.ofNat (s.toUInt64.toNat % Nat.pow 256 8)).toInt64 = s := by
  have fits : s.toUInt64.toNat % Nat.pow 256 8 = s.toUInt64.toNat :=
    Nat.mod_eq_of_lt s.toUInt64.toNat_lt
  rw [fits, UInt64.ofNat_toNat, Int64.toInt64_toUInt64]

theorem module_field (s : Int16) :
    (UInt16.ofNat (s.toUInt16.toNat % Nat.pow 256 2)).toInt16 = s := by
  have fits : s.toUInt16.toNat % Nat.pow 256 2 = s.toUInt16.toNat :=
    Nat.mod_eq_of_lt s.toUInt16.toNat_lt
  rw [fits, UInt16.ofNat_toNat, Int16.toInt16_toUInt16]

theorem method_field (s : Int8) :
    (UInt8.ofNat (s.toUInt8.toNat % Nat.pow 256 1)).toInt8 = s := by
  have fits : s.toUInt8.toNat % Nat.pow 256 1 = s.toUInt8.toNat :=
    Nat.mod_eq_of_lt s.toUInt8.toNat_lt
  rw [fits, UInt8.ofNat_toNat, Int8.toInt8_toUInt8]

theorem tag_field (f : Family) :
    Family.ofTag? (UInt16.ofNat (f.tag.toNat % Nat.pow 256 2)) = some f := by
  cases f <;> rfl

/-- The kind and the hint's flag share a byte. -/
theorem kindByte_read (m : Message) :
    Kind.ofByte? (UInt8.ofNat ((kindByte m).toNat % 128)) = some m.kind ∧
      decide (128 ≤ (kindByte m).toNat) = m.hint.isSome := by
  unfold kindByte
  cases m.kind <;> cases m.hint.isSome <;> exact ⟨rfl, rfl⟩

theorem length_payload (m : Message) : (payload m).length = length m := by
  cases held : m.carriesCaller <;> simp [payload, length, callerField, held, headerLength] <;> omega

theorem readPayload_payload (m : Message) (family : Family) :
    readPayload family (payload m) =
      readBody family m.kind m.hint.isSome m.sequence m.protocol
        (callerField m ++ (hintField m ++ m.body)) := by
  obtain ⟨kind, flagged⟩ := kindByte_read m
  simp only [payload, readPayload, List.append_assoc, List.cons_append, Bytes.field?_one,
    Option.bind_eq_bind, Option.bind_some, kind, flagged, Bytes.field?_bigEndian,
    sequence_field, module_field, method_field]

theorem readHint_hintField {m : Message}
    (short : ∀ hint, m.hint = some hint → hint.utf8ByteSize ≤ 255) (body : Bytes) :
    readHint m.hint.isSome (hintField m ++ body) = some (.ok (m.hint, body)) := by
  cases held : m.hint with
  | none => simp [readHint, hintField, hintBytes, held]
  | some hint =>
    have bound : (Utf8.encode hint).length ≤ 255 := by
      rw [Utf8.length_encode]
      exact short hint held
    have size : (UInt8.ofNat (Utf8.encode hint).length).toNat = (Utf8.encode hint).length :=
      Utf8.toNat_byte (by omega)
    have enough : ¬ (Utf8.encode hint ++ body).length < (Utf8.encode hint).length := by
      rw [List.length_append]
      omega
    simp only [readHint, hintField, hintBytes, held, Option.map_some, Option.isSome_some,
      Bool.not_true, Bool.false_eq_true, if_false, List.cons_append, List.length_cons,
      Bytes.field?_one, size, Option.bind_eq_bind, Option.bind_some, if_neg enough,
      Bytes.split?_append, Utf8.decode_encode]
    rw [if_neg (by omega)]
    rfl

theorem readCaller_fields {s : Int64} {p : ProtocolId} {c : Int64} {h : Option String} {b : Bytes}
    (short : ∀ hint, h = some hint → hint.utf8ByteSize ≤ 255) :
    readCaller h.isSome s p
        (Bytes.bigEndian callerLength c.toUInt64.toNat
          ++ (hintField (.peerRequest s p c h b) ++ b)) =
      some (.ok (.peerRequest s p c h b)) := by
  have hint := readHint_hintField (m := .peerRequest s p c h b) short b
  have enough (rest : Bytes) :
      ¬ (Bytes.bigEndian callerLength c.toUInt64.toNat ++ rest).length < callerLength := by
    simp
  simp only [readCaller, if_neg (enough _), Bytes.field?_bigEndian, Option.bind_eq_bind,
    Option.bind_some]
  change (readHint (Message.peerRequest s p c h b).hint.isSome
    (hintField (.peerRequest s p c h b) ++ b)).bind _ = _
  rw [hint]
  change some (Except.ok (Message.peerRequest s p (UInt64.ofNat (c.toUInt64.toNat % Nat.pow 256 8)).toInt64
    h b)) = _
  rw [sequence_field]

theorem readPayload_own {m : Message}
    (short : ∀ hint, m.hint = some hint → hint.utf8ByteSize ≤ 255) :
    readPayload m.family (payload m) = some (.ok m) := by
  rw [readPayload_payload]
  cases m with
  | peerRequest s p c h b => exact readCaller_fields short
  | clientRequest s p b => rfl
  | response f s p b => cases f <;> rfl
  | heartbeatRequest f => cases f <;> rfl
  | heartbeatResponse f => cases f <;> rfl

def frameOf (m : Message) : Bytes :=
  Bytes.bigEndian 2 m.family.tag.toNat ++ Bytes.bigEndian 4 (length m) ++ payload m

theorem length_frameOf (m : Message) : (frameOf m).length = prefixLength + length m := by
  simp only [frameOf, List.length_append, Bytes.length_bigEndian, length_payload, prefixLength]

theorem encode_eq_ok {m : Message} (fits : Fits m) : encode m = .ok (frameOf m) := by
  obtain ⟨short, small⟩ := fits
  cases held : m.hint with
  | none => simp [encode, hintBytes, held, encode.frame, small, frameOf]
  | some hint =>
    have bound : ¬ 255 < (Utf8.encode hint).length := by
      rw [Utf8.length_encode]
      exact Nat.not_lt.mpr (short hint held)
    simp [encode, hintBytes, held, encode.frame, small, frameOf, bound]

theorem encode_eq_error {m : Message} (unfit : ¬ Fits m) : ∃ fault, encode m = .error fault := by
  cases held : m.hint with
  | none =>
    have large : ¬ length m < UInt32.size := fun small => unfit ⟨by simp [held], small⟩
    exact ⟨.tooLarge (length m) (UInt32.size - 1), by
      simp only [encode, hintBytes, held, Option.map_none, encode.frame, if_neg large]⟩
  | some hint =>
    by_cases long : 255 < (Utf8.encode hint).length
    · exact ⟨.hintTooLong (Utf8.encode hint).length, by
        simp only [encode, hintBytes, held, Option.map_some, if_pos long]⟩
    · have large : ¬ length m < UInt32.size := by
        intro small
        apply unfit
        refine ⟨fun other same => ?_, small⟩
        rw [held] at same
        rw [← Option.some.inj same, ← Utf8.length_encode]
        exact Nat.le_of_not_lt long
      exact ⟨.tooLarge (length m) (UInt32.size - 1), by
        simp only [encode, hintBytes, held, Option.map_some, if_neg long, encode.frame,
          if_neg large]⟩

theorem readPrefix_frameOf {m : Message} {limit : Nat} (small : length m < UInt32.size)
    (allowed : length m ≤ limit) (rest : Bytes) :
    readPrefix limit (frameOf m ++ rest) = .ok (m.family, length m) := by
  have tag : (frameOf m ++ rest).take 2 = Bytes.bigEndian 2 m.family.tag.toNat := by
    simp [frameOf]
  have size : ((frameOf m ++ rest).drop 2).take 4 = Bytes.bigEndian 4 (length m) := by
    simp [frameOf]
  have value : length m % Nat.pow 256 4 = length m := Nat.mod_eq_of_lt small
  have header : ¬ length m < headerLength := by
    unfold length
    omega
  simp only [readPrefix, tag, size, Bytes.toNat_bigEndian, tag_field, value, if_neg header,
    if_neg (Nat.not_lt.mpr allowed)]

theorem decode_frameOf {m : Message} {limit : Nat} (fits : Fits m) (allowed : length m ≤ limit)
    (rest : Bytes) : decode limit (frameOf m ++ rest) = .message m rest := by
  have held : (frameOf m ++ rest).length = prefixLength + length m + rest.length := by
    rw [List.length_append, length_frameOf]
  have behind : (frameOf m ++ rest).drop (prefixLength + length m) = rest := by
    rw [← length_frameOf, List.drop_left]
  have inside : ((frameOf m ++ rest).drop prefixLength).take (length m) = payload m := by
    have front : (Bytes.bigEndian 2 m.family.tag.toNat ++ Bytes.bigEndian 4 (length m)).length =
        prefixLength := by simp [prefixLength]
    rw [frameOf, List.append_assoc _ (payload m) rest, List.drop_left' front, ← length_payload,
      List.take_left]
  simp only [decode, readPrefix_frameOf fits.2 allowed, behind, inside, readPayload_own fits.1]
  rw [if_neg (by omega), if_neg (by omega)]

/-- A message goes over the wire: it has a frame, which is read back as the message. -/
def Crosses (limit : Nat) (m : Message) : Prop :=
  ∃ frame, encode m = .ok frame ∧ ∀ rest, decode limit (frame ++ rest) = .message m rest

/-- The frame of a message is no longer than its length field can say, nor than its reader
takes. -/
def Within (limit : Nat) (m : Message) : Prop := length m < UInt32.size ∧ length m ≤ limit

theorem crosses {m : Message} {limit : Nat}
    (short : ∀ hint, m.hint = some hint → hint.utf8ByteSize ≤ 255) (within : Within limit m) :
    Crosses limit m :=
  ⟨frameOf m, encode_eq_ok ⟨short, within.1⟩, decode_frameOf ⟨short, within.1⟩ within.2⟩

theorem crosses_response {family : Family} {sequence : Int64} {protocol : ProtocolId} {body : Bytes}
    {limit : Nat} (within : Within limit (.response family sequence protocol body)) :
    Crosses limit (.response family sequence protocol body) := by
  refine crosses ?_ within
  intro hint some
  cases some

/-- What becomes of a message that is encoded behind a buffer. Encoding succeeds on the messages
that fit. It then appends one frame of the announced length, which is read back as that message
under every limit that allows it and leaves what stands behind it. Otherwise the buffer stays. -/
structure Travels (m : Message) (buffer : Bytes) : Prop where
  built : m.Built
  succeeds : (append buffer m).2 = none ↔ Fits m
  returns : Fits m → ∃ frame, (append buffer m).1 = buffer ++ frame ∧
    frame.length = prefixLength + length m ∧
    ∀ limit rest, length m ≤ limit → decode limit (frame ++ rest) = .message m rest
  stays : ¬Fits m → (append buffer m).1 = buffer

/-- Every message travels so: there are none but those that the ways to make one make. -/
theorem append_decode (m : Message) (buffer : Bytes) : Travels m buffer := by
  by_cases fits : Fits m
  · have appended : append buffer m = (buffer ++ frameOf m, none) := by
      rw [append, encode_eq_ok fits]
    refine ⟨m.built, ?_, fun _ => ?_, fun unfit => absurd fits unfit⟩
    · rw [appended]
      exact iff_of_true rfl fits
    · rw [appended]
      exact ⟨frameOf m, rfl, length_frameOf m,
        fun limit rest allowed => decode_frameOf fits allowed rest⟩
  · obtain ⟨fault, refused⟩ := encode_eq_error fits
    have appended : append buffer m = (buffer, some fault) := by
      rw [append, refused]
    refine ⟨m.built, ?_, fun held => absurd held fits, fun _ => ?_⟩
    · rw [appended]
      exact iff_of_false (fun none => by cases none) fits
    · rw [appended]

end Frame
end ClusterWire
