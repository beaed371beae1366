import ClusterWire.Connection.Inbox
import ClusterWire.Proofs.Frame.Progress

/-! A buffer that must be one frame. The decoder of such buffers says what the decoder of streams
says where that one takes the whole buffer or refuses its first six bytes, and otherwise that the
buffer is not one frame. -/
namespace ClusterWire.Frame

/-- What is wrong with bytes that are not one frame from end to end. -/
def notOne (bs : Bytes) : Fault :=
  if bs.length < prefixLength then .truncated prefixLength bs.length
  else .invalidHeader (.lengthMismatch (announced bs) (bs.length - prefixLength))

/-- What a decoder of streams makes of bytes, where they must be one frame. -/
def Decoded.asOne (bs : Bytes) : Decoded → Except Fault Message
  | .message m rest => if rest = [] then .ok m else .error (notOne bs)
  | .fault f rest => if rest = bs ∨ rest = [] then .error f else .error (notOne bs)
  | .needMore | .overrun => .error (notOne bs)

section

variable {limit : Nat} {bs : Bytes}

theorem drop_frameEnd_ne (held : prefixLength ≤ bs.length) : bs.drop (frameEnd bs) ≠ bs := by
  intro same
  have length := congrArg List.length same
  rw [List.length_drop, frameEnd, prefixLength] at length
  unfold prefixLength at held
  omega

theorem decodeExact_of_refused (held : prefixLength ≤ bs.length) {fault : Fault}
    (read : readPrefix limit bs = .error fault) : decodeExact limit bs = some (.error fault) := by
  simp only [decodeExact, if_neg (Nat.not_lt.mpr held), read]

theorem decodeExact_of_other (held : prefixLength ≤ bs.length) {family : Family}
    (read : readPrefix limit bs = .ok (family, announced bs)) (other : bs.length ≠ frameEnd bs) :
    decodeExact limit bs = some (.error (notOne bs)) := by
  have differs : bs.length - prefixLength ≠ announced bs := by
    unfold frameEnd at other
    omega
  simp only [decodeExact, if_neg (Nat.not_lt.mpr held), read, if_pos differs, notOne]

theorem decodeExact_of_whole {family : Family}
    (read : readPrefix limit bs = .ok (family, announced bs)) (whole : bs.length = frameEnd bs) :
    decodeExact limit bs = readPayload family ((bs.drop prefixLength).take (announced bs)) := by
  have whole : bs.length = prefixLength + announced bs := whole
  have held : ¬ bs.length < prefixLength := by omega
  have same : ¬ bs.length - prefixLength ≠ announced bs := by omega
  have all : (bs.drop prefixLength).take (announced bs) = bs.drop prefixLength := by
    rw [List.take_of_length_le]
    rw [List.length_drop]
    omega
  simp only [decodeExact, if_neg held, read, if_neg same, all]

end

theorem decodeExact_eq (limit : Nat) (bs : Bytes) :
    decodeExact limit bs = some ((decode limit bs).asOne bs) := by
  by_cases short : bs.length < prefixLength
  · rw [decode_of_short short]
    simp only [decodeExact, if_pos short, Decoded.asOne, notOne]
  · have held : prefixLength ≤ bs.length := Nat.le_of_not_lt short
    cases read : readPrefix limit bs with
    | error fault =>
      rw [decode_of_refused held read, decodeExact_of_refused held read, Decoded.asOne,
        if_pos (.inl rfl)]
    | ok found =>
      obtain ⟨family, length⟩ := found
      obtain rfl := (readPrefix_eq_ok.mp read).2.1
      have announces := (announces_iff limit bs).mpr ⟨family, read⟩
      rcases Nat.lt_trichotomy bs.length (frameEnd bs) with partly | whole | longer
      · rw [decode_of_partial announces partly, decodeExact_of_other held read (Nat.ne_of_lt partly)]
        rfl
      · have nothing : bs.drop (prefixLength + announced bs) = [] :=
          List.drop_eq_nil_of_le (Nat.le_of_eq whole)
        rw [decodeExact_of_whole read whole]
        rcases decode_of_whole read (Nat.le_of_eq whole.symm) with ⟨m, payload, h⟩ | ⟨f, payload, h⟩
        · rw [h, payload, nothing, Decoded.asOne, if_pos rfl]
        · rw [h, payload, nothing, Decoded.asOne, if_pos (.inr rfl)]
      · have some : bs.drop (frameEnd bs) ≠ [] := by
          simpa [List.drop_eq_nil_iff] using longer
        rw [decodeExact_of_other held read (Nat.ne_of_gt longer)]
        rcases takes_of_whole announces (Nat.le_of_lt longer) with ⟨m, h⟩ | ⟨f, -, h⟩
        · rw [h, Decoded.asOne, if_neg some]
        · rw [h, Decoded.asOne, if_neg (not_or.mpr ⟨drop_frameEnd_ne held, some⟩)]

theorem Decoded.asOne_eq_ok {bs : Bytes} {found : Decoded} {m : Message} :
    found.asOne bs = .ok m ↔ found = .message m [] := by
  cases found with
  | message other rest => by_cases last : rest = [] <;> simp [asOne, last]
  | fault f rest => by_cases kept : rest = bs ∨ rest = [] <;> simp [asOne, kept]
  | needMore | overrun => simp [asOne]

theorem decodeExact_eq_ok {limit : Nat} {bs : Bytes} {m : Message} :
    decodeExact limit bs = some (.ok m) ↔ decode limit bs = .message m [] := by
  rw [decodeExact_eq, Option.some.injEq, Decoded.asOne_eq_ok]

/-- A binary message of a WebSocket is accepted just when its bytes on a stream are one frame. -/
theorem next_binary_iff (limit : Nat) (remote : SocketAddress) (bs : Bytes)
    (waiting : List WebSocketMessage) (ended : Bool) (m : Message) :
    Inbox.next limit remote (.messages (.binary bs :: waiting)) = .message m (.messages waiting) ↔
      Inbox.next limit remote (.stream bs ended) = .message m (.stream [] ended) := by
  have message : Inbox.next limit remote (.messages (.binary bs :: waiting)) =
      .message m (.messages waiting) ↔ decodeExact limit bs = some (.ok m) := by
    simp only [Inbox.next, Inbox.nextOfMessages]
    rcases decodeExact limit bs with _ | fault | own <;> simp
  have stream : Inbox.next limit remote (.stream bs ended) = .message m (.stream [] ended) ↔
      decode limit bs = .message m [] := by
    simp only [Inbox.next, Inbox.nextInStream]
    cases decode limit bs <;> cases ended <;> simp
  rw [message, stream, decodeExact_eq_ok]

/-- Bytes are one frame for the one decoder just when they are for the other, and then the same
message. What the decoder of streams refuses before it takes anything, and one complete frame with
a bad payload, the other refuses for the same fault. All else is too short for its frame or has
bytes behind it, and is refused for that. So a binary message of a WebSocket is accepted just when
its bytes on a stream are one frame. -/
theorem decoders_agree (limit : Nat) (bs : Bytes) :
    (∀ m, decodeExact limit bs = some (.ok m) ↔ decode limit bs = .message m []) ∧
    (∀ fault, decode limit bs = .fault fault bs → decodeExact limit bs = some (.error fault)) ∧
    (∀ fault, decode limit bs = .fault fault [] → decodeExact limit bs = some (.error fault)) ∧
    ((∀ m, decode limit bs ≠ .message m []) →
      (∀ fault rest, decode limit bs = .fault fault rest → rest ≠ bs ∧ rest ≠ []) →
      (bs.length < prefixLength ∨ Announces limit bs ∧ bs.length ≠ frameEnd bs) ∧
        decodeExact limit bs = some (.error (notOne bs))) ∧
    ∀ remote waiting ended m,
      Inbox.next limit remote (.messages (.binary bs :: waiting)) =
          .message m (.messages waiting) ↔
        Inbox.next limit remote (.stream bs ended) = .message m (.stream [] ended) := by
  refine ⟨fun m => decodeExact_eq_ok, fun fault found => ?_, fun fault found => ?_,
    fun unread kept => ⟨?_, ?_⟩, fun remote waiting ended m =>
      next_binary_iff limit remote bs waiting ended m⟩
  · rw [decodeExact_eq, found, Decoded.asOne, if_pos (.inl rfl)]
  · rw [decodeExact_eq, found, Decoded.asOne, if_pos (.inr rfl)]
  · by_cases short : bs.length < prefixLength
    · exact .inl short
    · have held : prefixLength ≤ bs.length := Nat.le_of_not_lt short
      by_cases announces : Announces limit bs
      · refine .inr ⟨announces, fun whole => ?_⟩
        have nothing : bs.drop (frameEnd bs) = [] := List.drop_eq_nil_of_le (Nat.le_of_eq whole)
        rcases takes_of_whole announces (Nat.le_of_eq whole.symm) with ⟨m, h⟩ | ⟨f, -, h⟩
        · exact unread m (nothing ▸ h)
        · exact (kept f _ h).2 nothing
      · obtain ⟨fault, read⟩ := exists_readPrefix_error announces
        exact absurd rfl (kept fault bs (decode_of_refused held read)).1
  · rw [decodeExact_eq]
    cases found : decode limit bs with
    | needMore | overrun => rfl
    | message m rest =>
      have some : rest ≠ [] := fun last => unread m (last ▸ found)
      rw [Decoded.asOne, if_neg some]
    | fault f rest => rw [Decoded.asOne, if_neg (not_or.mpr (kept f rest found))]

end ClusterWire.Frame
