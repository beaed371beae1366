import ClusterWire.Proofs.Frame.Stream

/-! The decoder is never stuck. What it does with a buffer is settled by the six bytes at the front
and by how many bytes there are: it waits only for bytes that can still come, and the bytes that
are missing are all that it waits for. -/
namespace ClusterWire.Frame

/-- The front of a buffer announces a frame that is allowed. -/
structure Announces (limit : Nat) (bs : Bytes) : Prop where
  known : (Family.ofTag? (tagOf bs)).isSome
  least : headerLength ≤ announced bs
  most : announced bs ≤ limit

/-- Where the frame at the front of a buffer ends. -/
def frameEnd (bs : Bytes) : Nat := prefixLength + announced bs

/-- Faults of a frame's first six bytes. -/
def Fault.ofPrefix : Fault → Bool
  | unknownFamily _ | tooShort _ _ | tooLarge _ _ => true
  | _ => false

namespace Decoded

/-- Nothing is taken off the buffer. -/
def waits : Decoded → Bool
  | needMore | overrun => true
  | message _ _ => false
  | fault f _ => f.ofPrefix

/-- What a buffer holds then. -/
def left (buffer : Bytes) : Decoded → Bytes
  | needMore | overrun => buffer
  | message _ rest | fault _ rest => rest

/-- A frame was there, good or bad, with these bytes behind it. -/
def Takes (rest : Bytes) (found : Decoded) : Prop :=
  (∃ m, found = .message m rest) ∨ ∃ f, f.ofPrefix = false ∧ found = .fault f rest

end Decoded

/-! What is wrong with a payload is never what is wrong with a prefix. -/

section

variable {limit : Nat} {bs : Bytes} {f : Fault}

theorem ofPrefix_of_readHint {flagged : Bool} (found : readHint flagged bs = some (.error f)) :
    f.ofPrefix = false := by
  unfold readHint at found
  split at found
  · cases found
  · split at found
    · cases found
      rfl
    · simp only [Option.bind_eq_bind, Option.bind_eq_some_iff] at found
      obtain ⟨⟨size, rest⟩, -, found⟩ := found
      dsimp only at found
      split at found
      · cases found
        rfl
      · simp only [Option.bind_eq_some_iff] at found
        obtain ⟨⟨raw, rest⟩, -, found⟩ := found
        dsimp only at found
        split at found <;> cases found
        rfl

theorem ofPrefix_of_readBody {family : Family} {kind : Kind} {flagged : Bool} {s : Int64}
    {p : ProtocolId} (found : readBody family kind flagged s p bs = some (.error f)) :
    f.ofPrefix = false := by
  unfold readBody at found
  split at found
  · unfold readCaller at found
    split at found
    · cases found
      rfl
    · simp only [Option.bind_eq_bind, Option.bind_eq_some_iff] at found
      obtain ⟨⟨caller, rest⟩, -, hint, read, found⟩ := found
      cases hint with
      | ok hint => cases found
      | error fault =>
        cases found
        exact ofPrefix_of_readHint read
  · split at found
    · cases found
      rfl
    · split at found <;> cases found

theorem ofPrefix_of_readPayload {family : Family} (found : readPayload family bs = some (.error f)) :
    f.ofPrefix = false := by
  simp only [readPayload, Option.bind_eq_bind, Option.bind_eq_some_iff] at found
  obtain ⟨⟨raw, rest⟩, -, found⟩ := found
  dsimp only at found
  split at found
  · cases found
    rfl
  · simp only [Option.bind_eq_some_iff] at found
    obtain ⟨_, -, _, -, _, -, found⟩ := found
    exact ofPrefix_of_readBody found

theorem ofPrefix_of_readPrefix (found : readPrefix limit bs = .error f) : f.ofPrefix = true := by
  simp only [readPrefix] at found
  split at found
  · cases found
    rfl
  · split at found
    · cases found
      rfl
    · split at found <;> cases found
      rfl

end

/-! The four cases of a buffer. -/

section

variable {limit : Nat} {buffer : Bytes}

theorem announces_iff (limit : Nat) (buffer : Bytes) : Announces limit buffer ↔
    ∃ family, readPrefix limit buffer = .ok (family, announced buffer) := by
  constructor
  · rintro ⟨known, least, most⟩
    obtain ⟨family, known⟩ := Option.isSome_iff_exists.mp known
    exact ⟨family, readPrefix_eq_ok.mpr ⟨known, rfl, least, most⟩⟩
  · rintro ⟨family, read⟩
    obtain ⟨known, -, least, most⟩ := readPrefix_eq_ok.mp read
    exact ⟨Option.isSome_iff_exists.mpr ⟨family, known⟩, least, most⟩

theorem decode_of_short (short : buffer.length < prefixLength) : decode limit buffer = .needMore :=
  if_pos short

theorem exists_readPrefix_error (refused : ¬ Announces limit buffer) :
    ∃ fault, readPrefix limit buffer = .error fault := by
  cases read : readPrefix limit buffer with
  | error fault => exact ⟨fault, rfl⟩
  | ok found =>
    obtain ⟨family, length⟩ := found
    have same := (readPrefix_eq_ok.mp read).2.1
    exact absurd ((announces_iff limit buffer).mpr ⟨family, same ▸ read⟩) refused

theorem decode_of_refused (held : prefixLength ≤ buffer.length) {fault : Fault}
    (read : readPrefix limit buffer = .error fault) : decode limit buffer = .fault fault buffer := by
  simp only [decode, if_neg (Nat.not_lt.mpr held), read]

theorem decode_of_partial (announces : Announces limit buffer)
    (partly : buffer.length < frameEnd buffer) : decode limit buffer = .needMore := by
  obtain ⟨family, read⟩ := (announces_iff limit buffer).mp announces
  by_cases short : buffer.length < prefixLength
  · exact decode_of_short short
  · have partly : buffer.length < prefixLength + announced buffer := partly
    simp only [decode, if_neg short, read, if_pos partly]

theorem takes_of_whole (announces : Announces limit buffer)
    (whole : frameEnd buffer ≤ buffer.length) :
    (decode limit buffer).Takes (buffer.drop (frameEnd buffer)) := by
  obtain ⟨family, read⟩ := (announces_iff limit buffer).mp announces
  rcases decode_of_whole read whole with ⟨m, -, h⟩ | ⟨fault, payload, h⟩
  · exact .inl ⟨m, h⟩
  · exact .inr ⟨fault, ofPrefix_of_readPayload payload, h⟩

theorem Announces.append (announces : Announces limit buffer) (held : prefixLength ≤ buffer.length)
    (more : Bytes) : Announces limit (buffer ++ more) where
  known := tagOf_append held more ▸ announces.known
  least := announced_append held more ▸ announces.least
  most := announced_append held more ▸ announces.most

theorem waits_of_takes {found : Decoded} {rest : Bytes} (takes : found.Takes rest) :
    found.waits = false ∧ found ≠ .needMore ∧ ∀ buffer, found.left buffer = rest := by
  rcases takes with ⟨m, rfl⟩ | ⟨fault, payload, rfl⟩
  · exact ⟨rfl, nofun, fun _ => rfl⟩
  · exact ⟨payload, nofun, fun _ => rfl⟩

theorem needMore_iff (limit : Nat) (buffer : Bytes) : decode limit buffer = .needMore ↔
    buffer.length < prefixLength ∨
      Announces limit buffer ∧ buffer.length < frameEnd buffer := by
  constructor
  · intro found
    by_cases short : buffer.length < prefixLength
    · exact .inl short
    · by_cases announces : Announces limit buffer
      · refine .inr ⟨announces, Nat.lt_of_not_le fun whole => ?_⟩
        exact (waits_of_takes (takes_of_whole announces whole)).2.1 found
      · obtain ⟨fault, read⟩ := exists_readPrefix_error announces
        rw [decode_of_refused (Nat.le_of_not_lt short) read] at found
        cases found
  · rintro (short | ⟨announces, partly⟩)
    · exact decode_of_short short
    · exact decode_of_partial announces partly

end

/-- The decoder reads nothing past the bytes that it holds. It waits exactly if the six bytes at
the front are not there, or if they announce a frame that is allowed and has not come to its end.
While it waits, and when the six bytes are bad, the buffer stays; otherwise exactly the frame is
taken off. Once the bytes come that are missing, whatever they are, it takes the frame. -/
theorem decode_moves_on (limit : Nat) (buffer : Bytes) :
    decode limit buffer ≠ .overrun ∧
    (decode limit buffer = .needMore ↔ buffer.length < prefixLength ∨
      Announces limit buffer ∧ buffer.length < frameEnd buffer) ∧
    ((decode limit buffer).waits = true → (decode limit buffer).left buffer = buffer) ∧
    ((decode limit buffer).waits = false → frameEnd buffer ≤ buffer.length ∧
      (decode limit buffer).left buffer = buffer.drop (frameEnd buffer)) ∧
    (decode limit buffer = .needMore → prefixLength ≤ buffer.length →
      ∀ more : Bytes, buffer.length + more.length = frameEnd buffer →
        (decode limit (buffer ++ more)).Takes []) := by
  refine ⟨decode_ne_overrun limit buffer, needMore_iff limit buffer, ?_⟩
  by_cases waiting : decode limit buffer = .needMore
  · rw [waiting]
    refine ⟨fun _ => rfl, nofun, fun _ held more missing => ?_⟩
    rcases (needMore_iff limit buffer).mp waiting with short | ⟨announces, -⟩
    · omega
    · have exact : frameEnd (buffer ++ more) = (buffer ++ more).length := by
        rw [List.length_append, missing, frameEnd, frameEnd, announced_append held]
      have takes := takes_of_whole (announces.append held more) (Nat.le_of_eq exact)
      rwa [exact, List.drop_length] at takes
  · have held : prefixLength ≤ buffer.length :=
      Nat.le_of_not_lt fun short => waiting (decode_of_short short)
    by_cases announces : Announces limit buffer
    · have whole : frameEnd buffer ≤ buffer.length :=
        Nat.le_of_not_lt fun partly => waiting (decode_of_partial announces partly)
      obtain ⟨taken, -, behind⟩ := waits_of_takes (takes_of_whole announces whole)
      refine ⟨fun waits => ?_, fun _ => ⟨whole, behind buffer⟩, fun found => absurd found waiting⟩
      rw [taken] at waits
      cases waits
    · obtain ⟨fault, read⟩ := exists_readPrefix_error announces
      have early := ofPrefix_of_readPrefix read
      rw [decode_of_refused held read]
      exact ⟨fun _ => rfl, fun taken => absurd (early.symm.trans taken) nofun, nofun⟩

end ClusterWire.Frame
