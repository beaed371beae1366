import ClusterWire.Frame

/-! A stream decodes alike however it arrives. What the decoder finds at the
front of a buffer stays when more bytes come in behind, so that a run over the
whole stream goes through the same frames as one that stops at every chunk. -/
namespace ClusterWire

namespace Bytes

theorem split?_isSome {n : Nat} {bs : Bytes} (held : n ≤ bs.length) :
    split? n bs = some (bs.take n, bs.drop n) := if_pos held

theorem field?_isSome {n : Nat} {bs : Bytes} (held : n ≤ bs.length) :
    field? n bs = some (toNat (bs.take n), bs.drop n) := by
  rw [field?, split?_isSome held]
  rfl

end Bytes

namespace Frame

/-! Every read of a payload is covered by a check of what is left. -/

theorem readHint_isSome (flagged : Bool) (bs : Bytes) : (readHint flagged bs).isSome := by
  unfold readHint
  split
  · rfl
  · split
    · rfl
    · rename_i held
      rw [Bytes.field?_isSome (Nat.le_of_not_lt held)]
      simp only [Option.bind_eq_bind, Option.bind_some]
      split
      · rfl
      · rename_i enough
        rw [Bytes.split?_isSome (Nat.le_of_not_lt enough)]
        simp only [Option.bind_some]
        split <;> rfl

theorem readCaller_isSome (flagged : Bool) (s : Int64) (p : ProtocolId) (bs : Bytes) :
    (readCaller flagged s p bs).isSome := by
  unfold readCaller
  split
  · rfl
  · rename_i held
    rw [Bytes.field?_isSome (Nat.le_of_not_lt held)]
    obtain ⟨hint, read⟩ := Option.isSome_iff_exists.mp
      (readHint_isSome flagged (bs.drop callerLength))
    simp only [Option.bind_eq_bind, Option.bind_some, read]
    split <;> rfl

theorem readBody_isSome (family : Family) (kind : Kind) (flagged : Bool) (s : Int64)
    (p : ProtocolId) (bs : Bytes) : (readBody family kind flagged s p bs).isSome := by
  unfold readBody
  split
  · exact readCaller_isSome flagged s p bs
  · split
    · rfl
    · split <;> rfl

theorem readPayload_isSome (family : Family) {bs : Bytes} (header : headerLength ≤ bs.length) :
    (readPayload family bs).isSome := by
  have length : 12 ≤ bs.length := header
  have sequence : 8 ≤ (bs.drop 1).length := by
    rw [List.length_drop]
    omega
  have modules : 2 ≤ ((bs.drop 1).drop 8).length := by
    simp only [List.length_drop]
    omega
  have method : 1 ≤ (((bs.drop 1).drop 8).drop 2).length := by
    simp only [List.length_drop]
    omega
  unfold readPayload
  rw [Bytes.field?_isSome (Nat.le_trans (by decide) length)]
  simp only [Option.bind_eq_bind, Option.bind_some]
  split
  · rfl
  · rw [Bytes.field?_isSome sequence]
    simp only [Option.bind_some]
    rw [Bytes.field?_isSome modules]
    simp only [Option.bind_some]
    rw [Bytes.field?_isSome method]
    exact readBody_isSome _ _ _ _ _ _

/-! What a look at the front of a buffer depends on. -/

/-- The family tag at the front of a buffer. -/
def tagOf (bs : Bytes) : UInt16 := UInt16.ofNat (Bytes.toNat (bs.take 2))

/-- The length that the front of a buffer announces. -/
def announced (bs : Bytes) : Nat := Bytes.toNat ((bs.drop 2).take 4)

section

variable {bs : Bytes} (held : prefixLength ≤ bs.length) (more : Bytes)
include held

theorem tagOf_append : tagOf (bs ++ more) = tagOf bs := by
  have held : 6 ≤ bs.length := held
  rw [tagOf, tagOf, List.take_append_of_le_length (by omega)]

theorem announced_append : announced (bs ++ more) = announced bs := by
  have held : 6 ≤ bs.length := held
  rw [announced, announced, List.drop_append_of_le_length (by omega), List.take_append_of_le_length]
  rw [List.length_drop]
  omega

theorem readPrefix_append {limit : Nat} : readPrefix limit (bs ++ more) = readPrefix limit bs := by
  have tag := tagOf_append held more
  have size := announced_append held more
  unfold tagOf at tag
  unfold announced at size
  simp only [readPrefix, tag, size]

end

theorem readPrefix_eq_ok {limit length : Nat} {bs : Bytes} {family : Family} :
    readPrefix limit bs = .ok (family, length) ↔ Family.ofTag? (tagOf bs) = some family ∧
      announced bs = length ∧ headerLength ≤ length ∧ length ≤ limit := by
  unfold readPrefix tagOf announced
  generalize UInt16.ofNat (Bytes.toNat (bs.take 2)) = tag
  generalize Bytes.toNat ((bs.drop 2).take 4) = size
  dsimp only
  cases Family.ofTag? tag with
  | none => simp
  | some known =>
    dsimp only
    by_cases short : size < headerLength
    · rw [if_pos short]
      refine iff_of_false nofun fun ⟨_, same, enough, _⟩ => ?_
      omega
    · rw [if_neg short]
      by_cases long : limit < size
      · rw [if_pos long]
        refine iff_of_false nofun fun ⟨_, same, _, allowed⟩ => ?_
        omega
      · rw [if_neg long]
        simp only [Except.ok.injEq, Prod.mk.injEq, Option.some.injEq]
        constructor
        · rintro ⟨rfl, rfl⟩
          exact ⟨rfl, rfl, Nat.le_of_not_lt short, Nat.le_of_not_lt long⟩
        · rintro ⟨rfl, rfl, -, -⟩
          exact ⟨rfl, rfl⟩

/-- A whole frame is taken off the buffer, whether its payload is good or bad. -/
theorem decode_of_whole {limit length : Nat} {buffer : Bytes} {family : Family}
    (read : readPrefix limit buffer = .ok (family, length))
    (whole : prefixLength + length ≤ buffer.length) :
    (∃ m, readPayload family ((buffer.drop prefixLength).take length) = some (.ok m) ∧
      decode limit buffer = .message m (buffer.drop (prefixLength + length))) ∨
    (∃ fault, readPayload family ((buffer.drop prefixLength).take length) = some (.error fault) ∧
      decode limit buffer = .fault fault (buffer.drop (prefixLength + length))) := by
  have held : ¬ buffer.length < prefixLength := by omega
  have partly : ¬ buffer.length < prefixLength + length := Nat.not_lt.mpr whole
  have enough : headerLength ≤ ((buffer.drop prefixLength).take length).length := by
    have least := (readPrefix_eq_ok.mp read).2.2.1
    simp only [List.length_take, List.length_drop]
    omega
  obtain ⟨result, payload⟩ := Option.isSome_iff_exists.mp (readPayload_isSome family enough)
  cases result with
  | ok m => exact .inl ⟨m, payload, by simp only [decode, if_neg held, read, if_neg partly, payload]⟩
  | error fault =>
    exact .inr ⟨fault, payload, by simp only [decode, if_neg held, read, if_neg partly, payload]⟩

theorem decode_cases (limit : Nat) (buffer : Bytes) :
    (decode limit buffer = .needMore) ∨
    (prefixLength ≤ buffer.length ∧ ∃ fault, readPrefix limit buffer = .error fault ∧
      decode limit buffer = .fault fault buffer) ∨
    (∃ family length, prefixLength + length ≤ buffer.length ∧
      readPrefix limit buffer = .ok (family, length) ∧
      ((∃ m, readPayload family ((buffer.drop prefixLength).take length) = some (.ok m) ∧
          decode limit buffer = .message m (buffer.drop (prefixLength + length))) ∨
       (∃ fault, readPayload family ((buffer.drop prefixLength).take length) = some (.error fault) ∧
          decode limit buffer = .fault fault (buffer.drop (prefixLength + length))))) := by
  by_cases short : buffer.length < prefixLength
  · exact .inl (if_pos short)
  · have held : prefixLength ≤ buffer.length := Nat.le_of_not_lt short
    cases read : readPrefix limit buffer with
    | error fault => exact .inr (.inl ⟨held, fault, rfl, by simp only [decode, if_neg short, read]⟩)
    | ok header =>
      obtain ⟨family, length⟩ := header
      by_cases partly : buffer.length < prefixLength + length
      · exact .inl (by simp only [decode, if_neg short, read, if_pos partly])
      · have whole : prefixLength + length ≤ buffer.length := Nat.le_of_not_lt partly
        exact .inr (.inr ⟨family, length, whole, rfl, decode_of_whole read whole⟩)

theorem decode_ne_overrun (limit : Nat) (buffer : Bytes) : decode limit buffer ≠ .overrun := by
  rcases decode_cases limit buffer with h | ⟨_, _, _, h⟩ | ⟨_, _, _, _, ⟨_, _, h⟩ | ⟨_, _, h⟩⟩ <;>
    simp [h]

def Decoded.followedBy (more : Bytes) : Decoded → Decoded
  | .needMore => .needMore
  | .message m rest => .message m (rest ++ more)
  | .fault f rest => .fault f (rest ++ more)
  | .overrun => .overrun

/-- Once the decoder finds something it finds the same when more has come in. -/
theorem decode_append {limit : Nat} {buffer : Bytes} (found : decode limit buffer ≠ .needMore)
    (more : Bytes) : decode limit (buffer ++ more) = (decode limit buffer).followedBy more := by
  rcases decode_cases limit buffer with h | ⟨held, fault, read, h⟩ | ⟨family, length, whole, read, h⟩
  · exact absurd h found
  · have long : ¬ (buffer ++ more).length < prefixLength := by
      rw [List.length_append]
      omega
    rw [h]
    simp only [decode, if_neg long, readPrefix_append held, read, Decoded.followedBy]
  · -- A whole frame lies in the buffer, so that nothing that is read of it moves.
    have held : prefixLength ≤ buffer.length := by omega
    have long : ¬ (buffer ++ more).length < prefixLength := by
      rw [List.length_append]
      omega
    have still : ¬ (buffer ++ more).length < prefixLength + length := by
      rw [List.length_append]
      omega
    have payload : ((buffer ++ more).drop prefixLength).take length =
        (buffer.drop prefixLength).take length := by
      rw [List.drop_append_of_le_length held, List.take_append_of_le_length]
      rw [List.length_drop]
      omega
    have behind : (buffer ++ more).drop (prefixLength + length) =
        buffer.drop (prefixLength + length) ++ more := List.drop_append_of_le_length whole
    rcases h with ⟨m, own, h⟩ | ⟨fault, own, h⟩ <;> rw [h] <;>
      simp only [decode, if_neg long, readPrefix_append held, read, if_neg still, payload, own,
        behind, Decoded.followedBy]

theorem length_lt_of_decode {limit : Nat} {buffer rest : Bytes} {m : Message}
    (found : decode limit buffer = .message m rest) : rest.length < buffer.length := by
  rcases decode_cases limit buffer with h | ⟨_, _, _, h⟩ | ⟨_, length, whole, _, ⟨_, _, h⟩ | ⟨_, _, h⟩⟩ <;>
    rw [found] at h <;> cases h
  have some : prefixLength = 6 := rfl
  rw [List.length_drop]
  omega

/-! Runs of the decoder. -/

def run (limit : Nat) (buffer : Bytes) : List Message × Stop × Bytes :=
  ((drain limit buffer).1.map (·.1), (drain limit buffer).2)

theorem decodeAll_enough (limit : Nat) (buffer : Bytes) (fuel : Nat) (enough : buffer.length < fuel) :
    decodeAll limit fuel buffer = drain limit buffer := by
  unfold drain
  induction fuel using Nat.strongRecOn generalizing buffer with
  | ind fuel ih =>
    obtain ⟨fuel, rfl⟩ : ∃ n, fuel = n + 1 := ⟨fuel - 1, by omega⟩
    cases found : decode limit buffer with
    | needMore => simp only [decodeAll, found]
    | fault fault rest => simp only [decodeAll, found]
    | overrun => simp only [decodeAll, found]
    | message m rest =>
      have shorter := length_lt_of_decode found
      have left := ih fuel (Nat.lt_succ_self fuel) rest (by omega)
      have right : decodeAll limit buffer.length rest = decodeAll limit (rest.length + 1) rest := by
        by_cases same : buffer.length = fuel
        · rw [same, left]
        · exact ih buffer.length (by omega) rest shorter
      simp only [decodeAll, found, left, right]

theorem run_needMore {limit : Nat} {buffer : Bytes} (found : decode limit buffer = .needMore) :
    run limit buffer = ([], .needMore, buffer) := by
  simp only [run, drain, decodeAll, found, List.map_nil]

theorem run_fault {limit : Nat} {buffer rest : Bytes} {fault : Fault}
    (found : decode limit buffer = .fault fault rest) :
    run limit buffer = ([], .fault fault, rest) := by
  simp only [run, drain, decodeAll, found, List.map_nil]

theorem run_message {limit : Nat} {buffer rest : Bytes} {m : Message}
    (found : decode limit buffer = .message m rest) :
    run limit buffer = (m :: (run limit rest).1, (run limit rest).2) := by
  have rests := decodeAll_enough limit rest buffer.length (length_lt_of_decode found)
  simp only [run, drain, decodeAll, found, List.map_cons] at rests ⊢
  rw [rests]

/-- A run goes on where a run over the front of its bytes wanted more. -/
theorem run_append (limit : Nat) (front back : Bytes) :
    run limit (front ++ back) =
      match run limit front with
      | (ms, .needMore, left) =>
        (ms ++ (run limit (left ++ back)).1, (run limit (left ++ back)).2)
      | (ms, stop, left) => (ms, stop, left ++ back) := by
  induction size : front.length using Nat.strongRecOn generalizing front with
  | ind n ih =>
    cases found : decode limit front with
    | needMore => rw [run_needMore found]; rfl
    | overrun => exact absurd found (decode_ne_overrun limit front)
    | fault fault rest =>
      have extended : decode limit (front ++ back) = .fault fault (rest ++ back) := by
        rw [decode_append (by rw [found]; simp), found]
        rfl
      rw [run_fault found, run_fault extended]
    | message m rest =>
      have extended : decode limit (front ++ back) = .message m (rest ++ back) := by
        rw [decode_append (by rw [found]; simp), found]
        rfl
      have rests := ih rest.length (size ▸ length_lt_of_decode found) rest rfl
      rw [run_message found, run_message extended, rests]
      rcases run limit rest with ⟨ms, _ | fault | _, left⟩ <;> rfl

theorem decode_left (limit : Nat) (buffer : Bytes) (waiting : (run limit buffer).2.1 = .needMore) :
    decode limit (run limit buffer).2.2 = .needMore := by
  induction size : buffer.length using Nat.strongRecOn generalizing buffer with
  | ind n ih =>
    cases found : decode limit buffer with
    | needMore => rw [run_needMore found]; exact found
    | overrun => exact absurd found (decode_ne_overrun limit buffer)
    | fault fault rest => rw [run_fault found] at waiting; cases waiting
    | message m rest =>
      rw [run_message found] at waiting ⊢
      exact ih rest.length (size ▸ length_lt_of_decode found) rest waiting rfl

theorem run_ne_overrun (limit : Nat) (buffer : Bytes) : (run limit buffer).2.1 ≠ .overrun := by
  induction size : buffer.length using Nat.strongRecOn generalizing buffer with
  | ind n ih =>
    cases found : decode limit buffer with
    | needMore => rw [run_needMore found]; simp
    | overrun => exact absurd found (decode_ne_overrun limit buffer)
    | fault fault rest => rw [run_fault found]; simp
    | message m rest =>
      rw [run_message found]
      exact ih rest.length (size ▸ length_lt_of_decode found) rest rfl

/-- Takes in a stream chunk by chunk, with a run of the decoder after each, up
to the first fault. -/
def feed (limit : Nat) : Bytes → List Bytes → List Message × Stop × Bytes
  | buffer, [] => ([], .needMore, buffer)
  | buffer, chunk :: rest =>
    match run limit (buffer ++ chunk) with
    | (ms, .needMore, left) => (ms ++ (feed limit left rest).1, (feed limit left rest).2)
    | (ms, stop, left) => (ms, stop, left)

/-- Chunks bring what their bytes bring at once. Behind a fault the bytes of
later chunks are missing from what is left. -/
theorem feed_eq_run (limit : Nat) (buffer : Bytes) (chunks : List Bytes)
    (waiting : decode limit buffer = .needMore) :
    (feed limit buffer chunks).1 = (run limit (buffer ++ chunks.flatten)).1 ∧
    (feed limit buffer chunks).2.1 = (run limit (buffer ++ chunks.flatten)).2.1 ∧
    ((feed limit buffer chunks).2.1 = .needMore →
      (feed limit buffer chunks).2.2 = (run limit (buffer ++ chunks.flatten)).2.2) := by
  -- What a chunk leaves waits for more again, which is what the next one needs.
  induction chunks generalizing buffer with
  | nil => simp [feed, run_needMore waiting]
  | cons chunk rest ih =>
    rw [List.flatten_cons, ← List.append_assoc, run_append]
    simp only [feed]
    have next := decode_left limit (buffer ++ chunk)
    rcases outcome : run limit (buffer ++ chunk) with ⟨ms, _ | fault | _, left⟩ <;>
      rw [outcome] at next
    · obtain ⟨messages, stop, bytes⟩ := ih left (next rfl)
      exact ⟨congrArg (ms ++ ·) messages, stop, bytes⟩
    · exact ⟨rfl, rfl, fun h => by cases h⟩
    · exact ⟨rfl, rfl, fun h => by cases h⟩

/-- Two ways to cut a stream bring the same messages and the same end, and leave
the same bytes unless a frame is bad. No run reads past the bytes it holds. -/
theorem feed_cut (limit : Nat) (chunks others : List Bytes)
    (same : chunks.flatten = others.flatten) :
    (feed limit [] chunks).1 = (feed limit [] others).1 ∧
    (feed limit [] chunks).2.1 = (feed limit [] others).2.1 ∧
    ((feed limit [] chunks).2.1 = .needMore →
      (feed limit [] chunks).2.2 = (feed limit [] others).2.2) ∧
    (feed limit [] chunks).2.1 ≠ .overrun := by
  obtain ⟨messages₁, stop₁, left₁⟩ := feed_eq_run limit [] chunks rfl
  obtain ⟨messages₂, stop₂, left₂⟩ := feed_eq_run limit [] others rfl
  rw [same] at messages₁ stop₁ left₁
  refine ⟨messages₁.trans messages₂.symm, stop₁.trans stop₂.symm, fun waiting => ?_, ?_⟩
  · exact (left₁ waiting).trans (left₂ (stop₂.trans (stop₁.symm.trans waiting))).symm
  · rw [stop₁]
    exact run_ne_overrun limit _

def heartbeatThenNoise : Bytes :=
  [0x7F, 2, 0, 0, 0, 12, 3, 0, 0, 0, 0, 0, 0, 0, 0, 0, 0, 0, 0xFF, 0xFF, 0, 0, 0, 12]

theorem feed_cut_noise :
    [heartbeatThenNoise.take 7, [], heartbeatThenNoise.drop 7].flatten =
      [heartbeatThenNoise].flatten ∧
    feed 12 [] [heartbeatThenNoise] = ([.heartbeatRequest .external],
      .fault (.unknownFamily 0xFFFF), [0xFF, 0xFF, 0, 0, 0, 12]) ∧
    (feed 12 [] [heartbeatThenNoise.take 7, [], heartbeatThenNoise.drop 7]).1 =
      [.heartbeatRequest .external] := by
  have same : [heartbeatThenNoise.take 7, [], heartbeatThenNoise.drop 7].flatten =
      [heartbeatThenNoise].flatten := rfl
  have whole : feed 12 [] [heartbeatThenNoise] = ([.heartbeatRequest .external],
      .fault (.unknownFamily 0xFFFF), [0xFF, 0xFF, 0, 0, 0, 12]) := rfl
  refine ⟨same, whole, ?_⟩
  rw [(feed_cut 12 _ _ same).1, whole]

end Frame
end ClusterWire
