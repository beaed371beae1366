import ClusterWire.Proofs.Frame.Stream
import ClusterWire.Proofs.Passage.Queueing

/-! From the queue of the link to the connection that reads it. The requests that were begun to
be written are the first of those that were queued, and the messages that were read are the
first of those that were begun; what is in between lies on the wire as frames, the last of which
may be torn. -/
namespace ClusterWire

namespace Frame

/-- What a reader finds where a frame stands is the message of the frame, whatever the reader's
limit is. -/
theorem eq_of_decode_frameOf {limit : Nat} {m found : Message} {rest left : Bytes} (fits : Fits m)
    (read : decode limit (frameOf m ++ rest) = .message found left) : found = m ∧ left = rest := by
  have own := readPrefix_frameOf fits.2 (Nat.le_refl (length m)) rest
  have allowed : length m ≤ limit := by
    rcases decode_cases limit (frameOf m ++ rest) with h | ⟨-, _, -, h⟩ | ⟨_, _, -, header, -⟩
    · rw [read] at h
      cases h
    · rw [read] at h
      cases h
    · obtain ⟨-, same, -, within⟩ := readPrefix_eq_ok.mp header
      rw [← (readPrefix_eq_ok.mp own).2.1, same]
      exact within
  rw [decode_frameOf fits allowed] at read
  cases read
  exact ⟨rfl, rfl⟩

theorem frameOf_ne_nil (m : Message) : frameOf m ≠ [] := by
  intro none
  have length := length_frameOf m
  rw [none, prefixLength, List.length_nil] at length
  omega

/-- What goes out is the front of a frame, and with success the whole of it. -/
theorem sent_cases (m : Message) (succeeds : Bool) (torn : Nat) : sent m succeeds torn = [] ∨
    Fits m ∧ ∃ behind, sent m succeeds torn ++ behind = frameOf m := by
  by_cases fits : Fits m
  · right
    refine ⟨fits, ?_⟩
    simp only [sent, encode_eq_ok fits]
    cases succeeds with
    | true => exact ⟨[], List.append_nil _⟩
    | false => exact ⟨_, List.take_append_drop torn _⟩
  · obtain ⟨fault, refused⟩ := encode_eq_error fits
    left
    simp only [sent, refused]

theorem sent_of_fits {m : Message} (fits : Fits m) (torn : Nat) : sent m true torn = frameOf m := by
  simp only [sent, encode_eq_ok fits, if_true]

end Frame

/-- The requests among messages. -/
def requests (ms : List Message) : List Message := ms.filter (·.kind = .request)

@[simp] theorem requests_append (ms others : List Message) :
    requests (ms ++ others) = requests ms ++ requests others := List.filter_append ..

theorem requests_of_not {m : Message} (other : m.kind ≠ .request) : requests [m] = [] := by
  simp [requests, other]

namespace Crossing

variable {x : Route} {c : Crossing} {o : Outbox}

/-- As far as the link has written: all requests that were queued were begun or wait, and all
that was begun got through, until its task ends. -/
structure Sending (o : Outbox) (c : Crossing) : Prop where
  queued : ∃ lost, requests c.begun ++ lost = requests (c.taken.map (·.2)) ∧
    (o.phase = .running → lost = requests o.queue)
  written : ∃ torn, c.begun = o.written ++ torn ∧ torn.length ≤ 1 ∧ (o.phase = .running → torn = [])

/-- What was begun and not read yet is on its way, as far as it went out. -/
structure Flowing (o : Outbox) (c : Crossing) : Prop where
  stream : ∃ held ended rest tail, c.reader.inbox = .stream held ended ∧
    c.begun = c.read ++ rest ∧ (∀ m ∈ rest, Frame.Fits m) ∧
    held ++ c.wire ++ tail = (rest.map Frame.frameOf).flatten ∧ (o.phase = .running → tail = [])

theorem sending_gateway (sending : Sending o c) (author : Option Nat) (new : List Message)
    {c' : Crossing} (taken : c'.taken = c.taken ++ new.map (author, ·))
    (begun : c'.begun = c.begun) :
    Sending (o.adding new) c' := by
  obtain ⟨⟨lost, queued, waits⟩, written⟩ := sending
  refine ⟨⟨lost ++ requests new, ?_, fun running => ?_⟩, ?_⟩
  · have messages : (new.map (author, ·)).map (·.2) = new := by
      rw [List.map_map]
      exact List.map_id new
    rw [begun, taken, List.map_append, messages, requests_append, ← List.append_assoc, queued]
  · rw [waits running, Outbox.adding, requests_append]
  · rw [begun]
    exact written

/-- What a step of the link's task begins to write: a message or nothing, and if it gets through
the whole of the message. -/
theorem went_of_puts {event : LinkEvent} {m : Message} {succeeds : Bool}
    (puts : c.puts? x event = some (m, succeeds)) (torn : Nat)
    (fits : succeeds = true → Frame.Fits m) : ∃ went tail,
      (c.afterLink x event torn).begun = c.begun ++ went ∧ (went = [m] ∨ went = []) ∧
      (∀ n ∈ went, Frame.Fits n) ∧
      (c.afterLink x event torn).wire ++ tail = c.wire ++ (went.map Frame.frameOf).flatten ∧
      (succeeds = true → went = [m] ∧ tail = []) := by
  have bytes : c.bytes x event torn = Frame.sent m succeeds torn := by
    simp only [Crossing.bytes, puts]
  simp only [afterLink, bytes, puts, Option.toList_some, List.map_cons, List.map_nil]
  cases succeeds with
  | true =>
    rw [Frame.sent_of_fits (fits rfl), List.isEmpty_eq_false_iff.mpr (Frame.frameOf_ne_nil m)]
    exact ⟨[m], [], rfl, .inl rfl, by simpa using fits rfl, by simp, fun _ => ⟨rfl, rfl⟩⟩
  | false =>
    rcases Frame.sent_cases m false torn with none | ⟨fits, behind, whole⟩
    · rw [none]
      exact ⟨[], [], rfl, .inr rfl, by simp, by simp, by simp⟩
    · cases empty : Frame.sent m false torn with
      | nil => exact ⟨[], [], rfl, .inr rfl, by simp, by simp, by simp⟩
      | cons b bs =>
        rw [empty] at whole
        refine ⟨[m], behind, rfl, .inl rfl, by simpa using fits, ?_, by simp⟩
        rw [List.append_assoc, whole]
        simp

theorem still_of_puts {event : LinkEvent} (puts : c.puts? x event = none) (torn : Nat) :
    (c.afterLink x event torn).begun = c.begun ∧ (c.afterLink x event torn).wire = c.wire := by
  simp [afterLink, Crossing.bytes, puts]

/-- A message that was begun is one that got through, or the last one. -/
theorem written_put {c' : Crossing} {m : Message} {succeeds : Bool} {queue : List Message}
    {went : List Message} (sending : Sending o c) (running : o.phase = .running)
    (begun : c'.begun = c.begun ++ went) (one : went = [m] ∨ went = [])
    (whole : succeeds = true → went = [m]) :
    ∃ torn, c'.begun = (({ o with queue := queue } : Outbox).put m succeeds).written ++ torn ∧
      torn.length ≤ 1 ∧
      ((({ o with queue := queue } : Outbox).put m succeeds).phase = .running → torn = []) := by
  obtain ⟨torn, written, -, none⟩ := sending.written
  rw [none running, List.append_nil] at written
  rw [begun, written]
  cases succeeds with
  | true => exact ⟨[], by simp [Outbox.put, whole rfl], Nat.zero_le _, fun _ => rfl⟩
  | false =>
    refine ⟨went, rfl, ?_, by rintro ⟨⟩⟩
    rcases one with rfl | rfl <;> simp

/-- A step of the link's task puts what waits longest on the wire, or something else than a
request, or nothing. -/
theorem sending_link (sending : Sending o c) {event : LinkEvent} (torn : Nat) {o' : Outbox}
    (admits : c.Admits x (.link event torn)) (steps : o.Steps (c.puts? x event) o') :
    Sending o' (c.afterLink x event torn) := by
  obtain ⟨lost, queued, waits⟩ := sending.queued
  generalize puts : c.puts? x event = put at steps
  cases steps with
  | idle =>
    have still := (still_of_puts puts torn).1
    exact ⟨⟨lost, still ▸ queued, waits⟩, still ▸ sending.written⟩
  | quits queue ending =>
    have still := (still_of_puts puts torn).1
    obtain ⟨torn, written, short, -⟩ := sending.written
    exact ⟨⟨lost, still ▸ queued, fun running => absurd running ending⟩,
      torn, still ▸ written, short, fun running => absurd running ending⟩
  | @writes m rest succeeds running head =>
    obtain ⟨went, tail, begun, one, -, -, whole⟩ := went_of_puts puts torn fun through =>
      admits m (through ▸ puts)
    refine ⟨?_, written_put sending running begun one fun through => (whole through).1⟩
    have first : requests [m] ++ requests rest = lost := by
      rw [waits running, head, ← requests_append]
      rfl
    rw [begun, requests_append]
    rcases one with rfl | rfl
    · refine ⟨requests rest, ?_, ?_⟩
      · rw [List.append_assoc, first]
        exact queued
      · cases succeeds with
        | true => exact fun _ => rfl
        | false => rintro ⟨⟩
    · refine ⟨lost, (congrArg (· ++ lost) (List.append_nil _)).trans queued, ?_⟩
      cases succeeds with
      | true => cases (whole rfl).1
      | false => rintro ⟨⟩
  | @beats m succeeds running other =>
    obtain ⟨went, tail, begun, one, -, -, whole⟩ := went_of_puts puts torn fun through =>
      admits m (through ▸ puts)
    refine ⟨⟨lost, ?_, ?_⟩,
      written_put sending running begun one fun through => (whole through).1⟩
    · have none : requests went = [] := by
        rcases one with rfl | rfl
        · exact requests_of_not other
        · rfl
      rw [begun, requests_append, none, List.append_nil]
      exact queued
    · cases succeeds with
      | true => exact waits
      | false => rintro ⟨⟩

theorem flowing_link (flowing : Flowing o c) {event : LinkEvent} (torn : Nat) {o' : Outbox}
    (admits : c.Admits x (.link event torn)) (steps : o.Steps (c.puts? x event) o') :
    Flowing o' (c.afterLink x event torn) := by
  obtain ⟨held, ended, rest, tail, inbox, begun, fits, bytes, whole⟩ := flowing
  generalize puts : c.puts? x event = put at steps
  have still : put = none → ∃ held ended rest tail,
      (c.afterLink x event torn).reader.inbox = .stream held ended ∧
      (c.afterLink x event torn).begun = (c.afterLink x event torn).read ++ rest ∧
      (∀ m ∈ rest, Frame.Fits m) ∧
      held ++ (c.afterLink x event torn).wire ++ tail = (rest.map Frame.frameOf).flatten ∧
      (o.phase = .running → tail = []) := by
    rintro rfl
    obtain ⟨same, also⟩ := still_of_puts puts torn
    rw [same, also]
    exact ⟨held, ended, rest, tail, inbox, begun, fits, bytes, whole⟩
  -- A link that is running has everything out that it began, so that what it puts on the wire
  -- follows on whole frames.
  have moves : ∀ (queue : List Message) {m : Message} {succeeds : Bool},
      put = some (m, succeeds) → o.phase = .running →
      Flowing (({ o with queue := queue } : Outbox).put m succeeds) (c.afterLink x event torn) := by
    rintro queue m succeeds rfl running
    obtain ⟨went, tail', later, -, fit, sent, through⟩ := went_of_puts puts torn fun through =>
      admits m (through ▸ puts)
    rw [whole running, List.append_nil] at bytes
    refine ⟨held, ended, rest ++ went, tail', inbox, ?_, ?_, ?_, ?_⟩
    · rw [later, begun]
      exact List.append_assoc ..
    · exact fun n listed => (List.mem_append.mp listed).elim (fits n) (fit n)
    · rw [List.append_assoc, sent, ← List.append_assoc, bytes, List.map_append,
        List.flatten_append]
    · cases succeeds with
      | true => exact fun _ => (through rfl).2
      | false => rintro ⟨⟩
  cases steps with
  | idle => exact ⟨still rfl⟩
  | quits queue ending =>
    obtain ⟨held, ended, rest, tail, inbox, begun, fits, bytes, -⟩ := still rfl
    exact ⟨held, ended, rest, tail, inbox, begun, fits, bytes, fun running => absurd running ending⟩
  | writes succeeds running head => exact moves _ rfl running
  | @beats m succeeds running other => exact moves o.queue rfl running

theorem flowing_delivery (flowing : Flowing o c) (count : Nat) :
    Flowing o (c.afterDelivery count) := by
  obtain ⟨held, ended, rest, tail, inbox, begun, fits, bytes, whole⟩ := flowing
  obtain ⟨front, arrived, split⟩ : ∃ front,
      (if c.reader.inbox.isOpen then c.wire.take count else []) = front ∧
        front ++ c.wire.drop front.length = c.wire := by
    refine ⟨_, rfl, ?_⟩
    split
    · exact List.prefix_iff_eq_append.mp (List.take_prefix count c.wire)
    · rfl
  refine ⟨held ++ front, ended, rest, tail, ?_, begun, fits, ?_, whole⟩
  · simp only [afterDelivery, arrived]
    rw [inbox]
    rfl
  · simp only [afterDelivery, arrived]
    rw [List.append_assoc held, split]
    exact bytes

/-- What is read is the message whose frame comes first, and what lies behind the frame stays. -/
theorem read_next {limit : Nat} {remote : SocketAddress} {held back : Bytes} {ended : Bool}
    {rest : List Message} {m : Message} {left : Inbox} (fits : ∀ m ∈ rest, Frame.Fits m)
    (bytes : held ++ back = (rest.map Frame.frameOf).flatten)
    (next : Inbox.next limit remote (.stream held ended) = .message m left) :
    ∃ held' rest', left = .stream held' ended ∧ rest = m :: rest' ∧
      held' ++ back = (rest'.map Frame.frameOf).flatten := by
  have decoded : ∃ held', Frame.decode limit held = .message m held' ∧
      left = .stream held' ended := by
    simp only [Inbox.next, Inbox.nextInStream] at next
    split at next
    · rename_i found held' decoded
      cases next
      exact ⟨held', decoded, rfl⟩
    · cases next
    · cases next
    · split at next <;> cases next
  obtain ⟨held', decoded, rfl⟩ := decoded
  have longer := Frame.decode_append (by rw [decoded]; simp) back
  rw [bytes, decoded] at longer
  cases rest with
  | nil => cases longer
  | cons first rest =>
    rw [List.map_cons, List.flatten_cons] at longer
    obtain ⟨rfl, behind⟩ :=
      Frame.eq_of_decode_frameOf (fits first List.mem_cons_self) longer
    exact ⟨held', rest, rfl, rfl, behind⟩

theorem flowing_reader (flowing : Flowing o c) (event : Connection.Event) :
    Flowing o (c.afterReader x event) := by
  obtain ⟨held, ended, rest, tail, inbox, begun, fits, bytes, whole⟩ := flowing
  rcases c.reader_cases x.backend event c.back.world.sessions with
    ⟨m, left, read, next, same⟩ | ⟨read, -, same⟩
  · rw [inbox] at next
    rw [List.append_assoc] at bytes
    obtain ⟨held, rest, rfl, rfl, behind⟩ := read_next fits bytes next
    refine ⟨held, ended, rest, tail, ?_, ?_, fun n listed => fits n (List.mem_cons_of_mem _ listed),
      ?_, whole⟩
    · simp only [afterReader, same]
    · simp only [afterReader, read, Option.toList_some, List.append_assoc]
      exact begun
    · simp only [afterReader, List.append_assoc]
      exact behind
  · refine ⟨held, ended, rest, tail, ?_, ?_, fits, bytes, whole⟩
    · simp only [afterReader]
      exact same.trans inbox
    · simp only [afterReader, read, Option.toList_none, List.append_nil]
      exact begun

theorem flowing_hangUp (flowing : Flowing o c) : Flowing o (c.step x .hangUp) := by
  obtain ⟨held, ended, rest, tail, inbox, kept⟩ := flowing
  refine ⟨held, true, rest, tail, ?_, kept⟩
  simp only [step, inbox]
  rfl

theorem flows_of_run {size width : Nat} (run : Run x size width c) :
    ∃ o, c.outbox? x = some o ∧ Sending o c ∧ Flowing o c := by
  induction run with
  | @start c opening =>
    obtain ⟨taken, begun, read, -⟩ := opening.record
    obtain ⟨t, remote, limit, family, type, -, -, reader⟩ := opening.reader_eq
    refine ⟨{}, opening.link, ⟨⟨[], ?_, fun _ => rfl⟩, [], ?_, Nat.zero_le _, fun _ => rfl⟩,
      [], false, [], [], by rw [reader], ?_, by simp, ?_, fun _ => rfl⟩
    · rw [taken, begun]
      rfl
    · rw [begun]
      rfl
    · rw [begun, read]
      rfl
    · rw [opening.wire]
      rfl
  | step move run admits ih =>
    obtain ⟨o, known, sending, flowing⟩ := ih
    cases move with
    | gateway move =>
      obtain ⟨new, added, -⟩ := gateway_adds run known admits
      exact ⟨_, added, sending_gateway sending _ new (taken_afterGateway known added) rfl,
        ⟨flowing.stream⟩⟩
    | link event torn =>
      obtain ⟨o', behind, steps⟩ := outbox?_afterLink known event torn
      exact ⟨o', behind, sending_link sending torn admits steps,
        flowing_link flowing torn admits steps⟩
    | deliver count => exact ⟨o, known, ⟨sending.queued, sending.written⟩,
        flowing_delivery flowing count⟩
    | hangUp => exact ⟨o, known, ⟨sending.queued, sending.written⟩, flowing_hangUp flowing⟩
    | reader event => exact ⟨o, known, ⟨sending.queued, sending.written⟩,
        flowing_reader flowing event⟩
    | backend move => exact ⟨o, known, ⟨sending.queued, sending.written⟩, ⟨flowing.stream⟩⟩

end Crossing
end ClusterWire
