import ClusterWire.Proofs.Link.Duties
import ClusterWire.Proofs.Link.Tasks

/-! One link, as far as its messages go: those that wait and those that were written. Work on
the server adds to those that wait, and only the task of the link takes them off, one after the
other. -/
namespace ClusterWire

/-- What decides about the messages of a link. -/
structure Outbox where
  phase : LinkPhase := .running
  queue : List Message := []
  written : List Message := []
deriving DecidableEq, Repr

namespace Link

def outbox (l : Link) : Outbox := ⟨l.phase, l.queue, l.written⟩

@[simp] theorem phase_outbox (l : Link) : l.outbox.phase = l.phase := rfl

@[simp] theorem queue_outbox (l : Link) : l.outbox.queue = l.queue := rfl

end Link

namespace Outbox

/-- The same, with more that waits. -/
def adding (o : Outbox) (new : List Message) : Outbox := { o with queue := o.queue ++ new }

@[simp] theorem adding_nil (o : Outbox) : o.adding [] = o := by simp [adding]

/-- What the task of a link puts on the wire in a step, and whether it gets through. -/
def puts? (o : Outbox) (event : LinkEvent) : Option (Message × Bool) :=
  match o.phase, event with
  | .running, .write succeeds => o.queue.head?.map (·, succeeds)
  | .running, .heartbeat succeeds => some (.heartbeatRequest .internal, succeeds)
  | .running, .receive m succeeds =>
    if m.kind = .heartbeatRequest then some (.heartbeatResponse .internal, succeeds) else none
  | _, _ => none

/-- A message was put on the wire, and the task goes on if it got through. -/
def put (o : Outbox) (m : Message) (succeeds : Bool) : Outbox :=
  if succeeds then { o with written := o.written ++ [m] } else { o with phase := .closing }

/-- What a step of its task makes of a link: it puts what waits longest on the wire, or a
heartbeat, or does not write, when it may also be that it has come to its end. -/
inductive Steps (o : Outbox) : Option (Message × Bool) → Outbox → Prop where
  | idle : Steps o none o
  | quits {phase : LinkPhase} (queue : List Message) (ending : phase ≠ .running) :
      Steps o none ⟨phase, queue, o.written⟩
  | writes {m : Message} {rest : List Message} (succeeds : Bool) (running : o.phase = .running)
      (head : o.queue = m :: rest) :
      Steps o (some (m, succeeds)) (({ o with queue := rest } : Outbox).put m succeeds)
  | beats {m : Message} (succeeds : Bool) (running : o.phase = .running)
      (other : m.kind ≠ .request) : Steps o (some (m, succeeds)) (o.put m succeeds)

end Outbox

namespace Peers

def outbox? (p : Peers) (id : LinkId) : Option Outbox := (p.link? id).map Link.outbox

variable {p q : Peers} {id : LinkId} {o : Outbox}

theorem outbox?_opened (known : p.outbox? id = some o) {opened : List Link}
    (links : q.links = p.links ++ opened) : q.outbox? id = some o := by
  obtain ⟨l, there, rfl⟩ := Option.map_eq_some_iff.mp known
  have inside := (List.getElem?_eq_some_iff.mp there).1
  have still : q.link? id = some l := by
    rw [link?, links, List.getElem?_append_left inside]
    exact there
  rw [outbox?, still]
  rfl

theorem outbox?_of_modify {l : Link} (change : Link → Link) (known : p.link? id = some l)
    (links : q.links = p.links.modify id.index change) :
    q.outbox? id = some (change l).outbox := by
  rw [outbox?, link?_of_modify links, if_pos rfl, known]
  rfl

end Peers

namespace Board

variable {b : Board} {id : LinkId} {o : Outbox}

/-- What is posted waits on its own link, if this still takes it. -/
theorem outbox?_enqueue (serializers : Serializers) (known : b.peers.outbox? id = some o)
    (address : SocketAddress) (other : LinkId) (m : Message) (call : Option Invocation) :
    ∃ new, (b.enqueue serializers address other m call).1.peers.outbox? id = some (o.adding new) ∧
      (new = [] ∨ new = [m]) := by
  rw [b.peers_enqueue]
  split
  · by_cases own : other = id
    · obtain ⟨l, there, rfl⟩ := Option.map_eq_some_iff.mp known
      rw [own]
      exact ⟨[m], Peers.outbox?_of_modify (fun l => { l with queue := l.queue ++ [m] }) there rfl,
        .inr rfl⟩
    · refine ⟨[], ?_, .inl rfl⟩
      rw [Outbox.adding_nil, Peers.outbox?, Peers.link?_of_modify rfl, if_neg (Ne.symm own)]
      exact known
  · exact ⟨[], by rw [Outbox.adding_nil]; exact known, .inl rfl⟩

theorem outbox_wrote (l : Link) (m : Message) (succeeds : Bool) :
    (wrote l m succeeds).outbox = l.outbox.put m succeeds := by
  cases succeeds <;> rfl

theorem outbox_track (l : Link) (m : Message) : (l.track m).outbox = l.outbox := by
  unfold Link.track
  split
  · split <;> rfl
  · rfl

theorem steps_receive (serializers : Serializers) (z : Serializer) {l : Link}
    (there : b.peers.link? id = some l) (running : l.phase = .running) (m : Message)
    (succeeds : Bool) : ∃ o', (b.receive serializers z id l m succeeds).peers.outbox? id = some o' ∧
      l.outbox.Steps (l.outbox.puts? (.receive m succeeds)) o' := by
  have still : b.peers.outbox? id = some l.outbox := by
    rw [Peers.outbox?, there]
    rfl
  unfold receive
  simp only [Outbox.puts?, Link.phase_outbox, running]
  cases kind : m.kind with
  | heartbeatRequest =>
    refine ⟨_, Peers.outbox?_of_modify _ there rfl, ?_⟩
    rw [outbox_wrote]
    exact .beats succeeds running (by simp [Message.kind])
  | heartbeatResponse | request => exact ⟨_, still, .idle⟩
  | response =>
    by_cases push : m.sequence = 0
    · simp only [push, if_true]
      exact ⟨_, still, .idle⟩
    · simp only [push, if_false]
      exact ⟨_, Peers.outbox?_of_modify _ there rfl, .idle⟩

/-- A step of the task of a link is a step of its messages. -/
theorem steps_step (serializers : Serializers) (z : Serializer)
    (known : b.peers.outbox? id = some o) (event : LinkEvent) :
    ∃ o', (b.step serializers z id event).peers.outbox? id = some o' ∧
      o.Steps (o.puts? event) o' := by
  have still : ∃ o', b.peers.outbox? id = some o' ∧ o.Steps none o' := ⟨o, known, .idle⟩
  obtain ⟨l, there, rfl⟩ := Option.map_eq_some_iff.mp known
  have modified : ∀ (change : Link → Link) {put : Option (Message × Bool)},
      l.outbox.Steps put (change l).outbox →
      ∃ o', (b.peers.modifyLink id change).outbox? id = some o' ∧ l.outbox.Steps put o' :=
    fun change _ steps => ⟨_, Peers.outbox?_of_modify _ there rfl, steps⟩
  cases phase : l.phase with
  | stopped => cases event <;> simpa [step, Outbox.puts?, there, phase] using still
  | closing =>
    cases event with
    | stop =>
      simp only [step, Outbox.puts?, there, phase, Link.phase_outbox]
      exact modified _ (.quits [] (by simp))
    | write | receive | heartbeat | lost | released =>
      simpa [step, Outbox.puts?, there, phase] using still
  | running =>
    cases event with
    | write succeeds =>
      simp only [step, Outbox.puts?, there, phase, Link.phase_outbox, Link.queue_outbox]
      cases queue : l.queue with
      | nil => exact still
      | cons m rest =>
        refine modified _ ?_
        rw [outbox_wrote, outbox_track]
        exact .writes succeeds phase queue
    | receive m succeeds =>
      simpa [step, there, phase] using steps_receive serializers z there phase m succeeds
    | heartbeat succeeds =>
      simp only [step, Outbox.puts?, there, phase, Link.phase_outbox]
      refine modified _ ?_
      rw [outbox_wrote]
      exact .beats succeeds phase (by simp [Message.kind])
    | lost =>
      simp only [step, Outbox.puts?, there, phase, Link.phase_outbox]
      exact modified _ (.quits _ (by simp))
    | released =>
      simp only [step, Outbox.puts?, there, phase, Link.phase_outbox]
      split
      · exact modified _ (.quits _ (by simp))
      · exact still
    | stop => simpa [step, Outbox.puts?, there, phase] using still

end Board

/-- Work adds to what waits on a link, if at all, the one message that it is about to post. -/
theorem Works.outbox? {serializers : Serializers} {w w' : World} {h h' : Holding} {id : LinkId}
    {o : Outbox} (works : Works serializers w h w' h') (known : w.peers.outbox? id = some o) :
    ∃ new, w'.peers.outbox? id = some (o.adding new) ∧
      (new = [] ∨ ∃ p, h.post? = some p ∧ new = [p.message]) := by
  cases works with
  | quiet _ links =>
    obtain ⟨opened, -, links⟩ := links
    exact ⟨[], by rw [o.adding_nil]; exact Peers.outbox?_opened known links, .inl rfl⟩
  | number _ _ _ links =>
    refine ⟨[], ?_, .inl rfl⟩
    rw [o.adding_nil]
    exact Peers.outbox?_opened known (links.trans (List.append_nil _).symm)
  | post p posts world =>
    obtain ⟨new, behind, added⟩ :=
      Board.outbox?_enqueue serializers known p.address p.link p.message p.call
    rw [← world] at behind
    exact ⟨new, behind, added.imp_right fun one => ⟨p, posts, one⟩⟩

end ClusterWire
