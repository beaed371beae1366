import ClusterWire.Proofs.Dispatch.Accounting
import ClusterWire.Proofs.Relay.Gateway

/-! The balance of a request: as long as it is neither handed on nor answered nothing is
out for it and nothing was sent; from then on it is one call that is out or one frame. -/
namespace ClusterWire

namespace Dispatch

/-- A parcel made up for a request of a session under a number. -/
structure Parcel.Fits (p : Parcel) (id : SessionId) (sequence : Int64) : Prop where
  silent : sequence = 0 → p.request.sequence = 0 ∧ p.call = none
  asking : sequence ≠ 0 → ∃ i, p.call = some i ∧ p.request.sequence = i.sequence ∧
    i.completion = .forward id ∧ i.parent = sequence

namespace Relay

namespace Errand

variable (d : Dispatcher) (r : Relay) {client : SessionId}

/-- How much there is for a request, calls that are out and frames taken together. -/
def due (e : Errand) : Nat :=
  if e.message.sequence = 0 then 0
  else match e.stage with
    | .finished | .answering (.forwarded _) => 1
    | _ => 0

/-- What a request may have come to. -/
def Sound (client : SessionId) (e : Errand) : Prop :=
  match e.stage with
  | .seeking p | .connecting p | .opening p _ | .posting p _ => p.Fits e.session e.message.sequence
  | .crashed _ => ∃ l, r.shards = some l ∧ l.Wide
  | .answering .dropped => e.session ≠ client
  | _ => True

theorem fits_of_parcel {e : Errand} (sound : e.Sound r client) {p : Parcel}
    (held : e.stage.parcel? = some p) : p.Fits e.session e.message.sequence := by
  obtain ⟨id, m, identity, stage⟩ := e
  cases stage with
  | seeking | connecting | opening | posting =>
    cases held
    exact sound
  | choosing | reading | entering | answering | finished | crashed => cases held

theorem fits_enter (e : Errand) (server : ServerInfo) (s : Session) (body : Bytes) (w : World) :
    (r.enter server e.session e.message e.ctx s body w).2.Fits e.session e.message.sequence := by
  constructor
  · intro zero
    have quiet : e.ctx.expectsResponse = false := by
      simpa [CallContext.expectsResponse, ctx] using zero
    simp only [enter, quiet]
    exact ⟨rfl, rfl⟩
  · intro asks
    have expects : e.ctx.expectsResponse = true := by
      simpa [CallContext.expectsResponse, ctx] using asks
    simp only [enter, expects, if_true]
    exact ⟨_, rfl, rfl, rfl, rfl⟩

theorem sound_fresh (id : SessionId) (m : Message) (identity : Int64) :
    (fresh r id m identity).Sound r client := by
  unfold fresh
  cases r.declared.find? (·.protocol == m.protocol) <;> trivial

theorem sound_work {e : Errand} (sound : e.Sound r client) {w : World}
    (served : Gateway.Serves d r client w) (reason : Option String) :
    (e.work d r reason w).2.Sound r client := by
  obtain ⟨id, m, identity, stage⟩ := e
  cases stage with
  | choosing target =>
    have wide := fun panic => @wide_of_crash r w target ⟨identity, m.sequence⟩ panic
    simp only [work, ctx]
    cases choice : (w.selectPeer target (r.selector ⟨identity, m.sequence⟩) _).2 with
    | ok server => trivial
    | error fault =>
      cases fault with
      | cluster fault => trivial
      | overflow fault => exact wide _ (by rw [choice]; rfl)
  | reading server =>
    simp only [work]
    cases known : w.sessions.session? id with
    | none =>
      intro same
      obtain ⟨s, there, -⟩ := served.1
      rw [← same, known] at there
      cases there
    | some s =>
      simp only [Stage.behindLook]
      cases r.body s m <;> trivial
  | entering server s body => exact fits_enter r ⟨id, m, identity, _⟩ server s body w
  | seeking p =>
    simp only [work]
    cases w.peers.openLink? p.server.address <;> exact sound
  | connecting p => exact sound
  | opening p reason =>
    simp only [work]
    cases (w.openLink p.server.address reason).2 with
    | ok link => exact sound
    | error fault => trivial
  | posting p link =>
    simp only [work]
    cases (w.post r.settings p.server.address link p.request p.call).2 <;> trivial
  | answering outcome => trivial
  | finished | crashed => exact sound

theorem due_le_one (e : Errand) : e.due ≤ 1 := by
  unfold due
  split
  · exact Nat.zero_le 1
  · split <;> simp

theorem due_of_silent {e : Errand} (silent : e.message.sequence = 0) : e.due = 0 := by
  simp [due, silent]

theorem sequence_of_answer {e : Errand} {w : World} {m : Message}
    (told : e.answer? d w = some m) :
    m.sequence = e.message.sequence ∧ e.message.sequence ≠ 0 := by
  unfold answer? at told
  split at told
  · rename_i outcome stage
    simp only [Reply.offered?, Option.bind_eq_bind, Option.bind_eq_some_iff] at told
    obtain ⟨s, -, framed⟩ := told
    split at framed
    · rename_i asks
      simp only [Option.bind_eq_some_iff] at framed
      obtain ⟨reply, -, framed⟩ := framed
      refine ⟨?_, by simpa [CallContext.expectsResponse, ctx] using asks⟩
      cases found : d.serializers.find? s.serializeType with
      | none => simp [Reply.frame?, found] at framed
      | some z =>
        rw [Reply.frame?_eq reply found] at framed
        cases framed
        exact (reply.frameOf_header s _ z).2.2
    · cases framed
  · cases told

theorem answer_of_reply {e : Errand} {w : World} (served : w.sessions.Open d.serializers e.session)
    (asks : e.message.sequence ≠ 0) {outcome : ForwardOutcome} (stage : e.stage = .answering outcome)
    {reply : Reply} (told : outcome.reply e.message.protocol = some reply) :
    ∃ m, e.answer? d w = some m := by
  obtain ⟨s, known, -, registered⟩ := served
  obtain ⟨z, found⟩ := Option.isSome_iff_exists.mp registered
  have expects : e.ctx.expectsResponse = true := by
    simpa [CallContext.expectsResponse, ctx] using asks
  refine ⟨reply.frameOf s e.ctx.sequence z, ?_⟩
  simp only [answer?, stage, Reply.offered?, known, expects, told, Option.bind_eq_bind,
    Option.bind_some, if_true]
  exact reply.frame?_eq found _

/-- What the dispatcher still has to answer and what was handed on make up one. -/
theorem due_answering {e : Errand} {w : World} (served : w.sessions.Open d.serializers e.session)
    (asks : e.message.sequence ≠ 0) {outcome : ForwardOutcome} (stage : e.stage = .answering outcome)
    (kept : outcome ≠ .dropped) : e.due + (e.answer? d w).toList.length = 1 := by
  have answered : ∀ reply, outcome.reply e.message.protocol = some reply →
      (e.answer? d w).toList.length = 1 := by
    intro reply told
    obtain ⟨m, sent⟩ := answer_of_reply d served asks stage told
    rw [sent]
    rfl
  cases outcome with
  | forwarded server =>
    have quiet : e.answer? d w = none := by
      simp [answer?, stage, Reply.offered?, ForwardOutcome.reply]
    simp [due, asks, stage, quiet]
  | dropped => exact absurd rfl kept
  | unsupported =>
    rw [answered _ rfl]
    simp [due, asks, stage]
  | failed fault =>
    rw [answered _ rfl]
    simp [due, asks, stage]

/-- A request is handed on if the link takes it. -/
theorem due_posting {e : Errand} {p : Parcel} {link : LinkId} (stage : e.stage = .posting p link)
    (asked : e.message.sequence ≠ 0) (w : World) (reason : Option String) :
    (e.work d r reason w).2.due = if w.board.accepts link then 1 else 0 := by
  have result : (w.post r.settings p.server.address link p.request p.call).2 =
      if w.board.accepts link then .ok () else .error (Board.linkFault p.server.address) :=
    Board.enqueue_result r.settings.serializers w.board _ link _ _
  simp only [work, stage, result, due, asked, if_false]
  cases w.board.accepts link <;> rfl

/-- A step in which no call is entered changes what is due by the answer that it sends. -/
theorem due_work {e : Errand} (sound : e.Sound r client) {w : World}
    (served : w.sessions.Open d.serializers client) (own : e.session = client)
    (entered : e.entered? = none) (reason : Option String) :
    (e.work d r reason w).2.due = e.due + (e.answer? d w).toList.length := by
  by_cases silent : e.message.sequence = 0
  · have quiet : e.answer? d w = none := by
      cases told : e.answer? d w with
      | none => rfl
      | some m => exact absurd silent (sequence_of_answer d told).2
    rw [due_of_silent silent, due_of_silent ((message_work d r e reason w).symm ▸ silent), quiet]
    rfl
  · obtain ⟨id, m, identity, stage⟩ := e
    cases stage with
    | choosing target =>
      simp only [work, due, answer?]
      cases (w.selectPeer target (r.selector _) _).2 with
      | ok server => rfl
      | error fault => cases fault <;> rfl
    | reading server =>
      simp only [work, due, answer?]
      cases w.sessions.session? id with
      | none => rfl
      | some s =>
        simp only [Stage.behindLook]
        cases r.body s m <;> rfl
    | seeking p =>
      simp only [work, due, answer?]
      cases w.peers.openLink? p.server.address <;> rfl
    | opening p reason =>
      simp only [work, due, answer?]
      cases (w.openLink p.server.address reason).2 <;> rfl
    | posting p link =>
      obtain ⟨i, call, -⟩ := Parcel.Fits.asking sound silent
      simp [entered?, call] at entered
    | answering outcome =>
      have kept : outcome ≠ .dropped := by
        intro same
        rw [same] at sound
        exact sound own
      rw [due_answering d (own ▸ served) silent rfl kept]
      simp [work, due, silent]
    | entering | connecting | finished | crashed => rfl

end Errand

namespace Gateway

variable {d : Dispatcher} {r : Relay} {client : SessionId} {g : Gateway}

theorem framesFor_append (k : Nat) (front back : List (Nat × Message)) :
    framesFor k (front ++ back) = framesFor k front ++ framesFor k back := by
  simp [framesFor]

theorem framesFor_own (k : Nat) (new : List Message) : framesFor k (new.map (k, ·)) = new := by
  simp [framesFor, List.filter_map, Function.comp_def]

theorem framesFor_other {j k : Nat} (differs : j ≠ k) (new : List Message) :
    framesFor j (new.map (k, ·)) = [] := by
  have apart : (k == j) = false := by simpa using differs.symm
  simp [framesFor, List.filter_map, Function.comp_def, apart]

theorem credit_cons (g : Gateway) (x : Ended) (rest : List Ended) :
    g.credit (x :: rest) = g.credit [x] ++ g.credit rest := by
  rw [credit, credit, credit, ← List.filterMap_append]
  rfl

theorem mem_credit {ended : List Ended} {k : Nat} {m : Message} (held : (k, m) ∈ g.credit ended) :
    ∃ x ∈ ended, g.behind x.call.sequence = some k ∧ x.ending.frame? = some m := by
  obtain ⟨x, inside, told⟩ := List.mem_filterMap.mp held
  refine ⟨x, inside, ?_⟩
  cases behind : g.behind x.call.sequence <;> cases frame : x.ending.frame? <;>
    simp [behind, frame] at told
  simp [told]

theorem length_callsOf (g : Gateway) (k : Nat) :
    (g.callsOf k).length = g.world.board.desk.calls.pending.countP (g.owns k) :=
  List.countP_eq_length_filter.symm

theorem isForward_of_completion {i : Invocation} {id : SessionId}
    (relayed : i.completion = .forward id) : i.isForward = true := by
  simp [Invocation.isForward, relayed]

theorem length_credit_one {x : Ended} {k : Nat} (suits : x.ending.Suits x.call)
    (heard : g.owns k x.call = true → ∃ m, x.ending.frame? = some m) :
    (framesFor k (g.credit [x])).length = if g.owns k x.call = true then 1 else 0 := by
  by_cases owned : g.owns k x.call = true
  · obtain ⟨m, frame⟩ := heard owned
    have behind : g.behind x.call.sequence = some k := by
      simpa using (Bool.and_eq_true_iff.mp owned).2
    simp [owned, credit, behind, frame, framesFor]
  · rw [if_neg owned]
    cases frame : x.ending.frame? with
    | none => simp [credit, frame, framesFor]
    | some m =>
      have forward : x.call.isForward = true := by
        cases sent : x.ending with
        | filled | silent => simp [sent, Ending.frame?] at frame
        | sent id other =>
          rw [sent] at suits
          exact isForward_of_completion suits.1
      cases behind : g.behind x.call.sequence with
      | none => simp [credit, behind, framesFor]
      | some j =>
        have differs : j ≠ k := by
          intro same
          exact owned (by simp [owns, forward, behind, same])
        simp [credit, behind, frame, framesFor, differs]

/-- Of the calls that end, those of a request are told to it one by one. -/
theorem length_credit {ended : List Ended} {k : Nat}
    (suits : ∀ x ∈ ended, x.ending.Suits x.call)
    (heard : ∀ x ∈ ended, g.owns k x.call = true → ∃ m, x.ending.frame? = some m) :
    (framesFor k (g.credit ended)).length = (ended.map (·.call)).countP (g.owns k) := by
  induction ended with
  | nil => rfl
  | cons x rest ih =>
    have head := length_credit_one (suits x List.mem_cons_self) (heard x List.mem_cons_self)
    have tail := ih (fun y held => suits y (List.mem_cons_of_mem x held))
      (fun y held => heard y (List.mem_cons_of_mem x held))
    rw [credit_cons, framesFor_append, List.length_append, head, tail, List.map_cons, List.countP_cons]
    omega

/-- What is true of a gateway at every moment, for a client that is served. -/
structure Sound (d : Dispatcher) (r : Relay) (client : SessionId) (g : Gateway) : Prop where
  served : Serves d r client g.world
  unique : g.world.calls.Unique
  errand : ∀ (k : Nat) (e : Errand), g.errands[k]? = some e → e.Sound r client
  out : ∀ i ∈ g.world.calls.pending, i.isForward = true → ∀ k, g.behind i.sequence = some k →
    ∃ e, g.errands[k]? = some e ∧ i.completion = .forward e.session ∧
      i.parent = e.message.sequence ∧ e.message.sequence ≠ 0
  mine : ∀ i ∈ g.world.calls.pending, i.completion = .forward client →
    ∃ k, g.behind i.sequence = some k
  told : ∀ k m, (k, m) ∈ g.told → ∃ e, g.errands[k]? = some e ∧
    m.sequence = e.message.sequence ∧ e.message.sequence ≠ 0
  balance : ∀ k e, g.errands[k]? = some e → e.session = client →
    (g.callsOf k).length + (g.framesOf k).length = e.due

/-- The gateway behind events that only end calls. -/
def settle (r : Relay) (g : Gateway) (events : List CallEvent) (w : World) : Gateway :=
  { g with world := w, told := g.told ++ g.credit (g.ends r events) }

namespace Sound

theorem settle (sound : g.Sound d r client) {events : List CallEvent}
    (heard : ∀ event ∈ events, event.isHeard = true) {w : World}
    (desk : w.board.desk = g.world.board.desk.steps r.settings.serializers events) :
    (g.settle r events w).Sound d r client := by
  have moves : Desk.Moves g.world.board.desk [] (g.ends r events) w.board.desk :=
    desk ▸ Desk.steps_moves r.settings.serializers sound.unique heard
  have told : ∀ x ∈ g.ends r events, x.Heard client :=
    Desk.endsAll_heard r.settings.serializers sound.unique sound.served.2 heard
  constructor
  · exact ⟨moves.open sound.served.1, moves.open sound.served.2⟩
  · exact moves.unique
  · exact sound.errand
  · intro i out
    exact sound.out i (moves.mem_of_pending out)
  · intro i out
    exact sound.mine i (moves.mem_of_pending out)
  · intro k m held
    rcases List.mem_append.mp held with before | new
    · exact sound.told k m before
    · obtain ⟨x, inside, behind, frame⟩ := mem_credit new
      have suits := moves.suits x inside
      cases sent : x.ending with
      | filled | silent => simp [sent, Ending.frame?] at frame
      | sent id other =>
        rw [sent] at suits frame
        obtain ⟨relayed, own⟩ := suits
        obtain ⟨e, entry, -, parent, asked⟩ := sound.out x.call (moves.mem_of_ended inside)
          (isForward_of_completion relayed) k behind
        cases frame
        exact ⟨e, entry, own.trans parent, asked⟩
  · intro k e entry own
    have before := sound.balance k e entry own
    have credited : (framesFor k (g.credit (g.ends r events))).length =
        ((g.ends r events).map (·.call)).countP (g.owns k) := by
      refine length_credit moves.suits ?_
      intro x inside owned
      obtain ⟨forward, behind⟩ := Bool.and_eq_true_iff.mp owned
      obtain ⟨other, same, relayed, parent, asked⟩ := sound.out x.call (moves.mem_of_ended inside)
        forward k (by simpa using behind)
      cases entry.symm.trans same
      rw [own] at relayed
      obtain ⟨m, sent⟩ := told x inside relayed (parent ▸ asked)
      exact ⟨m, by rw [sent]; rfl⟩
    have counted := moves.calls.countP_eq (g.owns k)
    simp only [List.countP_append, List.append_nil] at counted
    have both : (framesFor k (g.told ++ g.credit (g.ends r events))).length =
        (g.framesOf k).length + ((g.ends r events).map (·.call)).countP (g.owns k) := by
      rw [framesFor_append, List.length_append, credited, framesOf]
    rw [length_callsOf] at before ⊢
    change w.board.desk.calls.pending.countP (g.owns k) + (framesFor k (g.told ++ _)).length = _
    omega

end Sound

end Gateway

end Relay
end Dispatch
end ClusterWire
