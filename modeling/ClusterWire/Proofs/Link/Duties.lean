import ClusterWire.Proofs.Invocation.Series

/-! What a link owes an answer: the requests in its queue and those in flight. A link lets go
of a number only once nothing is out under it, and at its end it fails all that is left. -/
namespace ClusterWire

namespace Desk

variable (serializers : Serializers)

/-- To fail numbers one after another ends the calls that are out under one of them, each
once, and leaves all others alone. -/
theorem fail_each {d : Desk} (unique : d.calls.Unique) (fault : RpcFault) (owed : List Int64) :
    (d.steps serializers (owed.map (.fail · fault))).calls.pending =
      d.calls.pending.filter (fun i => !owed.contains i.sequence) ∧
    (d.endsAll serializers (owed.map (.fail · fault))).Perm
      ((d.calls.pending.filter fun i => owed.contains i.sequence).map fun i =>
        ⟨i, i.failed serializers d.sessions fault⟩) := by
  induction owed generalizing d with
  | nil => exact ⟨(List.filter_eq_self.mpr fun _ _ => rfl).symm, by simp [endsAll]⟩
  | cons n rest ih =>
    have moves := fail_moves serializers unique n fault
    have erased : (d.fail serializers n fault).1.calls.pending =
        d.calls.pending.filter (·.sequence != n) := d.finish_pending n _
    obtain ⟨left, ends⟩ := ih moves.unique
    constructor
    · change ((d.fail serializers n fault).1.steps serializers _).calls.pending = _
      rw [left, erased, List.filter_filter]
      refine List.filter_congr fun i _ => ?_
      cases same : i.sequence == n <;> simp_all [bne]
    · have first : (d.calls.find? n).toList.filter (fun i => (n :: rest).contains i.sequence) =
          (d.calls.find? n).toList := by
        rw [List.filter_eq_self]
        intro i found
        simp [Invocations.sequence_of_find? (Option.mem_toList.mp found)]
      have later : (d.calls.erase n).pending.filter (fun i => (n :: rest).contains i.sequence) =
          (d.calls.erase n).pending.filter fun i => rest.contains i.sequence := by
        refine List.filter_congr fun i out => ?_
        have other : i.sequence ≠ n := by simpa using (List.mem_filter.mp out).2
        simp [other]
      have split := (Invocations.erase_perm unique n).filter
        fun i => (n :: rest).contains i.sequence
      rw [List.filter_append, first, later] at split
      refine List.Perm.trans ?_ ((List.perm_append_comm.trans split).map _)
      rw [List.map_append]
      refine List.Perm.append (.refl _) ?_
      have same : ∀ i : Invocation,
          i.failed serializers (d.fail serializers n fault).1.sessions fault =
            i.failed serializers d.sessions fault :=
        fun i => d.failed_fail serializers i n fault fault
      simp only [erased, same] at ends
      exact ends

end Desk

namespace Link

/-- A request under the number is in the queue or in flight. -/
def Carries (l : Link) (n : Int64) : Prop := n ∈ l.queue.filterMap tracked? ∨ n ∈ l.inFlight

/-- A link that has stopped holds nothing. -/
def Settled (l : Link) : Prop := l.phase = .stopped → l.queue = [] ∧ l.inFlight = []

theorem track_frame (l : Link) (m : Message) :
    (l.track m).queue = l.queue ∧ (l.track m).phase = l.phase ∧
      (l.track m).address = l.address := by
  unfold track
  split
  · split <;> exact ⟨rfl, rfl, rfl⟩
  · exact ⟨rfl, rfl, rfl⟩

theorem mem_track {l : Link} {m : Message} {n : Int64} :
    n ∈ (l.track m).inFlight ↔ tracked? m = some n ∨ n ∈ l.inFlight := by
  unfold track
  cases tracked? m with
  | none => simp
  | some own =>
    by_cases held : own ∈ l.inFlight
    · simp only [held, if_true, Option.some.injEq]
      exact ⟨.inr, fun either => either.elim (fun same => same ▸ held) id⟩
    · simp only [held, if_false, List.mem_append, List.mem_singleton, Option.some.injEq]
      exact ⟨fun either => either.elim .inr fun same => .inl same.symm,
        fun either => either.elim (fun same => .inr same.symm) .inl⟩

/-- What a link fails at its end is all that it carries. -/
theorem mem_owed {l : Link} {ms : List Message} {n : Int64} :
    n ∈ (ms.foldl track l).inFlight ↔ n ∈ ms.filterMap tracked? ∨ n ∈ l.inFlight := by
  induction ms generalizing l with
  | nil => simp
  | cons m rest ih =>
    rw [List.foldl_cons, ih, mem_track, List.filterMap_cons]
    cases tracked? m with
    | none => simp
    | some own =>
      simp only [Option.some.injEq, List.mem_cons]
      grind

theorem carries_queue {l : Link} {m : Message} {n : Int64} :
    ({ l with queue := l.queue ++ [m] } : Link).Carries n ↔ l.Carries n ∨ tracked? m = some n := by
  simp only [Carries, List.filterMap_append, List.mem_append, List.mem_filterMap,
    List.mem_singleton, exists_eq_left]
  grind

/-- A link takes up nothing by itself, and lets go of a number only once nothing is out
under it. -/
structure Goes (calls : Invocations) (l l' : Link) : Prop where
  address : l'.address = l.address
  kept : ∀ n, l'.Carries n → l.Carries n
  freed : ∀ n, l.Carries n → l'.Carries n ∨ calls.find? n = none
  settled : l.Settled → l'.Settled

namespace Goes

variable {calls : Invocations} {l l' : Link}

theorem refl (calls : Invocations) (l : Link) : l.Goes calls l :=
  ⟨rfl, fun _ => id, fun _ => .inl, id⟩

/-- What is written and how far the link has come is not what it carries. -/
theorem of_same (address : l'.address = l.address) (queue : l'.queue = l.queue)
    (inFlight : l'.inFlight = l.inFlight) (running : l'.phase ≠ .stopped) : l.Goes calls l' where
  address := address
  kept := fun n held => by simpa only [Carries, queue, inFlight] using held
  freed := fun n held => .inl (by simpa only [Carries, queue, inFlight] using held)
  settled := fun _ stopped => absurd stopped running

theorem wrote (goes : l.Goes calls l') (running : l'.phase = .running) (m : Message)
    (succeeds : Bool) : l.Goes calls (Board.wrote l' m succeeds) := by
  unfold Board.wrote
  cases succeeds with
  | true =>
    exact {
      address := goes.address
      kept := goes.kept
      freed := goes.freed
      settled := fun _ stopped => by cases running.symm.trans stopped }
  | false =>
    exact {
      address := goes.address
      kept := goes.kept
      freed := goes.freed
      settled := fun _ stopped => by cases stopped }

end Goes

end Link

namespace Board

open Link (Goes)

variable (serializers : Serializers) (z : Serializer) (b : Board) (id : LinkId) (l : Link)

theorem goes_write {m : Message} {rest : List Message} (queue : l.queue = m :: rest)
    (running : l.phase = .running) (succeeds : Bool) :
    l.Goes b.desk.calls (wrote ({ l with queue := rest }.track m) m succeeds) := by
  obtain ⟨waiting, phase, address⟩ := ({ l with queue := rest } : Link).track_frame m
  refine Goes.wrote ?_ (phase.trans running) m succeeds
  have carries : ∀ n, (({ l with queue := rest } : Link).track m).Carries n ↔ l.Carries n := by
    intro n
    rw [Link.Carries, waiting, Link.mem_track, Link.Carries, queue, List.filterMap_cons]
    cases Link.tracked? m with
    | none => simp
    | some own => simp [or_left_comm, or_assoc, eq_comm]
  exact {
    address := address
    kept := fun n held => (carries n).mp held
    freed := fun n held => .inl ((carries n).mpr held)
    settled := fun _ stopped => by cases (phase.trans running).symm.trans stopped }

theorem goes_heartbeat (running : l.phase = .running) (succeeds : Bool) :
    l.Goes b.desk.calls (wrote { l with inFlight := l.inFlight.filter b.desk.calls.contains }
      (.heartbeatRequest .internal) succeeds) := by
  have goes : l.Goes b.desk.calls
      { l with inFlight := l.inFlight.filter b.desk.calls.contains } := by
    constructor
    · rfl
    · intro n held
      exact held.imp_right fun flying => (List.mem_filter.mp flying).1
    · intro n held
      rcases held with queued | flying
      · exact .inl (.inl queued)
      · cases out : b.desk.calls.contains n with
        | true => exact .inl (.inr (List.mem_filter.mpr ⟨flying, out⟩))
        | false => exact .inr (by simpa [Invocations.contains] using out)
    · exact fun _ stopped => by cases running.symm.trans stopped
  exact goes.wrote running _ succeeds

theorem goes_answered (running : l.phase = .running) {m : Message} {calls : Invocations}
    (ended : calls.find? m.sequence = none) :
    l.Goes calls { l with inFlight := l.inFlight.filter (· != m.sequence) } := by
  constructor
  · rfl
  · intro n held
    exact held.imp_right fun flying => (List.mem_filter.mp flying).1
  · intro n held
    rcases held with queued | flying
    · exact .inl (.inl queued)
    · by_cases same : n = m.sequence
      · exact .inr (same ▸ ended)
      · exact .inl (.inr (List.mem_filter.mpr ⟨flying, by simpa using same⟩))
  · exact fun _ stopped => by cases running.symm.trans stopped

theorem goes_stop {calls : Invocations}
    (ended : ∀ n ∈ (l.queue.foldl Link.track l).inFlight, calls.find? n = none) :
    l.Goes calls { l with phase := .stopped, queue := [], inFlight := [] } where
  address := rfl
  kept := fun n held => by simp [Link.Carries] at held
  freed := fun n held => .inr (ended n (Link.mem_owed.mpr held))
  settled := fun _ _ => ⟨rfl, rfl⟩

theorem goes_receive (running : l.phase = .running) (m : Message) (succeeds : Bool) : ∃ change,
    (b.receive serializers z id l m succeeds).peers.links =
      b.peers.links.modify id.index change ∧
    l.Goes (b.receive serializers z id l m succeeds).desk.calls (change l) := by
  have unchanged : ∀ calls, b.peers.links = b.peers.links.modify id.index (fun l => l) ∧
      l.Goes calls l := fun calls => ⟨(List.modify_id ..).symm, .refl calls l⟩
  unfold receive
  cases m.kind with
  | heartbeatRequest => exact ⟨_, rfl, (Goes.refl _ l).wrote running _ succeeds⟩
  | heartbeatResponse | request => exact ⟨_, unchanged _⟩
  | response =>
    by_cases push : m.sequence = 0
    · simp only [push, if_true]
      exact ⟨_, unchanged _⟩
    · simp only [push, if_false]
      exact ⟨_, rfl, goes_answered l running (Desk.find?_finish b.desk m.sequence _)⟩

theorem find?_failAll (fault : RpcFault) (owed : List Int64) (d : Desk) (unique : d.calls.Unique) :
    ∀ n ∈ owed, (failAll serializers fault owed d).calls.find? n = none := by
  intro n held
  rw [failAll_eq_steps, Invocations.find?, (Desk.fail_each serializers unique fault owed).1,
    List.find?_eq_none]
  intro i out
  have left := (List.mem_filter.mp out).2
  intro same
  rw [beq_iff_eq.mp same] at left
  simp [held] at left

/-- All that a step of a link's task does to links: its own goes on, the others stay. -/
theorem step_goes (unique : b.desk.calls.Unique) (known : b.peers.link? id = some l)
    (event : LinkEvent) : ∃ change,
    (b.step serializers z id event).peers.links = b.peers.links.modify id.index change ∧
    l.Goes (b.step serializers z id event).desk.calls (change l) := by
  have unchanged : ∃ change : Link → Link, b.peers.links = b.peers.links.modify id.index change ∧
      l.Goes b.desk.calls (change l) :=
    ⟨fun l => l, (List.modify_id ..).symm, .refl _ l⟩
  unfold step
  simp only [known]
  cases phase : l.phase with
  | stopped => cases event <;> exact unchanged
  | closing =>
    cases event with
    | stop => exact ⟨_, rfl, goes_stop l (find?_failAll serializers _ _ b.desk unique)⟩
    | write | receive | heartbeat | lost | released => exact unchanged
  | running =>
    cases event with
    | write succeeds =>
      cases queue : l.queue with
      | nil => exact unchanged
      | cons m rest => exact ⟨_, rfl, goes_write b l queue phase succeeds⟩
    | receive m succeeds => exact goes_receive serializers z b id l phase m succeeds
    | heartbeat succeeds => exact ⟨_, rfl, goes_heartbeat b l phase succeeds⟩
    | lost => exact ⟨_, rfl, .of_same rfl rfl rfl (by simp)⟩
    | released =>
      dsimp only
      split
      · exact ⟨_, rfl, .of_same rfl rfl rfl (by simp)⟩
      · exact unchanged
    | stop => exact unchanged

end Board

namespace Peers

theorem link?_of_modify {p q : Peers} {id : LinkId} {change : Link → Link}
    (links : q.links = p.links.modify id.index change) (other : LinkId) :
    q.link? other = if other = id then (p.link? id).map change else p.link? other := by
  unfold link?
  rw [links, List.getElem?_modify]
  obtain ⟨own⟩ := id
  obtain ⟨index⟩ := other
  by_cases same : index = own
  · simp [same]
  · simp [same, Ne.symm same]

/-- The links go on, and others are opened. -/
structure Goes (calls : Invocations) (p q : Peers) : Prop where
  onward : ∀ id l, p.link? id = some l → ∃ l', q.link? id = some l' ∧ l.Goes calls l'
  back : ∀ id l', q.link? id = some l' →
    (∃ l, p.link? id = some l ∧ l.Goes calls l') ∨ ∃ address, l' = { address }

variable {calls : Invocations} {p q : Peers}

theorem Goes.of_opened {opened : List Link} (fresh : ∀ l ∈ opened, ∃ address, l = { address })
    (links : q.links = p.links ++ opened) : p.Goes calls q where
  onward := fun id l known => by
    refine ⟨l, ?_, .refl calls l⟩
    have inside := (List.getElem?_eq_some_iff.mp known).1
    rw [link?, links, List.getElem?_append_left inside]
    exact known
  back := fun id l' known => by
    rw [link?, links, List.getElem?_append] at known
    split at known
    · exact .inl ⟨l', known, .refl calls l'⟩
    · exact .inr (fresh l' (List.mem_of_getElem? known))

theorem Goes.of_same (links : q.links = p.links) : p.Goes calls q := by
  have none : ∀ l ∈ ([] : List Link), ∃ address, l = { address } := by simp
  exact .of_opened none (by simp [links])

theorem Goes.of_modify {id : LinkId} {change : Link → Link}
    (links : q.links = p.links.modify id.index change)
    (goes : ∀ l, p.link? id = some l → l.Goes calls (change l)) : p.Goes calls q where
  onward := fun other l known => by
    rw [link?_of_modify links]
    split
    · rename_i same
      subst same
      exact ⟨change l, by rw [known]; rfl, goes l known⟩
    · exact ⟨l, known, .refl calls l⟩
  back := fun other l' known => by
    rw [link?_of_modify links] at known
    split at known
    · rename_i same
      subst same
      obtain ⟨l, here, same⟩ := Option.map_eq_some_iff.mp known
      exact .inl ⟨l, here, same ▸ goes l here⟩
    · exact .inl ⟨l', known, .refl calls l'⟩

end Peers

namespace Board

/-- A link that takes a message has it at the end of its queue. -/
theorem link?_enqueue (serializers : Serializers) (b : Board) (address : SocketAddress) {id : LinkId}
    (m : Message) (call : Option Invocation) {l : Link} (there : b.peers.link? id = some l)
    (takes : l.phase ≠ .stopped) : (b.enqueue serializers address id m call).1.peers.link? id =
      some { l with queue := l.queue ++ [m] } := by
  rw [b.peers_enqueue, b.accepts_of_phase there takes, if_pos rfl, Peers.link?_of_modify rfl id,
    if_pos rfl, there]
  rfl

theorem goes_step (serializers : Serializers) (b : Board) (z : Serializer)
    (unique : b.desk.calls.Unique) (id : LinkId) (event : LinkEvent) :
    b.peers.Goes (b.step serializers z id event).desk.calls
      (b.step serializers z id event).peers := by
  cases known : b.peers.link? id with
  | none =>
    have same : b.step serializers z id event = b := by simp [step, known]
    rw [same]
    exact .of_same rfl
  | some l =>
    obtain ⟨change, links, goes⟩ := b.step_goes serializers z id l unique known event
    refine .of_modify links fun other there => ?_
    cases known.symm.trans there
    exact goes

end Board
end ClusterWire
