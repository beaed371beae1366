import ClusterWire.Proofs.Relay.Balance

/-! Every step of a gateway keeps the balance of every request of a client that is served. -/
namespace ClusterWire.Dispatch.Relay.Gateway

variable {d : Dispatcher} {r : Relay} {client : SessionId} {g g' : Gateway}

/-- What a step of a request does behind the ends of calls: it enters calls and sends
frames, all for the request itself. -/
structure Advance (d : Dispatcher) (r : Relay) (client : SessionId) (k : Nat) (e : Errand)
    (added : List Invocation) (new : List Message) (g g' : Gateway) : Prop where
  entry : g.errands[k]? = some e
  next : ∃ next : Errand, g'.errands = g.errands.set k next ∧ next.session = e.session ∧
    next.message = e.message ∧ next.Sound r client ∧
    (e.session = client → next.due = e.due + added.length + new.length)
  pending : g'.world.calls.pending = g.world.calls.pending ++ added
  unique : g'.world.calls.Unique
  sessions : g'.world.sessions = new.foldl (fun t m => (t.send e.session m).1) g.world.sessions
  kept : ∀ i ∈ g.world.calls.pending, g'.behind i.sequence = g.behind i.sequence
  entered : ∀ i ∈ added, g'.behind i.sequence = some k ∧ i.completion = .forward e.session ∧
    i.parent = e.message.sequence ∧ e.message.sequence ≠ 0
  answered : ∀ m ∈ new, m.sequence = e.message.sequence ∧ e.message.sequence ≠ 0
  told : g'.told = g.told ++ new.map (k, ·)

namespace Advance

variable {k : Nat} {e : Errand} {added : List Invocation} {new : List Message}

theorem lookup (advance : Advance d r client k e added new g g') {j : Nat} {other : Errand}
    (entry : g.errands[j]? = some other) : ∃ same : Errand, g'.errands[j]? = some same ∧
      same.session = other.session ∧ same.message = other.message := by
  obtain ⟨next, errands, session, message, -⟩ := advance.next
  rw [errands]
  by_cases own : j = k
  · subst own
    cases advance.entry.symm.trans entry
    refine ⟨next, ?_, session, message⟩
    exact List.getElem?_set_self (List.getElem?_eq_some_iff.mp entry).1
  · exact ⟨other, by rw [List.getElem?_set_ne (Ne.symm own), entry], rfl, rfl⟩

theorem lookup_back (advance : Advance d r client k e added new g g') {j : Nat} {other : Errand}
    (entry : g'.errands[j]? = some other) : (j = k ∧ other.session = e.session ∧
      other.message = e.message ∧ other.Sound r client ∧
      (e.session = client → other.due = e.due + added.length + new.length)) ∨
    j ≠ k ∧ g.errands[j]? = some other := by
  obtain ⟨next, errands, session, message, sound, due⟩ := advance.next
  rw [errands] at entry
  by_cases own : j = k
  · subst own
    rw [List.getElem?_set_self (List.getElem?_eq_some_iff.mp advance.entry).1] at entry
    cases entry
    exact .inl ⟨rfl, session, message, sound, due⟩
  · rw [List.getElem?_set_ne (Ne.symm own)] at entry
    exact .inr ⟨own, entry⟩

theorem served (advance : Advance d r client k e added new g g')
    (served : Serves d r client g.world) : Serves d r client g'.world := by
  have kept : ∀ (new : List Message) (t : Sessions) (serializers : Serializers),
      t.Open serializers client →
        (new.foldl (fun t m => (t.send e.session m).1) t).Open serializers client := by
    intro new
    induction new with
    | nil => exact fun _ _ opened => opened
    | cons m rest ih => exact fun t _ opened => ih _ _ (Sessions.open_send opened e.session m)
  unfold Serves
  rw [advance.sessions]
  exact ⟨kept new _ _ served.1, kept new _ _ served.2⟩

theorem owns_before (advance : Advance d r client k e added new g g') (j : Nat) :
    g.world.calls.pending.countP (g'.owns j) = g.world.calls.pending.countP (g.owns j) := by
  refine List.countP_congr ?_
  intro i out
  rw [owns, owns, advance.kept i out]

theorem owns_added (advance : Advance d r client k e added new g g') (j : Nat) :
    added.countP (g'.owns j) = if j = k then added.length else 0 := by
  by_cases own : j = k
  · rw [if_pos own, List.countP_eq_length]
    intro i held
    obtain ⟨behind, relayed, -⟩ := advance.entered i held
    simp [owns, behind, own, isForward_of_completion relayed]
  · rw [if_neg own, List.countP_eq_zero]
    intro i held owned
    have behind := (Bool.and_eq_true_iff.mp owned).2
    rw [(advance.entered i held).1] at behind
    exact own (by simpa using (beq_iff_eq.mp behind).symm)

theorem length_callsOf (advance : Advance d r client k e added new g g') (j : Nat) :
    (g'.callsOf j).length = (g.callsOf j).length + if j = k then added.length else 0 := by
  have split : g'.world.board.desk.calls.pending = g.world.board.desk.calls.pending ++ added :=
    advance.pending
  have before : g.world.board.desk.calls.pending.countP (g'.owns j) = _ := advance.owns_before j
  rw [Gateway.length_callsOf, Gateway.length_callsOf, ← advance.owns_added j, split,
    List.countP_append, before]
  rfl

theorem length_framesOf (advance : Advance d r client k e added new g g') (j : Nat) :
    (g'.framesOf j).length = (g.framesOf j).length + if j = k then new.length else 0 := by
  rw [framesOf, advance.told, framesFor_append, List.length_append, ← framesOf]
  by_cases own : j = k
  · rw [own, framesFor_own, if_pos rfl]
  · rw [framesFor_other own, if_neg own]
    rfl

theorem sound (advance : Advance d r client k e added new g g') (sound : g.Sound d r client) :
    g'.Sound d r client := by
  constructor
  · exact advance.served sound.served
  · exact advance.unique
  · intro j other entry
    rcases advance.lookup_back entry with ⟨-, -, -, came, -⟩ | ⟨-, before⟩
    · exact came
    · exact sound.errand j other before
  · intro i out forward j behind
    rw [advance.pending] at out
    rcases List.mem_append.mp out with before | entered
    · rw [advance.kept i before] at behind
      obtain ⟨other, entry, relayed, parent, asked⟩ := sound.out i before forward j behind
      obtain ⟨same, entry, session, message⟩ := advance.lookup entry
      exact ⟨same, entry, session ▸ relayed, message ▸ parent, message ▸ asked⟩
    · obtain ⟨own, relayed, parent, asked⟩ := advance.entered i entered
      cases own.symm.trans behind
      obtain ⟨same, entry, session, message⟩ := advance.lookup advance.entry
      exact ⟨same, entry, session ▸ relayed, message ▸ parent, message ▸ asked⟩
  · intro i out relayed
    rw [advance.pending] at out
    rcases List.mem_append.mp out with before | entered
    · rw [advance.kept i before]
      exact sound.mine i before relayed
    · exact ⟨k, (advance.entered i entered).1⟩
  · intro j m held
    rw [advance.told] at held
    rcases List.mem_append.mp held with before | new
    · obtain ⟨other, entry, own, asked⟩ := sound.told j m before
      obtain ⟨same, entry, -, message⟩ := advance.lookup entry
      exact ⟨same, entry, message ▸ own, message ▸ asked⟩
    · obtain ⟨m, inside, same⟩ := List.mem_map.mp new
      cases same
      obtain ⟨other, entry, -, message⟩ := advance.lookup advance.entry
      obtain ⟨own, asked⟩ := advance.answered m inside
      exact ⟨other, entry, message ▸ own, message ▸ asked⟩
  · intro j other entry own
    rw [advance.length_callsOf j, advance.length_framesOf j]
    rcases advance.lookup_back entry with ⟨here, session, -, -, due⟩ | ⟨there, before⟩
    · subst here
      have balance := sound.balance j e advance.entry (session ▸ own)
      have due := due (session ▸ own)
      simp only [if_true]
      omega
    · have balance := sound.balance j other before own
      simp only [if_neg there]
      omega

end Advance

/-- The gateway whose calls have changed by events, and nothing else. -/
def behindEvents (r : Relay) (g : Gateway) (events : List CallEvent) : Gateway :=
  g.settle r events
    (g.world.withDesk (g.world.board.desk.steps r.settings.serializers events))

theorem sound_behindEvents (sound : g.Sound d r client) {events : List CallEvent}
    (heard : ∀ event ∈ events, event.isHeard = true) : (g.behindEvents r events).Sound d r client :=
  sound.settle heard rfl

theorem heard_of_plain {e : Errand} (plain : e.entered? = none) (w : World) :
    ∀ event ∈ e.callEvents w, event.isHeard = true := by
  obtain ⟨id, m, identity, stage⟩ := e
  cases stage with
  | entering server s body =>
    intro event held
    simp only [Errand.callEvents] at held
    split at held
    · cases List.mem_singleton.mp held
      rfl
    · cases held
  | posting p link =>
    have none : p.call = none := by simpa [Errand.entered?] using plain
    intro event held
    simp only [Errand.callEvents, none] at held
    cases held
  | choosing | reading | seeking | connecting | opening | answering | finished | crashed =>
    intro event held
    cases held

theorem step_work {k : Nat} {e : Errand} (entry : g.errands[k]? = some e)
    (reason : Option String) : g.step d r (.work k reason) =
      { world := (e.work d r reason g.world).1
        errands := g.errands.set k (e.work d r reason g.world).2
        behind := fun n => if e.entered? = some n then some k else g.behind n
        told := g.told ++ g.credit (g.ends r (e.callEvents g.world)) ++
          (e.answer? d g.world).toList.map (k, ·) } := by
  simp only [step, entry]

/-- A step that enters no call. -/
theorem advance_plain (sound : g.Sound d r client) {k : Nat} {e : Errand}
    (entry : g.errands[k]? = some e) (plain : e.entered? = none) (reason : Option String) :
    Advance d r client k e [] (e.answer? d g.world).toList
      (g.behindEvents r (e.callEvents g.world)) (g.step d r (.work k reason)) := by
  have settled := sound_behindEvents sound (heard_of_plain plain g.world)
  have desk := e.desk_work d r reason g.world
  have calls : (e.work d r reason g.world).1.calls =
      (g.behindEvents r (e.callEvents g.world)).world.calls := by
    rw [World.calls, desk]
    cases e.answer? d g.world <;> rfl
  rw [step_work entry reason]
  constructor
  · exact entry
  · refine ⟨_, rfl, e.session_work d r reason _, e.message_work d r reason _, ?_, ?_⟩
    · exact Errand.sound_work d r (sound.errand k e entry) sound.served reason
    · intro own
      exact Errand.due_work d r (sound.errand k e entry) sound.served.1 own plain reason
  · rw [calls, List.append_nil]
  · exact calls ▸ settled.unique
  · rw [World.sessions, desk]
    cases e.answer? d g.world <;> rfl
  · intro i out
    simp only [plain, reduceCtorEq, if_false]
    rfl
  · intro i none
    cases none
  · intro m held
    exact Errand.sequence_of_answer d (Option.mem_toList.mp held)
  · rfl

theorem credit_silent (g : Gateway) (ended : List Ended) (i : Invocation) :
    g.credit (ended ++ [⟨i, .silent⟩]) = g.credit ended := by
  rw [credit, List.filterMap_append]
  cases behind : g.behind i.sequence <;> simp [credit, behind, Ending.frame?]

/-- A step that enters a call. A link that has stopped refuses the request, and the call is
taken back; in both cases the call that was out under its number is abandoned. -/
theorem advance_posting (sound : g.Sound d r client) {k : Nat} {e : Errand}
    (entry : g.errands[k]? = some e) {p : Parcel} {link : LinkId} (stage : e.stage = .posting p link)
    {i : Invocation} (call : p.call = some i) (reason : Option String) : ∃ fault added,
    Advance d r client k e added [] (g.behindEvents r [.fail i.sequence fault])
      (g.step d r (.work k reason)) := by
  obtain ⟨fault, steps, ends⟩ := g.world.board.steps_post r.settings.serializers link i
  have settled : (g.behindEvents r [.fail i.sequence fault]).Sound d r client :=
    sound_behindEvents sound (by simp [CallEvent.isHeard])
  have fresh := g.world.board.desk.sequence_ne_of_failed r.settings.serializers i.sequence fault
  have desk := e.desk_work d r reason g.world
  have quiet : e.answer? d g.world = none := by simp only [Errand.answer?, stage]
  have events : e.callEvents g.world = g.world.board.postEvents link (some i) := by
    simp only [Errand.callEvents, stage, call]
  have fits : p.Fits e.session e.message.sequence :=
    Errand.fits_of_parcel r (sound.errand k e entry) (by rw [stage]; rfl)
  have asked : e.message.sequence ≠ 0 := by
    intro zero
    cases call.symm.trans (fits.silent zero).2
  obtain ⟨same, own, -, relayed, parent⟩ := fits.asking asked
  cases call.symm.trans own
  rw [quiet, events, steps] at desk
  refine ⟨fault, if g.world.board.accepts link then [i] else [], ?_⟩
  rw [step_work entry reason]
  constructor
  · exact entry
  · refine ⟨_, rfl, e.session_work d r reason _, e.message_work d r reason _, ?_, fun _ => ?_⟩
    · exact Errand.sound_work d r (sound.errand k e entry) sound.served reason
    · have before : e.due = 0 := by simp [Errand.due, stage]
      rw [before, Errand.due_posting d r stage asked]
      cases g.world.board.accepts link <;> rfl
  · rw [World.calls, desk]
    cases g.world.board.accepts link
    · exact (List.append_nil _).symm
    · rfl
  · rw [World.calls, desk]
    cases g.world.board.accepts link
    · exact settled.unique
    · exact Desk.unique_entering settled.unique fresh
  · rw [World.sessions, desk]
    cases g.world.board.accepts link <;> rfl
  · intro j out
    have differs : i.sequence ≠ j.sequence := (fresh j out).symm
    simp only [Errand.entered?, stage, call, Option.map_some, Option.some.injEq, if_neg differs]
    rfl
  · intro j held
    have single : j = i := by
      split at held
      · exact List.mem_singleton.mp held
      · cases held
    subst single
    refine ⟨?_, relayed, parent, asked⟩
    simp [Errand.entered?, stage, call]
  · intro m none
    cases none
  · have credited : g.credit (g.ends r (e.callEvents g.world)) =
        g.credit (g.ends r [.fail i.sequence fault]) := by
      rw [events, Gateway.ends, ends]
      cases g.world.board.accepts link
      · exact credit_silent g _ i
      · exact congrArg g.credit (List.append_nil _)
    rw [credited, quiet]
    rfl

theorem posting_of_entered {e : Errand} {n : Int64} (entered : e.entered? = some n) :
    ∃ p link i, e.stage = .posting p link ∧ p.call = some i := by
  unfold Errand.entered? at entered
  split at entered
  · rename_i p link stage
    obtain ⟨i, call, -⟩ := Option.map_eq_some_iff.mp entered
    exact ⟨p, link, i, stage, call⟩
  · cases entered

/-- All that a step of a request can be: calls end, and behind that it enters calls and
sends frames of its own. -/
theorem exists_advance (sound : g.Sound d r client) {k : Nat} {e : Errand}
    (entry : g.errands[k]? = some e) (reason : Option String) : ∃ events added new,
    (∀ event ∈ events, CallEvent.isHeard event = true) ∧
    Advance d r client k e added new (g.behindEvents r events) (g.step d r (.work k reason)) := by
  cases entered : e.entered? with
  | none => exact ⟨_, _, _, heard_of_plain entered g.world, advance_plain sound entry entered reason⟩
  | some n =>
    obtain ⟨p, link, i, stage, call⟩ := posting_of_entered entered
    obtain ⟨fault, added, advance⟩ := advance_posting sound entry stage call reason
    exact ⟨_, added, [], by simp [CallEvent.isHeard], advance⟩

theorem sound_work (sound : g.Sound d r client) (k : Nat) (reason : Option String) :
    (g.step d r (.work k reason)).Sound d r client := by
  cases entry : g.errands[k]? with
  | none =>
    simp only [step, entry]
    exact sound
  | some e =>
    obtain ⟨events, added, new, heard, advance⟩ := exists_advance sound entry reason
    exact advance.sound (sound_behindEvents sound heard)

theorem sound_arrive (sound : g.Sound d r client) (id : SessionId) (m : Message)
    (identity : Int64) : (g.step d r (.arrive id m identity)).Sound d r client := by
  have still : ∀ {j : Nat} {e : Errand}, g.errands[j]? = some e →
      (g.errands ++ [.fresh r id m identity])[j]? = some e := by
    intro j e entry
    rw [List.getElem?_append_left (List.getElem?_eq_some_iff.mp entry).1, entry]
  have before : ∀ {j : Nat} {e : Errand}, (g.errands ++ [.fresh r id m identity])[j]? = some e →
      g.errands[j]? = some e ∨ g.errands[j]? = none ∧ e = .fresh r id m identity := by
    intro j e entry
    rcases Nat.lt_or_ge j g.errands.length with inside | outside
    · rw [List.getElem?_append_left inside] at entry
      exact .inl entry
    · rw [List.getElem?_append_right outside] at entry
      exact .inr ⟨List.getElem?_eq_none outside, (List.mem_singleton.mp (List.mem_of_getElem? entry))⟩
  constructor
  · exact sound.served
  · exact sound.unique
  · intro j e entry
    rcases before entry with old | ⟨-, rfl⟩
    · exact sound.errand j e old
    · exact Errand.sound_fresh r id m identity
  · intro i out forward k behind
    obtain ⟨e, entry, rest⟩ := sound.out i out forward k behind
    exact ⟨e, still entry, rest⟩
  · exact sound.mine
  · intro k m held
    obtain ⟨e, entry, rest⟩ := sound.told k m held
    exact ⟨e, still entry, rest⟩
  · intro k e entry own
    rcases before entry with old | ⟨unknown, rfl⟩
    · exact sound.balance k e old own
    · -- Nothing is known of a number that was not given yet.
      have calls : (g.callsOf k).length = 0 := by
        rw [length_callsOf, List.countP_eq_zero]
        intro i out owned
        obtain ⟨forward, behind⟩ := Bool.and_eq_true_iff.mp owned
        obtain ⟨e, entry, -⟩ := sound.out i out forward k (beq_iff_eq.mp behind)
        rw [unknown] at entry
        cases entry
      have frames : (g.framesOf k).length = 0 := by
        rw [framesOf, framesFor, List.length_map, List.length_eq_zero_iff, List.filter_eq_nil_iff]
        intro x held same
        obtain ⟨e, entry, -⟩ := sound.told x.1 x.2 held
        rw [beq_iff_eq.mp same, unknown] at entry
        cases entry
      have due : (Errand.fresh r id m identity).due = 0 := by
        unfold Errand.fresh Errand.due
        cases r.declared.find? (·.protocol == m.protocol) <;> simp
      rw [due]
      exact Nat.add_eq_zero_iff.mpr ⟨calls, frames⟩

theorem sound_elsewhere (sound : g.Sound d r client) {w : World}
    (admits : g.Admits d r client (.elsewhere w)) :
    (g.step d r (.elsewhere w)).Sound d r client := by
  obtain ⟨served, unique, kept⟩ := admits
  have relayed : ∀ i ∈ w.calls.pending, i.isForward = true → i ∈ g.world.calls.pending := by
    intro i out forward
    have both : i ∈ g.world.calls.pending.filter (·.isForward) :=
      kept ▸ List.mem_filter.mpr ⟨out, forward⟩
    exact (List.mem_filter.mp both).1
  constructor
  · exact served
  · exact unique
  · exact sound.errand
  · intro i out forward
    exact sound.out i (relayed i out forward) forward
  · intro i out own
    exact sound.mine i (relayed i out (isForward_of_completion own)) own
  · exact sound.told
  · intro k e entry own
    have same : ({ g with world := w } : Gateway).callsOf k = g.callsOf k := by
      have split : ∀ pending : List Invocation, pending.filter (g.owns k) =
          (pending.filter (·.isForward)).filter fun i => g.behind i.sequence == some k := by
        intro pending
        rw [List.filter_filter]
        refine List.filter_congr fun i _ => ?_
        exact Bool.and_comm _ _
      rw [callsOf, callsOf, split g.world.calls.pending, ← kept, ← split]
      rfl
    rw [← sound.balance k e entry own, ← same]
    rfl

theorem sound_step (sound : g.Sound d r client) (move : Move) (admits : g.Admits d r client move) :
    (g.step d r move).Sound d r client := by
  cases move with
  | arrive id m identity => exact sound_arrive sound id m identity
  | work k reason => exact sound_work sound k reason
  | link id event =>
    exact sound.settle (Board.heard_callEvents r.settings.link g.world.board id event)
      (Board.desk_step r.settings.serializers r.settings.link g.world.board id event)
  | reap now => exact sound.settle (by simp [CallEvent.isHeard]) rfl
  | close address => exact { sound with }
  | elsewhere w => exact sound_elsewhere sound admits

theorem sound_of_run (run : Run d r client g) : g.Sound d r client := by
  induction run with
  | start served unique none =>
    constructor
    · exact served
    · exact unique
    · intro k e entry
      cases entry
    · intro i out forward k behind
      cases behind
    · intro i out own
      exact absurd own (none i out)
    · intro k m held
      cases held
    · intro k e entry
      cases entry
  | step move _ admits ih => exact sound_step ih move admits

/-! What the client is sent is what is recorded. -/

theorem framesTo_append (g : Gateway) (id : SessionId) (front back : List (Nat × Message)) :
    g.framesTo id (front ++ back) = g.framesTo id front ++ g.framesTo id back := by
  simp [framesTo]

theorem framesTo_own {k : Nat} {e : Errand} (entry : g.errands[k]? = some e) (id : SessionId)
    (new : List Message) :
    g.framesTo id (new.map (k, ·)) = if e.session = id then new else [] := by
  by_cases own : e.session = id
  · simp [framesTo, List.filter_map, Function.comp_def, isOf, entry, own]
  · simp [framesTo, List.filter_map, Function.comp_def, isOf, entry, own]

theorem framesTo_credit_one (sound : g.Sound d r client) {x : Ended}
    (suits : x.ending.Suits x.call) (out : x.call ∈ g.world.calls.pending) :
    g.framesTo client (g.credit [x]) = (x.ending.frameFor? client).toList := by
  cases sent : x.ending with
  | filled slot result => simp [credit, framesTo, sent, Ending.frame?, Ending.frameFor?]
  | silent => simp [credit, framesTo, sent, Ending.frame?, Ending.frameFor?]
  | sent id m =>
    rw [sent] at suits
    have forward := isForward_of_completion suits.1
    cases behind : g.behind x.call.sequence with
    | none =>
      have other : id ≠ client := by
        intro same
        obtain ⟨k, known⟩ := sound.mine x.call out (same ▸ suits.1)
        rw [behind] at known
        cases known
      simp [credit, framesTo, behind, Ending.frameFor?, other]
    | some k =>
      obtain ⟨e, entry, relayed, -⟩ := sound.out x.call out forward k behind
      have own : e.session = id := by
        rw [suits.1] at relayed
        exact (Completion.forward.inj relayed).symm
      have credited : g.credit [x] = [m].map (k, ·) := by
        simp [credit, behind, sent, Ending.frame?]
      rw [credited, framesTo_own entry, own, Ending.frameFor?]
      split <;> rfl

theorem framesTo_credit (sound : g.Sound d r client) {ended : List Ended}
    (suits : ∀ x ∈ ended, x.ending.Suits x.call)
    (out : ∀ x ∈ ended, x.call ∈ g.world.calls.pending) :
    g.framesTo client (g.credit ended) = ended.filterMap (·.ending.frameFor? client) := by
  induction ended with
  | nil => rfl
  | cons x rest ih =>
    have head := framesTo_credit_one sound (suits x List.mem_cons_self) (out x List.mem_cons_self)
    have tail := ih (fun y held => suits y (List.mem_cons_of_mem x held))
      (fun y held => out y (List.mem_cons_of_mem x held))
    rw [credit_cons, framesTo_append, head, tail]
    cases told : x.ending.frameFor? client <;> simp [told]

/-- The events of calls send the client the frames that are recorded for it. -/
theorem queue_events (sound : g.Sound d r client) {events : List CallEvent}
    (heard : ∀ event ∈ events, event.isHeard = true) :
    (g.world.board.desk.steps r.settings.serializers events).sessions.queueOf client =
      g.world.sessions.queueOf client ++ g.framesTo client (g.credit (g.ends r events)) := by
  have moves : Desk.Moves g.world.board.desk [] (g.ends r events)
      (g.world.board.desk.steps r.settings.serializers events) :=
    Desk.steps_moves r.settings.serializers sound.unique heard
  have out : ∀ x ∈ g.ends r events, x.call ∈ g.world.calls.pending :=
    fun x held => moves.mem_of_ended held
  rw [framesTo_credit sound moves.suits out, moves.sessions]
  exact Ending.queueOf_tells sound.served.1 _

theorem queue_sends {serializers : Serializers} {t : Sessions} {id : SessionId}
    (opened : t.Open serializers id) (other : SessionId) (new : List Message) :
    (new.foldl (fun t m => (t.send other m).1) t).queueOf id =
      t.queueOf id ++ if other = id then new else [] := by
  induction new generalizing t with
  | nil => simp
  | cons m rest ih =>
    rw [List.foldl_cons, ih (Sessions.open_send opened other m), Sessions.queueOf_send opened]
    by_cases same : other = id <;> simp [same]

theorem Advance.queue {k : Nat} {e : Errand} {added : List Invocation} {new : List Message}
    (advance : Advance d r client k e added new g g') (served : Serves d r client g.world) :
    g'.world.sessions.queueOf client =
      g.world.sessions.queueOf client ++ g.framesTo client (new.map (k, ·)) := by
  rw [advance.sessions, queue_sends served.1, framesTo_own advance.entry]

/-- Everything that the client is sent, but for what happens elsewhere, is a frame that is
recorded for one of its requests. -/
theorem queue_step (sound : g.Sound d r client) (move : Move)
    (own : ∀ w, move ≠ .elsewhere w) : ∃ new, (g.step d r move).told = g.told ++ new ∧
      (g.step d r move).world.sessions.queueOf client =
        g.world.sessions.queueOf client ++ g.framesTo client new := by
  cases move with
  | arrive | close =>
    exact ⟨[], (List.append_nil _).symm, (List.append_nil _).symm⟩
  | elsewhere w => exact absurd rfl (own w)
  | link id event =>
    refine ⟨g.credit (g.ends r (g.world.board.callEvents r.settings.link id event)), rfl, ?_⟩
    rw [← queue_events sound (Board.heard_callEvents r.settings.link g.world.board id event),
      ← Board.desk_step]
    rfl
  | reap now =>
    refine ⟨g.credit (g.ends r [.evict now]), rfl, ?_⟩
    rw [← queue_events sound (by simp [CallEvent.isHeard])]
    rfl
  | work k reason =>
    cases entry : g.errands[k]? with
    | none =>
      simp only [step, entry]
      exact ⟨[], (List.append_nil _).symm, (List.append_nil _).symm⟩
    | some e =>
      obtain ⟨events, added, new, heard, advance⟩ := exists_advance sound entry reason
      have settled := sound_behindEvents sound heard
      refine ⟨g.credit (g.ends r events) ++ new.map (k, ·), ?_, ?_⟩
      · rw [advance.told, ← List.append_assoc]
        rfl
      · rw [advance.queue settled.served, framesTo_append, ← List.append_assoc,
          ← queue_events sound heard]
        rfl

/-- A gateway answers what it relays. A request that comes in is all that the dispatcher
does with requests that have no handler, and its steps are those of its activity. For every
request of a client that is served there is one call or one frame at most, at every moment,
and frames carry the client's own number; once the activity has ended and no call is out
there is exactly one frame. A request with number 0 goes out under 0, and no call and no
frame is there for it. The activity of a request crashes only where a server is read off the
client's identity in a layout that does not fit into 64 bits. Each call that is out for the
client is one of these calls, and each frame that the gateway queues for it is one of these
frames. -/
theorem relayed_once (relays : d.forward = r.forward) (run : Run d r client g) :
    (∀ id m identity, (Errand.fresh r id m identity).rest d r =
      d.routeUnbound id m ⟨identity, m.sequence⟩) ∧
    (∀ (e : Errand) reason w, (e.rest d r).tick reason w =
      ((e.work d r reason w).1, (e.work d r reason w).2.rest d r)) ∧
    (∀ k e, g.errands[k]? = some e → e.session = client →
      (g.callsOf k).length + (g.framesOf k).length ≤ 1 ∧
      (∀ m ∈ g.framesOf k, m.sequence = e.message.sequence) ∧
      (e.message.sequence ≠ 0 → e.rest d r = .finish none → g.callsOf k = [] →
        ∃ m, g.framesOf k = [m]) ∧
      (e.message.sequence = 0 → g.callsOf k = [] ∧ g.framesOf k = [] ∧
        ∀ p, e.stage.parcel? = some p → p.request.sequence = 0 ∧ p.call = none) ∧
      (∀ panic, e.rest d r = .crash panic → ∃ l, r.shards = some l ∧ l.Wide)) ∧
    (∀ i ∈ g.world.calls.pending, i.completion = .forward client →
      ∃ k e, g.errands[k]? = some e ∧ e.session = client ∧ i ∈ g.callsOf k) ∧
    (∀ move, (∀ w, move ≠ .elsewhere w) → ∃ new, (g.step d r move).told = g.told ++ new ∧
      (g.step d r move).world.sessions.queueOf client =
        g.world.sessions.queueOf client ++ g.framesTo client new) := by
  have sound := sound_of_run run
  refine ⟨Errand.rest_fresh d r relays, Errand.tick_rest d r, ?_, ?_, queue_step sound⟩
  · intro k e entry own
    have balance := sound.balance k e entry own
    refine ⟨?_, ?_, ?_, ?_, ?_⟩
    · rw [balance]
      exact e.due_le_one
    · intro m held
      obtain ⟨x, recorded, rfl⟩ := List.mem_map.mp held
      obtain ⟨inside, same⟩ := List.mem_filter.mp recorded
      obtain ⟨other, known, sequence, -⟩ := sound.told x.1 x.2 inside
      rw [beq_iff_eq.mp same] at known
      cases entry.symm.trans known
      exact sequence
    · intro asked done none
      have finished := Errand.finished_of_rest d r done
      have due : e.due = 1 := by simp [Errand.due, asked, finished]
      rw [none, due] at balance
      exact List.length_eq_one_iff.mp (by simpa using balance)
    · intro silent
      rw [Errand.due_of_silent silent] at balance
      obtain ⟨calls, frames⟩ := Nat.add_eq_zero_iff.mp balance
      refine ⟨List.length_eq_zero_iff.mp calls, List.length_eq_zero_iff.mp frames, ?_⟩
      intro p held
      exact (Errand.fits_of_parcel r (sound.errand k e entry) held).silent silent
    · intro panic crashed
      have stage := Errand.crashed_of_rest d r crashed
      have came := sound.errand k e entry
      rw [Errand.Sound, stage] at came
      exact came
  · intro i out relayed
    obtain ⟨k, behind⟩ := sound.mine i out relayed
    have forward := isForward_of_completion relayed
    obtain ⟨e, entry, own, -⟩ := sound.out i out forward k behind
    refine ⟨k, e, entry, ?_, ?_⟩
    · rw [relayed] at own
      exact (Completion.forward.inj own).symm
    · exact List.mem_filter.mpr ⟨out, by simp [owns, forward, behind]⟩

def after (d : Dispatcher) (r : Relay) (w : World) (moves : List Move) : Gateway :=
  moves.foldl (step d r) { world := w }

theorem run_moves (run : Run d r client g) {moves : List Move}
    (own : ∀ move ∈ moves, ∀ w, move ≠ .elsewhere w) :
    Run d r client (moves.foldl (step d r) g) := by
  induction moves generalizing g with
  | nil => exact run
  | cons move rest ih =>
    obtain ⟨here, later⟩ := List.forall_mem_cons.mp own
    have admits : g.Admits d r client move := by
      cases move with
      | elsewhere w => exact absurd rfl (here w)
      | arrive | work | link | reap | close => trivial
    exact ih (run.step move admits) later

/-! A gateway with one trade server, and one client. -/

def gateway (shards : Option Ident.Layout) : Relay where
  declared := [{ protocol := ⟨50, 1⟩, name := "trade.offer", target := "trade" }]
  settings :=
    { serializers := .standard, link := .json, connectTimeout := .ofSeconds 5
      callTimeout := .ofSeconds 5, heartbeatInterval := .ofSeconds 5
      frameLimit := Frame.defaultLimit }
  shards := shards

def gatekeeper (shards : Option Ident.Layout) : Dispatcher :=
  { registry := ⟨[], [], []⟩, serializers := .standard, forward := (gateway shards).forward }

def market : World :=
  { World.empty with clusters := ⟨[⟨"trade", [⟨5, "trade", .loopback 1, 0⟩]⟩]⟩ }.withSessions
    (Sessions.empty.create (.loopback 5000) .external 0).1

theorem market_run (shards : Option Ident.Layout) (moves : List Move)
    (own : ∀ move ∈ moves, ∀ w, move ≠ .elsewhere w) :
    Run (gatekeeper shards) (gateway shards) ⟨1⟩
      (after (gatekeeper shards) (gateway shards) market moves) := by
  have served : Serves (gatekeeper shards) (gateway shards) ⟨1⟩ market :=
    ⟨⟨_, rfl, rfl, rfl⟩, ⟨_, rfl, rfl, rfl⟩⟩
  have unique : market.calls.Unique := .nil
  refine run_moves (.start served unique ?_) own
  intro i out
  cases out

/-- An offer goes to the trade server, which answers it. -/
def offer : List Move :=
  .arrive ⟨1⟩ (.clientRequest 2 ⟨50, 1⟩ []) 0 :: List.replicate 8 (.work 0 none) ++
    [.link ⟨0⟩ (.write true), .link ⟨0⟩ (.receive (.response .internal 1 ⟨50, 1⟩ []) true)]

theorem relayed_once_offer : ∃ m,
    (after (gatekeeper none) (gateway none) market offer).framesOf 0 = [m] ∧ m.sequence = 2 := by
  have run := market_run none offer (by simp [offer])
  obtain ⟨-, -, requests, -⟩ := relayed_once rfl run
  obtain ⟨-, sequences, answered, -⟩ := requests 0 _ rfl rfl
  obtain ⟨m, frames⟩ := answered (by decide) rfl rfl
  exact ⟨m, frames, sequences m (frames ▸ List.mem_singleton_self m)⟩

/-- Tags of 64 bits for the workers. -/
def wide : Ident.Layout := ⟨64, 12, 0⟩

def identified : List Move := [.arrive ⟨1⟩ (.clientRequest 2 ⟨50, 1⟩ []) 5, .work 0 none]

/-- The request of a client with an identity is not answered, nor is anything out for it, if
the layout of identities is too wide. -/
theorem wide_layout_unanswered :
    Run (gatekeeper (some wide)) (gateway (some wide)) ⟨1⟩
      (after (gatekeeper (some wide)) (gateway (some wide)) market identified) ∧
    ∃ e panic,
      (after (gatekeeper (some wide)) (gateway (some wide)) market identified).errands = [e] ∧
      e.session = ⟨1⟩ ∧ e.message.sequence = 2 ∧
      e.rest (gatekeeper (some wide)) (gateway (some wide)) = .crash panic ∧
      (after (gatekeeper (some wide)) (gateway (some wide)) market identified).callsOf 0 = [] ∧
      (after (gatekeeper (some wide)) (gateway (some wide)) market identified).framesOf 0 = [] :=
  ⟨market_run (some wide) identified (by simp [identified]), _, _, rfl, rfl, rfl, rfl, rfl, rfl⟩

end ClusterWire.Dispatch.Relay.Gateway
