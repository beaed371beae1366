import ClusterWire.Proofs.Passage.Landing

/-! Requests that a server does not turn away. If the hook lets a request through, a handler is
bound for it and its arguments can be read, then its job does not end without having called the
handler. -/
namespace ClusterWire

namespace Activity

variable {σ α : Type}

/-- Whatever it finds on its way, the activity ends with a value of this kind. -/
def Yields (P : α → Prop) : Activity σ α → Prop
  | finish v => P v
  | crash _ => False
  | act _ next => ∀ s, (next s).Yields P
  | pause _ next => next.Yields P
  | connect _ next => ∀ reason, (next reason).Yields P

theorem Yields.tick {P : α → Prop} {a : Activity σ α} (yields : a.Yields P)
    (reason : Option String) (s : σ) : (a.tick reason s).2.Yields P := by
  cases a with
  | finish | crash | pause => exact yields
  | act change next => exact yields s
  | connect address next => exact yields reason

end Activity

open Activity (Yields)

/-- The hook lets the request through, a handler is bound for it, and its arguments are read
from any session that speaks the serializer. -/
structure Request.Welcome (d : Dispatcher) (type : Option UInt8) (q : Request) : Prop where
  passes : (d.consult q.session q.message q.context).Yields (· = true)
  bound : ∃ descriptor handler,
    d.registry.handler? q.message.protocol = some (descriptor, handler) ∧
    (descriptor.requiresIdentity → q.context.hasIdentity) ∧
    ∀ s : Session, some s.serializeType = type → ∃ args,
      Dispatch.bindArguments d.serializers descriptor s q.message q.context = .ok args

namespace Duty

variable (d : Dispatcher)

/-- The handler of the request is called in time. -/
def OnWay (q : Request) (deeds : List Deed) : Stage → Prop
  | .consulting a => a.1.Yields (· = true)
  | .looking descriptor handler =>
    d.registry.handler? q.message.protocol = some (descriptor, handler)
  | .handling _ _ | .answering _ | .ended _ => ∃ descriptor args, .called descriptor args ∈ deeds
  | .forwarding _ | .crashed _ => False

variable {d} {type : Option UInt8} {q : Request}

theorem onWay_consulted (welcome : q.Welcome d type) (deeds : List Deed) {a : Activity World Bool}
    (yields : a.Yields (· = true)) : OnWay d q deeds (q.consulted d a.status) := by
  cases a with
  | crash panic => cases yields
  | act | pause | connect => exact yields
  | finish passed =>
    cases yields
    obtain ⟨descriptor, handler, bound, identified, -⟩ := welcome.bound
    have admitted : (descriptor.requiresIdentity && !q.context.hasIdentity) = false := by
      cases needs : descriptor.requiresIdentity with
      | false => rfl
      | true => rw [identified needs]; rfl
    simp only [Activity.status, Request.consulted, Request.routed, bound, admitted]
    exact bound

theorem onWay_called {deeds : List Deed} {descriptor : Descriptor} {args : Arguments}
    (called : .called descriptor args ∈ deeds) (other : Descriptor) (call : Call World) :
    OnWay d q deeds (q.called d other call) := by
  cases call with
  | crashes panic => exact ⟨descriptor, args, called⟩
  | works work =>
    simp only [Request.called]
    split
    · cases work.status <;> exact ⟨descriptor, args, called⟩
    · exact ⟨descriptor, args, called⟩

theorem onWay_work {e : Duty} (welcome : e.request.Welcome d type) {deeds : List Deed}
    (onWay : OnWay d e.request deeds e.stage) {w : World}
    (speaks : w.sessions.type? e.request.session = type) (known : type.isSome)
    (reason : Option String) :
    OnWay d e.request (deeds ++ e.deeds d w) (e.work d reason w).2.stage := by
  obtain ⟨q, stage⟩ := e
  cases stage with
  | consulting a => exact onWay_consulted welcome _ (onWay.tick reason w)
  | looking descriptor handler =>
    obtain ⟨_, _, bound, -, reads⟩ := welcome.bound
    cases onWay.symm.trans bound
    rw [← speaks, Sessions.type?, Option.isSome_map] at known
    obtain ⟨s, there⟩ := Option.isSome_iff_exists.mp known
    obtain ⟨args, read⟩ := reads s (by rw [← speaks, Sessions.type?, there]; rfl)
    have arguments : q.arguments d descriptor w = some (.ok args) := by
      rw [Request.arguments, there, Option.map_some, read]
    simp only [work, Duty.deeds, arguments]
    exact onWay_called (List.mem_append_right _ List.mem_cons_self) descriptor _
  | handling descriptor a =>
    obtain ⟨found, args, called⟩ := onWay
    have still := List.mem_append_left (Duty.deeds d ⟨q, .handling descriptor a⟩ w) called
    simp only [work]
    cases (a.1.tick reason w).2.status <;> exact ⟨found, args, still⟩
  | answering r | ended aside =>
    obtain ⟨found, args, called⟩ := onWay
    exact ⟨found, args, List.mem_append_left _ called⟩
  | forwarding | crashed => cases onWay

/-- A job that is over has come to the end of its way. -/
theorem called_of_isOver {e : Duty} {deeds : List Deed} (onWay : OnWay d q deeds e.stage)
    (done : (e.rest d).isOver = true) : ∃ descriptor args, .called descriptor args ∈ deeds := by
  obtain ⟨r, stage⟩ := e
  cases stage with
  | consulting a =>
    have going := Activity.isOver_bind a.2 (d.route r.session r.message r.context)
    cases going.symm.trans done
  | looking => cases done
  | handling | answering | ended => exact onWay
  | forwarding | crashed => cases onWay

end Duty

namespace Shift

variable {J M : Type} {size : Nat} {s : Shift J M}

theorem Holds.imp {P Q : J → List M → J → Prop} (holds : Holds P s)
    (weaker : ∀ deal ∈ s.dealt, ∀ deeds now, P deal.job deeds now → Q deal.job deeds now) :
    Holds Q s where
  line w t listed := by
    obtain ⟨deal, dealt, kept⟩ := holds.line w t listed
    exact ⟨deal, dealt, weaker deal (List.mem_of_getElem? dealt) _ _ kept⟩
  ended n done := by
    obtain ⟨deal, now, dealt, kept⟩ := holds.ended n done
    exact ⟨deal, now, dealt, weaker deal (List.mem_of_getElem? dealt) _ _ kept⟩

/-- A job that has ended does nothing any more; it ends where it runs. -/
theorem ended_step (orderly : s.Orderly size) {event : Event J M} {n : Nat}
    (done : n ∈ (s.step event).ended) :
    (s.step event).deedsOf n = s.deedsOf n ∧ (n ∈ s.ended ∨ ∃ w t, event = .finish w ∧
      s.pool.running? w = some t ∧ t.number = n) := by
  cases event with
  | submit identity job => exact ⟨rfl, .inl done⟩
  | start w =>
    simp only [step] at done ⊢
    cases next : (s.pool.worker w).next? with
    | none =>
      rw [next] at done
      exact ⟨rfl, .inl done⟩
    | some t =>
      rw [next] at done
      have done : n ∈ ended (s.note t.number .started) := done
      rw [ended_note] at done
      exact ⟨deedsOf_note rfl, .inl (by simpa [Mark.isEnded] using done)⟩
  | finish w =>
    simp only [step] at done ⊢
    cases runs : s.pool.running? w with
    | none =>
      rw [runs] at done
      exact ⟨rfl, .inl done⟩
    | some t =>
      rw [runs] at done
      have done : n ∈ ended (s.note t.number .ended) := done
      rw [ended_note] at done
      refine ⟨deedsOf_note rfl, (List.mem_append.mp done).imp_right fun last => ?_⟩
      exact ⟨w, t, rfl, runs, (by simpa [Mark.isEnded] using last : n = t.number).symm⟩
  | change w job deeds =>
    simp only [step] at done ⊢
    cases runs : s.pool.running? w with
    | none =>
      rw [runs] at done
      exact ⟨rfl, .inl done⟩
    | some t =>
      rw [runs] at done
      have already := mem_ended_deeds done
      obtain ⟨waiting, before, -⟩ := s.pool.run_spec runs
      have other : t.number ≠ n := by
        rintro rfl
        exact orderly.open_of_head (Orderly.numbers before).1 already
      refine ⟨?_, .inl already⟩
      exact (deedsOf_deeds t.number n deeds).trans (by rw [if_neg other, List.append_nil])

end Shift

namespace Workshop

variable (d : Dispatcher) (id : SessionId) (type : Option UInt8)

/-- A job of a session, if its request is welcome, is on its way to its handler. -/
def Promised (origin : Duty) (deeds : List Deed) (now : Duty) : Prop :=
  now.request = origin.request ∧ (origin.request.session = id → origin.request.Welcome d type →
    Duty.OnWay d origin.request deeds now.stage)

/-- The handlers of the session's welcome requests have been called, or will be. -/
structure Attends (s : Workshop) : Prop where
  promised : Shift.Holds (Promised d id type) s.shift
  called : ∀ n ∈ s.shift.ended, ∀ q, s.request? n = some q → q.session = id →
    q.Welcome d type → ∃ descriptor args, .called descriptor args ∈ s.shift.deedsOf n

variable {d id type} {size : Nat} {s : Workshop}

theorem keeps_promised (speaks : s.world.sessions.type? id = type) (known : type.isSome)
    {move : Move} {event : Shift.Event Duty Deed} (happens : s.Happens d move event) :
    s.shift.Keeps (Promised d id type) event := by
  cases happens with
  | dispatch job =>
    obtain ⟨session, rfl⟩ := Dispatcher.duty?_eq_some job
    exact ⟨rfl, fun _ welcome => Duty.onWay_consulted welcome [] welcome.passes⟩
  | start | finish => exact trivial
  | @work w t reason running =>
    intro u runs origin before kept
    cases running.symm.trans runs
    obtain ⟨same, onWay⟩ := kept
    refine ⟨(Duty.request_work d t.job reason s.world).trans same, fun own welcome => ?_⟩
    have way := onWay own welcome
    rw [← same] at own welcome way ⊢
    exact Duty.onWay_work welcome way (own ▸ speaks) known reason

theorem attends_of_unused (sound : s.Sound d size)
    (unused : ∀ n q, s.request? n = some q → q.session ≠ id) : s.Attends d id type where
  promised := by
    refine sound.holds.imp fun deal dealt deeds now kept => ⟨kept.1, fun own => ?_⟩
    obtain ⟨n, there⟩ := List.getElem?_of_mem dealt
    exact absurd own (unused n _ (Option.map_eq_some_iff.mpr ⟨deal, there, rfl⟩))
  called n _ q asked own := absurd own (unused n q asked)

/-- A job leaves its worker when it is over. -/
theorem isOver_of_finish {move : Move} {w : Nat} (happens : s.Happens d move (.finish w))
    {t : Ticket Duty} (running : s.shift.pool.running? w = some t) :
    (t.job.rest d).isOver = true := by
  cases happens with
  | finish runs ended =>
    cases running.symm.trans runs
    exact ended

theorem ended_dispatch (other : SessionId) (m : Message) :
    (s.step d (.dispatch other m)).shift.ended = s.shift.ended := by
  simp only [step, event?]
  cases d.duty? s.world.sessions other m <;> rfl

theorem Attends.step (attends : s.Attends d id type) (sound : s.Sound d size)
    (speaks : s.world.sessions.type? id = type) (known : type.isSome) (move : Move) :
    (s.step d move).Attends d id type := by
  have orderly := sound.orderly
  constructor
  · simp only [Workshop.step]
    cases occurs : s.event? d move with
    | none => exact attends.promised
    | some event =>
      exact attends.promised.step orderly
        (keeps_promised speaks known (happens_of_event occurs))
  · intro n done q asked own welcome
    have before : s.request? n = some q := by
      rcases request?_new asked with before | ⟨rfl, rfl, -⟩
      · exact before
      · rw [ended_dispatch] at done
        exact absurd done (Shift.not_mem_ended orderly)
    simp only [Workshop.step] at done ⊢
    cases occurs : s.event? d move with
    | none =>
      rw [occurs] at done
      exact attends.called n done q before own welcome
    | some event =>
      rw [occurs] at done
      obtain ⟨deeds, already | ⟨w, t, rfl, running, rfl⟩⟩ := Shift.ended_step orderly done
      · rw [Option.elim_some, deeds]
        exact attends.called n already q before own welcome
      · rw [Option.elim_some, deeds]
        obtain ⟨deal, dealt, -, onWay⟩ :=
          attends.promised.line w t (Pool.mem_line_of_running _ running)
        obtain ⟨found, there, rfl⟩ := Option.map_eq_some_iff.mp before
        cases dealt.symm.trans there
        have left := isOver_of_finish (happens_of_event occurs) running
        exact Duty.called_of_isOver (onWay own welcome) left

end Workshop

namespace Crossing

variable {x : Route} {c : Crossing} {size width : Nat}

theorem attends_of_run (run : Run x size width c) :
    c.back.Attends x.backend c.reader.session c.type? := by
  induction run with
  | start opening =>
    exact Workshop.attends_of_unused (Workshop.sound_of_run opening.back) opening.unused
  | @step c move run admits ih =>
    have sound := Workshop.sound_of_run (back_of_run run)
    have known := (landing_of_run run).known
    cases move with
    | gateway | link | deliver | hangUp => exact ih
    | reader event =>
      change (c.afterReader x event).back.Attends _ (c.afterReader x event).reader.session
        (c.afterReader x event).type?
      rw [session_reader known, type?_reader known]
      have moved := Connection.type?_step x.backend c.reader c.back.world.sessions event
        c.reader.session
      simp only [afterReader]
      have later := ih.step sound rfl known
        (.elsewhere (c.back.world.withSessions
          (c.reader.step x.backend c.back.world.sessions event).1))
      cases c.message? event with
      | none => exact later
      | some m =>
        exact later.step (Workshop.sound_of_run (.step _ (back_of_run run))) moved known _
    | backend move =>
      have type : (c.step x (.backend move)).type? = c.type? := admits.2
      rw [type]
      exact ih.step sound rfl known move

end Crossing
end ClusterWire
