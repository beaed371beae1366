import ClusterWire.Proofs.Executor.Workshop

/-! The order of requests. Those of one identity are handled in the order in which they came
in, one after the other, and each once, whatever the workers do in the meantime. -/
namespace ClusterWire
namespace Workshop

variable (d : Dispatcher)

/-! A worker that is left to itself gets through all its jobs. -/

def steps (s : Workshop) (moves : List Move) : Workshop := moves.foldl (step d) s

/-- The moves of a worker. -/
def Move.isOf (w : Nat) : Move → Prop
  | .start v | .work v _ | .finish v => v = w
  | _ => False

variable {d} {size : Nat} {s : Workshop}

theorem run_steps (run : Run d size s) (moves : List Move) : Run d size (s.steps d moves) := by
  induction moves generalizing s with
  | nil => exact run
  | cons move moves ih => exact ih (.step move run)

theorem worker_start {w : Nat} {t : Ticket Duty} {waiting : List (Ticket Duty)}
    (idle : s.shift.pool.worker w = ⟨none, t :: waiting⟩) :
    (s.step d (.start w)).shift.pool.worker w = ⟨some t, waiting⟩ := by
  have next : (s.shift.pool.worker w).next? = some t := by
    rw [idle]
    rfl
  obtain ⟨rest, same, after⟩ := s.shift.pool.start_spec next
  cases idle.symm.trans same
  simp only [step, event?, Option.elim_some, Shift.step, next]
  exact (after w).trans (if_pos rfl)

section Busy

variable {w : Nat} {t : Ticket Duty} {waiting : List (Ticket Duty)}
  (busy : s.shift.pool.worker w = ⟨some t, waiting⟩)
include busy

theorem running_of_busy : s.shift.pool.running? w = some t := by
  rw [Pool.running?_eq, busy]

theorem worker_work (reason : Option String) :
    (s.step d (.work w reason)).shift.pool.worker w =
      ⟨some ⟨t.number, (t.job.work d reason s.world).2⟩, waiting⟩ := by
  have runs := running_of_busy busy
  obtain ⟨rest, same, after, -⟩ := s.shift.pool.run_spec runs
  cases busy.symm.trans same
  simp only [step, event?, runs, Option.map_some, Option.elim_some, Shift.step]
  exact (after _ w).trans (if_pos rfl)

/-- A job that is over leaves the worker to those that wait. -/
theorem worker_finish (ended : (t.job.rest d).isOver = true) :
    (s.step d (.finish w)).shift.pool.worker w = ⟨none, waiting⟩ := by
  have runs := running_of_busy busy
  obtain ⟨rest, same, -, after⟩ := s.shift.pool.run_spec runs
  cases busy.symm.trans same
  simp only [step, event?, runs, Option.bind_some, ended, if_true, Option.elim_some, Shift.step]
  exact (after w).trans (if_pos rfl)

end Busy

variable (d) in
/-- A worker comes to have these jobs by moves of its own. -/
def Reaches (w : Nat) (s : Workshop) (k : Worker (Ticket Duty)) : Prop :=
  ∃ moves : List Move, (∀ move ∈ moves, move.isOf w) ∧
    (s.steps d moves).shift.pool.worker w = k

theorem Reaches.move {w : Nat} {k : Worker (Ticket Duty)} {move : Move} (own : move.isOf w)
    (reaches : Reaches d w (s.step d move) k) : Reaches d w s k := by
  obtain ⟨moves, owns, reached⟩ := reaches
  exact ⟨move :: moves, List.forall_mem_cons.mpr ⟨own, owns⟩, reached⟩

/-- A job comes to an end step by step: what is left of it gets smaller. -/
theorem reaches_idle {w : Nat} {waiting : List (Ticket Duty)} {a : Activity World (Aside World)}
    {t : Ticket Duty} (busy : s.shift.pool.worker w = ⟨some t, waiting⟩)
    (rest : t.job.rest d = a) : Reaches d w s ⟨none, waiting⟩ := by
  have works : (Move.work w none).isOf w := rfl
  have finishes : (Move.finish w).isOf w := rfl
  induction a generalizing s t with
  | finish | crash =>
    have ended : (t.job.rest d).isOver = true := by
      rw [rest]
      rfl
    exact .move finishes ⟨[], by rintro move ⟨⟩, worker_finish busy ended⟩
  | act change next ih =>
    exact .move works (ih s.world (worker_work busy none) (Duty.rest_work d rest none s.world))
  | pause ms next ih =>
    exact .move works (ih (worker_work busy none) (Duty.rest_work d rest none s.world))
  | connect address next ih =>
    exact .move works (ih none (worker_work busy none) (Duty.rest_work d rest none s.world))

theorem Reaches.trans {w : Nat} {k l : Worker (Ticket Duty)} (reaches : Reaches d w s k)
    (further : ∀ s, s.shift.pool.worker w = k → Reaches d w s l) : Reaches d w s l := by
  obtain ⟨moves, own, reached⟩ := reaches
  obtain ⟨more, owns, done⟩ := further _ reached
  refine ⟨moves ++ more, List.forall_mem_append.mpr ⟨own, owns⟩, ?_⟩
  rw [steps, List.foldl_append]
  exact done

/-- A worker gets through all jobs that wait, whatever becomes of each. -/
theorem reaches_empty {w : Nat} {waiting : List (Ticket Duty)}
    (idle : s.shift.pool.worker w = ⟨none, waiting⟩) : Reaches d w s {} := by
  induction waiting generalizing s with
  | nil => exact ⟨[], by rintro move ⟨⟩, idle⟩
  | cons t waiting ih =>
    have starts : (Move.start w).isOf w := rfl
    apply Reaches.move starts
    exact (reaches_idle (worker_start idle) rfl).trans fun s idle => ih idle

/-- Nothing that was dealt out is forgotten. -/
theorem dealt_kept {n : Nat} {deal : Deal Duty} (dealt : s.shift.dealt[n]? = some deal)
    (move : Move) : (s.step d move).shift.dealt[n]? = some deal := by
  simp only [step]
  cases s.event? d move with
  | none => exact dealt
  | some event =>
    have known := (List.getElem?_eq_some_iff.mp dealt).1
    simp only [Option.elim_some]
    rw [Shift.dealt_step, List.getElem?_append_left known]
    exact dealt

theorem home?_steps {n w : Nat} (home : s.shift.home? n = some w) (moves : List Move) :
    (s.steps d moves).shift.home? n = some w := by
  induction moves generalizing s with
  | nil => exact home
  | cons move moves ih =>
    obtain ⟨deal, dealt, rfl⟩ := Option.map_eq_some_iff.mp home
    exact ih (Option.map_eq_some_iff.mpr ⟨deal, dealt_kept dealt move, rfl⟩)

/-- A worker can bring all its jobs to an end by itself, whatever has become of those before. -/
theorem exists_ended (run : Run d size s) (w : Nat) : ∃ moves : List Move,
    (∀ move ∈ moves, move.isOf w) ∧
    ∀ n, s.shift.home? n = some w → n ∈ (s.steps d moves).shift.ended := by
  have empties : Reaches d w s {} := by
    cases jobs : s.shift.pool.worker w with
    | mk running waiting =>
      cases running with
      | none => exact reaches_empty jobs
      | some t => exact (reaches_idle jobs rfl).trans fun s idle => reaches_empty idle
  obtain ⟨moves, own, empty⟩ := empties
  refine ⟨moves, own, fun n home => ?_⟩
  have orderly := (sound_of_run (run_steps run moves)).orderly
  have once := orderly.placed n w (home?_steps home moves)
  rw [Shift.lineAt, empty] at once
  have ended : 0 + (s.steps d moves).shift.ended.count n = 1 := once
  exact List.count_pos_iff.mp (by omega)

/-! What holds of the jobs at every moment. -/

/-- Each request has one worker, where it waits, runs, or has ended; it is started once and ends
once. Of two requests of one identity the later one starts behind the end of the earlier one.
Whatever a job does lies between its start and its end. -/
structure InOrder (d : Dispatcher) (size : Nat) (s : Workshop) : Prop where
  worker : ∀ n q, s.request? n = some q → ∃ w < max size 1, s.shift.home? n = some w ∧
    (0 < q.context.identity → w = q.context.identity.toInt.toNat % max size 1)
  once : ∀ n w, s.shift.home? n = some w →
    (s.shift.waitingAt w).count n + (s.shift.runningAt w).count n + s.shift.ended.count n = 1 ∧
    s.shift.started.count n = (s.shift.runningAt w).count n + s.shift.ended.count n ∧
    ∀ v, v ≠ w → n ∉ s.shift.lineAt v
  order : ∀ m n q r front mark back, s.request? m = some q → s.request? n = some r → m < n →
    0 < q.context.identity → q.context.identity = r.context.identity →
    s.shift.log = front ++ (n, mark) :: back →
    (m, .ended) ∈ front ∧ ∀ other, (m, other) ∉ back
  within : ∀ n deed front back, s.shift.log = front ++ (n, .did deed) :: back →
    (n, .started) ∈ front ∧ (n, .ended) ∉ front
  done : ∀ n q, s.request? n = some q → Duty.Done d q (s.shift.deedsOf n)

theorem inOrder_of_sound (sound : s.Sound d size) : s.InOrder d size := by
  obtain ⟨orderly, holds, genuine⟩ := sound
  constructor
  · intro n q asked
    obtain ⟨deal, dealt, rfl⟩ := Option.map_eq_some_iff.mp asked
    have listed := List.mem_of_getElem? dealt
    rw [← orderly.size, ← (genuine deal listed).1]
    refine ⟨deal.worker, orderly.inside deal listed, ?_, orderly.own deal listed⟩
    rw [Shift.home?, dealt]
    rfl
  · intro n w home
    have once := orderly.placed n w home
    rw [Shift.lineAt_eq, List.count_append] at once
    refine ⟨by omega, orderly.begun n w home, fun v other inside => ?_⟩
    cases home.symm.trans (orderly.home v n inside)
    exact other rfl
  · intro m n q r front mark back first second before identified same split
    obtain ⟨one, dealt, rfl⟩ := Option.map_eq_some_iff.mp first
    obtain ⟨other, also, rfl⟩ := Option.map_eq_some_iff.mp second
    rw [← (genuine one (List.mem_of_getElem? dealt)).1] at identified same
    rw [← (genuine other (List.mem_of_getElem? also)).1] at same
    exact orderly.between split before (orderly.home_eq dealt also identified same)
  · exact fun n deed front back split => orderly.within split
  · intro n q asked
    obtain ⟨deal, dealt, rfl⟩ := Option.map_eq_some_iff.mp asked
    obtain ⟨now, -, traced⟩ := holds.of_dealt orderly dealt
    exact Duty.done_of_traced d traced

/-- A running job is that of the request under its number. -/
theorem request_of_running (sound : s.Sound d size) {w : Nat} {t : Ticket Duty}
    (running : s.shift.pool.running? w = some t) : s.request? t.number = some t.job.request ∧
      Duty.Traced d t.job.request (s.shift.deedsOf t.number) t.job.stage := by
  obtain ⟨deal, dealt, same, traced⟩ :=
    sound.holds.line w t (Pool.mem_line_of_running _ running)
  rw [same]
  exact ⟨Option.map_eq_some_iff.mpr ⟨deal, dealt, rfl⟩, traced⟩

theorem running_work {w : Nat} {t : Ticket Duty} (running : s.shift.pool.running? w = some t)
    (reason : Option String) : (s.step d (.work w reason)).shift.pool.running? w =
      some ⟨t.number, (t.job.work d reason s.world).2⟩ := by
  simp only [step, event?, running, Option.map_some, Option.elim_some, Shift.step]
  exact Pool.running?_change _ running _

theorem log_work {w : Nat} {t : Ticket Duty} {deed : Deed}
    (running : s.shift.pool.running? w = some t) (alone : t.job.deeds d s.world = [deed])
    (reason : Option String) :
    (s.step d (.work w reason)).shift.log = s.shift.log ++ [(t.number, .did deed)] := by
  simp only [step, event?, running, Option.map_some, Option.elim_some, Shift.step, alone]
  rfl

theorem asked_of_dispatch {id : SessionId} {m : Message} {identity : Int64}
    {job : Activity World (Aside World)}
    (dispatched : d.dispatch s.world.sessions id m = some (identity, job)) :
    ∃ q, q.session = id ∧ q.message = m ∧ q.context = ⟨identity, m.sequence⟩ ∧
      job = d.process id m q.context ∧
      (s.step d (.dispatch id m)).shift.dealt.length = s.shift.dealt.length + 1 ∧
      (s.step d (.dispatch id m)).request? s.shift.dealt.length = some q := by
  rw [d.dispatch_eq] at dispatched
  obtain ⟨e, duty, same⟩ := Option.map_eq_some_iff.mp dispatched
  cases same
  obtain ⟨session, rfl⟩ := Dispatcher.duty?_eq_some duty
  refine ⟨_, rfl, rfl, rfl, Duty.rest_fresh d _, ?_, ?_⟩
  · simp [step, event?, duty, Shift.step]
  · simp [step, event?, duty, Shift.step, request?]

/-- The moves are what the program does. The dispatcher's jobs go through the pool under the
numbers of their requests, and a worker does its job step by step. -/
structure Faithful (d : Dispatcher) (s : Workshop) : Prop where
  dispatch : ∀ id m, (s.step d (.dispatch id m)).jobs d =
    match d.dispatch s.world.sessions id m with
    | some (identity, job) => ((s.jobs d).submit identity job).1
    | none => s.jobs d
  asked : ∀ id m identity job, d.dispatch s.world.sessions id m = some (identity, job) →
    ∃ q, q.session = id ∧ q.message = m ∧ q.context = ⟨identity, m.sequence⟩ ∧
      job = d.process id m q.context ∧
      (s.step d (.dispatch id m)).shift.dealt.length = s.shift.dealt.length + 1 ∧
      (s.step d (.dispatch id m)).request? s.shift.dealt.length = some q
  kept : ∀ move n q, s.request? n = some q → (s.step d move).request? n = some q
  start : ∀ w, (s.step d (.start w)).jobs d = (s.jobs d).start w
  work : ∀ w a, (s.jobs d).running? w = some a → ∀ reason,
    (s.step d (.work w reason)).world = (a.tick reason s.world).1 ∧
    (s.step d (.work w reason)).jobs d = (s.jobs d).change w (a.tick reason s.world).2
  finish : ∀ w a, (s.jobs d).running? w = some a → a.isOver = true →
    (s.step d (.finish w)).jobs d = (s.jobs d).finish w
  called : ∀ w t descriptor args, s.shift.pool.running? w = some t →
    .called descriptor args ∈ t.job.deeds d s.world → ∃ q handler,
      s.request? t.number = some q ∧
      d.registry.handler? q.message.protocol = some (descriptor, handler) ∧ ∀ reason,
        ((s.step d (.work w reason)).jobs d).running? w =
          some (d.call q.session q.context descriptor handler args) ∧
        (s.step d (.work w reason)).shift.log =
          s.shift.log ++ [(t.number, .did (.called descriptor args))]
  told : ∀ w t frame, s.shift.pool.running? w = some t → .told frame ∈ t.job.deeds d s.world →
    ∃ q, s.request? t.number = some q ∧ ∀ reason,
      (s.step d (.work w reason)).world =
        s.world.withSessions (s.world.sessions.send q.session frame).1 ∧
      (s.step d (.work w reason)).shift.log =
        s.shift.log ++ [(t.number, .did (.told frame))]
  beside : ∀ w t aside, s.shift.pool.running? w = some t → t.job.rest d = .finish (some aside) →
    ∃ q descriptor, s.request? t.number = some q ∧ Duty.Bound d q descriptor ∧
      descriptor.isSynchronous = false

theorem faithful_of_sound (sound : s.Sound d size) : s.Faithful d := by
  constructor
  · exact jobs_dispatch
  · exact fun id m identity job dispatched => asked_of_dispatch dispatched
  · intro move n q asked
    obtain ⟨deal, dealt, rfl⟩ := Option.map_eq_some_iff.mp asked
    exact Option.map_eq_some_iff.mpr ⟨deal, dealt_kept dealt move, rfl⟩
  · exact jobs_start
  · exact fun w a running reason => jobs_work running reason
  · exact fun w a running ended => jobs_finish running ended
  · intro w t descriptor args running called
    obtain ⟨asked, traced⟩ := request_of_running sound running
    obtain ⟨handler, stage, alone, left⟩ := Duty.work_called d called
    rw [stage] at traced
    refine ⟨_, handler, asked, traced.2, fun reason => ⟨?_, log_work running alone reason⟩⟩
    rw [running?_jobs, running_work running]
    exact congrArg some (left reason)
  · intro w t frame running told
    obtain ⟨alone, sent⟩ := Duty.work_told d told
    refine ⟨_, (request_of_running sound running).1, fun reason =>
      ⟨?_, log_work running alone reason⟩⟩
    simp only [step, worldAfter, running]
    exact sent reason
  · intro w t aside running left
    obtain ⟨asked, traced⟩ := request_of_running sound running
    rw [Duty.ended_of_rest d left] at traced
    obtain ⟨descriptor, bound, mode⟩ := traced.2 (by rintro ⟨⟩)
    exact ⟨_, descriptor, asked, bound, mode⟩

/-- Requests are handled in the order in which they came in, one after the other, as far as they
are of one identity; none is lost and none is handled twice. A worker can bring all its jobs to
an end by itself, whatever has become of those before. -/
theorem handled_in_order (run : Run d size s) : s.InOrder d size ∧ s.Faithful d ∧
    ∀ w, ∃ moves : List Move, (∀ move ∈ moves, move.isOf w) ∧
      ∀ n, s.shift.home? n = some w → n ∈ (s.steps d moves).shift.ended :=
  have sound := sound_of_run run
  ⟨inOrder_of_sound sound, faithful_of_sound sound, exists_ended run⟩

/-! Two requests of one identity from two sessions. The handler pauses in the first one and
panics at the second one. -/

def pausing : Dispatcher where
  registry := ⟨[], [({ protocol := ⟨10, 3⟩, name := "pausing", bindings := [] }, fun args =>
    if args.context.sequence = 1 then .works (.pause 5 (.finish (.ok .null)))
    else .crashes (.text "lost"))], []⟩
  serializers := .standard
  extract := fun _ _ => 42

def joined : World :=
  World.empty.withSessions
    ((Sessions.empty.create (.loopback 5000) .external 0).1.create (.loopback 5001) .external 0).1

def halfway : Workshop := steps pausing ⟨joined, .idle 2⟩ [
  .dispatch ⟨1⟩ (.clientRequest 1 ⟨10, 3⟩ []), .dispatch ⟨2⟩ (.clientRequest 2 ⟨10, 3⟩ []),
  .start 0, .work 0 none, .start 0, .work 0 none, .work 0 none, .finish 0, .start 0, .work 0 none]

theorem handled_in_order_pausing : halfway.shift.log.map (·.1) = [0, 0, 0, 0, 0, 1, 1] ∧
    halfway.shift.started = [0, 1] ∧ halfway.shift.ended = [0] ∧ halfway.shift.runningAt 0 = [1] ∧
    (∃ w < 2, halfway.shift.home? 1 = some w ∧ w = 0) ∧
    ∃ moves : List Move, 1 ∈ (halfway.steps pausing moves).shift.ended := by
  have run : Run pausing 2 halfway := run_steps (.start joined) _
  obtain ⟨inOrder, faithful, ends⟩ := handled_in_order run
  obtain ⟨moves, -, ended⟩ := ends 0
  obtain ⟨w, inside, home, own⟩ := inOrder.worker 1 _ rfl
  exact ⟨rfl, rfl, rfl, rfl, ⟨w, inside, home, own (by decide)⟩, moves, ended 1 rfl⟩

end Workshop
end ClusterWire
