import ClusterWire.Proofs.Executor.Duty
import ClusterWire.Proofs.Executor.Order

/-! A dispatcher and its pool at work. Messages come in from any session, workers take up jobs,
work on them step by step and leave them, and everything else goes on beside them, all in any
order. -/
namespace ClusterWire

namespace Dispatcher

/-- The job of a message, if it is a request of a session. -/
def duty? (d : Dispatcher) (t : Sessions) (id : SessionId) (m : Message) : Option Duty :=
  match m.kind, t.session? id with
  | .request, some s => some (.fresh d ⟨id, m, d.context s m⟩)
  | _, _ => none

theorem dispatch_eq (d : Dispatcher) (t : Sessions) (id : SessionId) (m : Message) :
    d.dispatch t id m =
      (d.duty? t id m).map fun e => (e.request.context.identity, e.rest d) := by
  unfold dispatch duty?
  cases m.kind with
  | request =>
    cases t.session? id with
    | none => rfl
    | some s =>
      simp only [Option.map_some, Duty.rest_fresh]
      rfl
  | response | heartbeatRequest | heartbeatResponse => rfl

theorem duty?_eq_some {d : Dispatcher} {t : Sessions} {id : SessionId} {m : Message} {e : Duty}
    (job : d.duty? t id m = some e) : ∃ s, e = .fresh d ⟨id, m, d.context s m⟩ := by
  unfold duty? at job
  split at job
  · cases job
    exact ⟨_, rfl⟩
  · cases job

end Dispatcher

structure Workshop where
  world : World
  shift : Shift Duty Deed

namespace Workshop

inductive Move where
  | dispatch (id : SessionId) (m : Message)
  | start (w : Nat)
  | work (w : Nat) (reason : Option String)
  | finish (w : Nat)
  | elsewhere (world : World)

variable (d : Dispatcher)

/-- What happens to the pool. -/
def event? (s : Workshop) : Move → Option (Shift.Event Duty Deed)
  | .dispatch id m =>
    (d.duty? s.world.sessions id m).map fun e => .submit e.request.context.identity e
  | .start w => some (.start w)
  | .work w reason => (s.shift.pool.running? w).map fun t =>
    .change w (t.job.work d reason s.world).2 (t.job.deeds d s.world)
  | .finish w => (s.shift.pool.running? w).bind fun t =>
    if (t.job.rest d).isOver then some (.finish w) else none
  | .elsewhere _ => none

/-- What happens to the world. -/
def worldAfter (s : Workshop) : Move → World
  | .work w reason =>
    match s.shift.pool.running? w with
    | some t => (t.job.work d reason s.world).1
    | none => s.world
  | .elsewhere world => world
  | _ => s.world

def step (s : Workshop) (move : Move) : Workshop where
  world := s.worldAfter d move
  shift := (s.event? d move).elim s.shift s.shift.step

inductive Run (size : Nat) : Workshop → Prop where
  | start (world : World) : Run size ⟨world, .idle size⟩
  | step {s : Workshop} (move : Move) : Run size s → Run size (s.step d move)

/-- The request that was dispatched under a number. -/
def request? (s : Workshop) (n : Nat) : Option Request :=
  (s.shift.dealt[n]?).map (·.job.request)

/-- How a job goes on from the one that was dealt. -/
def Continues (origin : Duty) (deeds : List Deed) (now : Duty) : Prop :=
  now.request = origin.request ∧ Duty.Traced d origin.request deeds now.stage

/-- The jobs that are dealt out are requests as they were dispatched. -/
def Genuine (deal : Deal Duty) : Prop :=
  deal.identity = deal.job.request.context.identity ∧ deal.job = .fresh d deal.job.request

structure Sound (size : Nat) (s : Workshop) : Prop where
  orderly : s.shift.Orderly size
  holds : Shift.Holds (Continues d) s.shift
  genuine : ∀ deal ∈ s.shift.dealt, Genuine d deal

/-- What is left of the jobs, worker by worker. -/
def jobs (s : Workshop) : Pool (Activity World (Aside World)) :=
  s.shift.pool.map fun t => t.job.rest d

variable {d} {size : Nat} {s : Workshop}

theorem running?_jobs (w : Nat) :
    (s.jobs d).running? w = (s.shift.pool.running? w).map fun t => t.job.rest d :=
  s.shift.pool.running?_map _ w

/-- A message is a job for the pool if the dispatcher makes one of it. -/
theorem jobs_dispatch (id : SessionId) (m : Message) : (s.step d (.dispatch id m)).jobs d =
    match d.dispatch s.world.sessions id m with
    | some (identity, job) => ((s.jobs d).submit identity job).1
    | none => s.jobs d := by
  rw [d.dispatch_eq]
  simp only [jobs, step, event?]
  cases d.duty? s.world.sessions id m with
  | none => rfl
  | some e =>
    have moved := s.shift.pool.map_submit (fun t => t.job.rest d) e.request.context.identity
      ⟨s.shift.dealt.length, e⟩
    exact (congrArg Prod.fst moved).symm

theorem jobs_start (w : Nat) : (s.step d (.start w)).jobs d = (s.jobs d).start w := by
  rw [jobs, jobs, ← Pool.map_start]
  simp only [step, event?, Option.elim_some, Shift.step]
  cases next : (s.shift.pool.worker w).next? with
  | none => rw [Pool.start_eq_self _ next]
  | some t => rfl

/-- A worker does a step of its job. -/
theorem jobs_work {w : Nat} {a : Activity World (Aside World)}
    (running : (s.jobs d).running? w = some a) (reason : Option String) :
    (s.step d (.work w reason)).world = (a.tick reason s.world).1 ∧
    (s.step d (.work w reason)).jobs d = (s.jobs d).change w (a.tick reason s.world).2 := by
  rw [running?_jobs] at running
  obtain ⟨t, runs, rfl⟩ := Option.map_eq_some_iff.mp running
  rw [t.job.tick_rest d]
  constructor
  · simp only [step, worldAfter, runs]
  · simp only [jobs, step, event?, runs, Option.map_some, Option.elim_some, Shift.step]
    exact s.shift.pool.map_change _ w _

/-- A job that is over leaves its worker, whether it has finished or crashed. -/
theorem jobs_finish {w : Nat} {a : Activity World (Aside World)}
    (running : (s.jobs d).running? w = some a) (ended : a.isOver = true) :
    (s.step d (.finish w)).jobs d = (s.jobs d).finish w := by
  rw [running?_jobs] at running
  obtain ⟨t, runs, rfl⟩ := Option.map_eq_some_iff.mp running
  simp only [jobs, step, event?, runs, Option.bind_some, ended, if_true, Option.elim_some,
    Shift.step]
  exact s.shift.pool.map_finish _ w

/-- All that can happen to the pool in a move. -/
inductive Happens (d : Dispatcher) (s : Workshop) : Move → Shift.Event Duty Deed → Prop where
  | dispatch {id : SessionId} {m : Message} {e : Duty}
      (job : d.duty? s.world.sessions id m = some e) :
      Happens d s (.dispatch id m) (.submit e.request.context.identity e)
  | start (w : Nat) : Happens d s (.start w) (.start w)
  | work {w : Nat} {t : Ticket Duty} (reason : Option String)
      (running : s.shift.pool.running? w = some t) :
      Happens d s (.work w reason)
        (.change w (t.job.work d reason s.world).2 (t.job.deeds d s.world))
  | finish {w : Nat} {t : Ticket Duty} (running : s.shift.pool.running? w = some t)
      (ended : (t.job.rest d).isOver = true) : Happens d s (.finish w) (.finish w)

theorem happens_of_event {move : Move} {event : Shift.Event Duty Deed}
    (known : s.event? d move = some event) : s.Happens d move event := by
  cases move with
  | dispatch id m =>
    obtain ⟨e, job, rfl⟩ := Option.map_eq_some_iff.mp known
    exact .dispatch job
  | start w =>
    cases known
    exact .start w
  | work w reason =>
    obtain ⟨t, running, rfl⟩ := Option.map_eq_some_iff.mp known
    exact .work reason running
  | finish w =>
    obtain ⟨t, running, done⟩ := Option.bind_eq_some_iff.mp known
    split at done
    · rename_i ended
      cases done
      exact .finish running ended
    · cases done
  | elsewhere world => cases known

/-- What happens to the pool keeps up how its jobs go on. -/
theorem keeps_event {move : Move} {event : Shift.Event Duty Deed}
    (happens : s.Happens d move event) : s.shift.Keeps (Continues d) event := by
  cases happens with
  | dispatch job =>
    obtain ⟨session, rfl⟩ := Dispatcher.duty?_eq_some job
    exact ⟨rfl, Duty.traced_consulted d _ _⟩
  | start | finish => exact trivial
  | @work w t reason running =>
    intro u runs origin before continues
    cases running.symm.trans runs
    obtain ⟨same, traced⟩ := continues
    rw [← same] at traced
    have more := Duty.traced_work d traced reason s.world
    rw [same] at more
    exact ⟨(Duty.request_work d t.job reason s.world).trans same, more⟩

theorem dealt_event {move : Move} {event : Shift.Event Duty Deed}
    (happens : s.Happens d move event) {deal : Deal Duty}
    (listed : deal ∈ (s.shift.step event).dealt) : deal ∈ s.shift.dealt ∨ Genuine d deal := by
  rw [Shift.dealt_step] at listed
  rcases List.mem_append.mp listed with before | new
  · exact .inl before
  · right
    cases happens with
    | dispatch job =>
      obtain ⟨session, rfl⟩ := Dispatcher.duty?_eq_some job
      rw [List.mem_singleton.mp new]
      exact ⟨rfl, rfl⟩
    | start | work | finish => cases new

theorem sound_of_run (run : Run d size s) : s.Sound d size := by
  induction run with
  | start world =>
    exact ⟨.start, .start, by rintro deal ⟨⟩⟩
  | step move _ sound =>
    rename_i s _
    obtain ⟨orderly, holds, genuine⟩ := sound
    simp only [step]
    cases known : s.event? d move with
    | none => exact ⟨orderly, holds, genuine⟩
    | some event =>
      have happens := happens_of_event known
      refine ⟨orderly.step event, holds.step orderly (keeps_event happens), ?_⟩
      intro deal listed
      exact (dealt_event happens listed).elim (genuine deal) fun new => new

end Workshop
end ClusterWire
