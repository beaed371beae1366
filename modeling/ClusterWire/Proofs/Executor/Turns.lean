import ClusterWire.Proofs.Connection.Provenance
import ClusterWire.Proofs.Executor.Arrival
import ClusterWire.Server.Service

/-! A schedule that gives its places their turns in order is one way for a workshop to go on:
whatever holds of every run of a workshop holds of the pool of a schedule. -/
namespace ClusterWire

namespace Workshop

variable (d : Dispatcher)

/-- A worker comes so far with its job that the activity is left of it, in the world. -/
def Comes (w : Nat) (s : Workshop) (x : World × Activity World (Aside World)) : Prop :=
  ∃ moves : List Move, (s.steps d moves).world = x.1 ∧
    (s.steps d moves).jobs d = (s.jobs d).change w x.2

variable {d} {s : Workshop} {w : Nat} {a : Activity World (Aside World)}

theorem Comes.here (running : (s.jobs d).running? w = some a) : Comes d w s (s.world, a) :=
  ⟨[], rfl, (Pool.change_self _ running).symm⟩

theorem Comes.tick {x : World × Activity World (Aside World)}
    (running : (s.jobs d).running? w = some a) (reason : Option String)
    (further : ∀ t : Workshop, t.world = (a.tick reason s.world).1 →
      (t.jobs d).running? w = some (a.tick reason s.world).2 → Comes d w t x) :
    Comes d w s x := by
  obtain ⟨moved, changed⟩ := jobs_work running reason
  have now : ((s.step d (.work w reason)).jobs d).running? w = some (a.tick reason s.world).2 := by
    rw [changed]
    exact Pool.running?_change _ running _
  obtain ⟨moves, world, jobs⟩ := further _ moved now
  rw [changed, Pool.change_change] at jobs
  exact ⟨.work w reason :: moves, world, jobs⟩

/-- A worker works on its job up to the end or to a pause. -/
theorem comes_run (reach : SocketAddress → Option (Option String))
    (running : (s.jobs d).running? w = some a) : Comes d w s (a.run reach s.world) := by
  induction a generalizing s with
  | finish | crash => exact .here running
  | act change next ih =>
    refine .tick running none fun t moved now => ?_
    have rest := ih s.world now
    rw [moved] at rest
    exact rest
  | pause ms next ih =>
    cases ms with
    | zero =>
      refine .tick running none fun t moved now => ?_
      have rest := ih now
      rw [moved] at rest
      exact rest
    | succ ms => exact .here running
  | connect address next ih =>
    unfold Activity.run
    cases known : reach address with
    | none => exact .here running
    | some reason =>
      refine .tick running reason fun t moved now => ?_
      have rest := ih reason now
      rw [moved] at rest
      exact rest

end Workshop

namespace Schedule

open Workshop (Move)

variable (d : Dispatcher) (size : Nat)

/-- A schedule that shows the state of a workshop after some run. -/
def Shown (c : Schedule World) : Prop :=
  ∃ s : Workshop, s.Run d size ∧ c.state = s.world ∧ c.pool = s.jobs d

variable {d size} {c : Schedule World}

theorem shown_start (world : World) : Shown d size (.start world (.ofSize size)) := by
  refine ⟨⟨world, .idle size⟩, .start world, rfl, ?_⟩
  simp [start, Workshop.jobs, Shift.idle, Pool.ofSize, Pool.map, Worker.map]

namespace Shown

/-- What happens beside the pool is of no account. -/
theorem elsewhere {b : Schedule World} (shown : Shown d size c) (same : b.pool = c.pool) :
    Shown d size b := by
  obtain ⟨s, run, -, pool⟩ := shown
  exact ⟨s.step d (.elsewhere b.state), .step _ run, rfl, same.trans pool⟩

theorem submit (shown : Shown d size c) {id : SessionId} {m : Message} {job : Dispatch.Job}
    (dispatched : d.dispatch c.state.sessions id m = some job) :
    Shown d size (c.submit job.1 job.2) := by
  obtain ⟨s, run, state, pool⟩ := shown
  have jobs := Workshop.jobs_dispatch (d := d) (s := s) id m
  rw [state] at dispatched
  rw [dispatched, ← pool] at jobs
  exact ⟨_, .step (.dispatch id m) run, state, jobs.symm⟩

theorem started (shown : Shown d size c) (w : Nat) :
    Shown d size { c with pool := c.pool.start w } := by
  obtain ⟨s, run, state, pool⟩ := shown
  refine ⟨_, .step (.start w) run, state, ?_⟩
  rw [Workshop.jobs_start, ← pool]

section Running

variable {w : Nat} {job : Activity World (Aside World)}

theorem finished (shown : Shown d size c) (running : c.pool.running? w = some job)
    (ended : job.isOver = true) : Shown d size { c with pool := c.pool.finish w } := by
  obtain ⟨s, run, state, pool⟩ := shown
  rw [pool] at running
  refine ⟨_, .step (.finish w) run, state, ?_⟩
  rw [Workshop.jobs_finish running ended, ← pool]

theorem ran (shown : Shown d size c) (running : c.pool.running? w = some job)
    (reach : SocketAddress → Option (Option String)) : Shown d size { c with
      state := (job.run reach c.state).1
      pool := c.pool.change w (job.run reach c.state).2 } := by
  obtain ⟨s, run, state, pool⟩ := shown
  rw [pool] at running
  obtain ⟨moves, world, jobs⟩ := Workshop.comes_run reach running
  refine ⟨_, Workshop.run_steps run moves, ?_, ?_⟩
  · rw [world, ← state]
  · rw [jobs, ← state, ← pool]

/-- What a job waited for is there. -/
theorem resumed (shown : Shown d size c) (running : c.pool.running? w = some job)
    (reason : Option String) :
    Shown d size { c with pool := c.pool.change w (job.resume reason) } := by
  have ticked : job.tick reason c.state = (c.state, job.resume reason) →
      Shown d size { c with pool := c.pool.change w (job.resume reason) } := by
    intro ticks
    obtain ⟨s, run, state, pool⟩ := shown
    rw [pool] at running
    obtain ⟨world, jobs⟩ := Workshop.jobs_work running reason
    rw [← state, ticks] at world jobs
    rw [← pool] at jobs
    exact ⟨_, .step (.work w reason) run, world.symm, jobs.symm⟩
  have waits : job.resume reason = job →
      Shown d size { c with pool := c.pool.change w (job.resume reason) } := by
    intro same
    rw [same, Pool.change_self _ running]
    exact shown
  cases job with
  | finish | crash | act => exact waits rfl
  | pause | connect => exact ticked rfl

theorem work (shown : Shown d size c) (running : c.pool.running? w = some job)
    (reach : SocketAddress → Option (Option String)) (share : Nat) :
    Shown d size (c.work reach w share job) := by
  have ran := shown.ran running reach
  have runs := Pool.running?_change _ running (job.run reach c.state).2
  unfold Schedule.work
  cases result : job.run reach c.state with
  | mk world left =>
    rw [result] at ran runs
    cases left with
    | finish aside =>
      have gone := ran.finished runs rfl
      rw [Pool.finish_change] at gone
      cases aside with
      | none => exact gone
      | some activity => exact gone.elsewhere rfl
    | crash panic =>
      have gone := ran.finished runs rfl
      rw [Pool.finish_change] at gone
      exact gone
    | act | pause | connect =>
      simp only
      split <;> exact ran.elsewhere rfl

end Running

/-- An idle worker takes up jobs one after the other. -/
theorem exhaust (shown : Shown d size c) (reach : SocketAddress → Option (Option String))
    (w share : Nat) : Shown d size (c.exhaust reach w share) := by
  induction share generalizing c with
  | zero => exact shown.elsewhere rfl
  | succ share ih =>
    unfold Schedule.exhaust
    cases running : (c.pool.start w).running? w with
    | none => simpa [running] using shown
    | some job =>
      have started := shown.started w
      have worked := started.work running reach share
      simp only [running]
      split
      · exact worked
      · exact ih worked

theorem turn (shown : Shown d size c) (reach : SocketAddress → Option (Option String))
    (place : Place) : Shown d size (c.turn reach place) := by
  cases place with
  | worker w =>
    simp only [Schedule.turn, turnWorker]
    cases running : c.pool.running? w with
    | none => exact shown.exhaust reach w fullShare
    | some job =>
      have worked := shown.work running reach (fullShare - 1)
      simp only
      split
      · exact worked
      · exact worked.exhaust reach w _
  | beside n =>
    simp only [Schedule.turn, turnBeside]
    split
    · exact shown
    · split
      · exact shown.elsewhere rfl
      · apply shown.elsewhere
        unfold await
        split <;> rfl

theorem turns (shown : Shown d size c) (reach : SocketAddress → Option (Option String))
    (left fuel : Nat) : Shown d size (c.turns reach left fuel) := by
  induction fuel generalizing c left with
  | zero => exact shown
  | succ fuel ih =>
    unfold Schedule.turns
    split
    · rename_i left place rest due
      have next : Shown d size { c with due := rest } := shown.elsewhere rfl
      exact ih (next.turn reach place) left
    · split
      · exact shown
      · apply ih
        exact shown.elsewhere rfl

theorem settle (shown : Shown d size c) (reach : SocketAddress → Option (Option String)) :
    Shown d size (c.settle reach) :=
  shown.turns reach _ _

theorem rouse (shown : Shown d size c) (reason : Option String) (place : Place) :
    Shown d size (c.rouse reason place) := by
  have due : Shown d size { c with due := c.due ++ [place] } := shown.elsewhere rfl
  cases place with
  | worker w =>
    simp only [Schedule.rouse]
    split
    · rename_i job running
      exact due.resumed running reason
    · exact due
  | beside n => exact due.elsewhere rfl

theorem advance (shown : Shown d size c) (milliseconds : Nat) (look : Nat → World → World) :
    Shown d size (c.advance milliseconds look) := by
  have roused : ∀ (past : List (Nat × Place)) (b : Schedule World), Shown d size b →
      Shown d size (past.foldl (fun s entry => s.rouse none entry.2) b) := by
    intro past
    induction past with
    | nil => exact fun b shown => shown
    | cons first past ih => exact fun b shown => ih _ (shown.rouse none first.2)
  exact roused _ _ (shown.elsewhere rfl)

/-- What is in the pool of a schedule are requests in their order. -/
theorem inOrder (shown : Shown d size c) : ∃ s : Workshop, c.state = s.world ∧
    c.pool = s.jobs d ∧ s.InOrder d size := by
  obtain ⟨s, run, state, pool⟩ := shown
  exact ⟨s, state, pool, Workshop.inOrder_of_sound (Workshop.sound_of_run run)⟩

end Shown

end Schedule

namespace Service

variable {size : Nat} {s : Service} (reach : SocketAddress → Option (Option String))

/-- The pool of a server goes through a run of its dispatcher's requests. -/
def Shown (size : Nat) (s : Service) : Prop := s.schedule.Shown s.server.dispatcher size

theorem shown_start (server : Server) (remote : SocketAddress) (cores : Nat) :
    (start server remote cores).Shown (server.config.workerCount cores) :=
  Schedule.shown_start server.world

/-- The jobs of a connection are requests that the dispatcher takes. -/
theorem dispatch_of_step {d : Dispatcher} {c after : Connection} {t u : Sessions}
    {event : Connection.Event} {job : Dispatch.Job}
    (stepped : c.step d t event = (u, after, some job)) :
    ∃ m, d.dispatch u c.session m = some job := by
  rcases c.step_cases d t event with
    still | ⟨succeeds, wrote⟩ | ⟨m, left, -, read⟩ | ⟨leaving, left⟩
  · cases stepped.symm.trans still
  · cases stepped.symm.trans wrote
  · have same := stepped.symm.trans read
    simp only [Prod.mk.injEq] at same
    obtain ⟨sessions, -, taken⟩ := same
    have received : d.receive t c.session m = (u, some job) := Prod.ext sessions.symm taken.symm
    obtain ⟨rfl, request, session, known, rfl⟩ := Dispatcher.receive_eq_job received
    refine ⟨m, ?_⟩
    unfold Dispatcher.dispatch
    rw [request, known]
  · cases stepped.symm.trans left

theorem Shown.step (shown : s.Shown size) (c : Connection) (event : Connection.Event) :
    (s.step reach c event).1.Shown size := by
  cases stepped : c.step s.server.dispatcher s.schedule.state.sessions event with
  | mk t rest =>
    obtain ⟨after, job⟩ := rest
    have seen : Schedule.Shown s.server.dispatcher size
        { s.schedule with state := s.schedule.state.withSessions t } :=
      Schedule.Shown.elsewhere shown rfl
    simp only [Service.step, stepped]
    cases job with
    | none => exact seen.settle reach
    | some job =>
      obtain ⟨m, dispatched⟩ := dispatch_of_step stepped
      exact (seen.submit dispatched).settle reach

theorem Shown.readAll (shown : s.Shown size) (fuel : Nat) (c : Connection) :
    (s.readAll reach fuel c).1.Shown size := by
  induction fuel generalizing s c with
  | zero => exact shown
  | succ fuel ih =>
    unfold Service.readAll
    split
    · exact shown
    · exact shown
    · exact ih (shown.step reach c .read) _

theorem Shown.serve (shown : s.Shown size) (c : Connection) (unread : Nat) :
    (s.serve reach c unread).1.Shown size := by
  have read := shown.readAll reach (unread + 1) c
  have closed := read.step reach (s.readAll reach (unread + 1) c).2 .closed
  exact Schedule.Shown.elsewhere closed rfl

theorem Shown.greet (shown : s.Shown size) (held : Bytes) :
    (s.greet reach held).1.Shown size := by
  unfold Service.greet
  split
  · exact shown
  · simp only
    split
    · exact shown
    · apply Shown.serve
      exact Schedule.Shown.elsewhere shown rfl
  · exact shown
  · exact shown

/-- Whatever comes in, and when it ends, all of it is such a run. -/
theorem Shown.receive (shown : s.Shown size) (bs : Bytes) :
    (s.receive reach bs).1.Shown size := by
  unfold Service.receive
  split
  · exact shown.greet reach _
  · simp only
    split <;> exact shown.serve reach _ _
  · exact shown

theorem Shown.finish (shown : s.Shown size) : (s.finish reach).1.Shown size := by
  unfold Service.finish
  split
  · exact shown.serve reach _ _
  · exact shown
  · exact shown

end Service
end ClusterWire
