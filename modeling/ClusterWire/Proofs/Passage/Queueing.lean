import ClusterWire.Proofs.Passage.Crossing

/-! What the gateway queues on the link. A job puts its request there at most once, while it
runs, and of two jobs of one worker the earlier one does so first. -/
namespace ClusterWire

open Dispatch (Relay)

namespace Shift

variable {J M : Type} {size : Nat} {s : Shift J M}

theorem mem_log_step {e : Nat × Mark M} (noted : e ∈ s.log) (event : Event J M) :
    e ∈ (s.step event).log := by
  cases event with
  | submit => exact noted
  | start w | change w job deeds | finish w =>
    simp only [step]
    split
    · exact noted
    · exact List.mem_append_left _ noted

/-- The job that an event leaves on a worker as something new. -/
def moved? (s : Shift J M) : Event J M → Option (Ticket J)
  | .submit _ job => some ⟨s.dealt.length, job⟩
  | .change w job _ => (s.pool.running? w).map fun t => ⟨t.number, job⟩
  | .start _ | .finish _ => none

/-- No job comes to a worker when one of its own starts or leaves. -/
theorem mem_line_of_start {v w : Nat} {t : Ticket J}
    (listed : t ∈ ((s.step (.start v)).pool.worker w).line) : t ∈ (s.pool.worker w).line := by
  simp only [step] at listed
  cases next : (s.pool.worker v).next? with
  | none => rwa [next] at listed
  | some u =>
    obtain ⟨rest, before, after⟩ := s.pool.start_spec next
    rw [next] at listed
    change t ∈ ((s.pool.start v).worker w).line at listed
    rw [after] at listed
    split at listed
    · rename_i here
      rw [here, before]
      exact listed
    · exact listed

theorem mem_line_of_finish {v w : Nat} {t : Ticket J}
    (listed : t ∈ ((s.step (.finish v)).pool.worker w).line) : t ∈ (s.pool.worker w).line := by
  simp only [step] at listed
  cases runs : s.pool.running? v with
  | none => rwa [runs] at listed
  | some u =>
    obtain ⟨rest, before, -, after⟩ := s.pool.run_spec runs
    rw [runs] at listed
    change t ∈ ((s.pool.finish v).worker w).line at listed
    rw [after] at listed
    split at listed
    · rename_i here
      rw [here, before]
      exact List.mem_cons_of_mem _ listed
    · exact listed

/-- The job that a worker runs goes on under its number, and all others stay as they are. -/
theorem mem_line_of_change (orderly : s.Orderly size) {v w : Nat} {u t : Ticket J} {job : J}
    (runs : s.pool.running? v = some u)
    (listed : t ∈ ((s.pool.change v ⟨u.number, job⟩).worker w).line) :
    t = ⟨u.number, job⟩ ∨ t ∈ (s.pool.worker w).line ∧ u.number ≠ t.number := by
  obtain ⟨waiting, before, after, -⟩ := s.pool.run_spec runs
  rw [after] at listed
  by_cases here : w = v
  · rw [if_pos here] at listed
    rcases List.mem_cons.mp listed with rfl | waits
    · exact .inl rfl
    · refine .inr ⟨?_, orderly.other_number before ((if_pos here).mpr waits)⟩
      rw [here, before]
      exact List.mem_cons_of_mem _ waits
  · rw [if_neg here] at listed
    exact .inr ⟨listed, orderly.other_number before ((if_neg here).mpr listed)⟩

theorem mem_line_of_submit (orderly : s.Orderly size) {identity : Int64} {job : J} {w : Nat}
    {t : Ticket J} (listed : t ∈ ((s.step (.submit identity job)).pool.worker w).line) :
    t = ⟨s.dealt.length, job⟩ ∨ t ∈ (s.pool.worker w).line ∧ s.dealt.length ≠ t.number := by
  obtain ⟨-, -, -, workers⟩ := submitted identity job orderly
  have before : t ∈ (s.pool.worker w).line ∨ t = ⟨s.dealt.length, job⟩ := by
    rw [workers] at listed
    split at listed
    · simpa [Worker.line, or_assoc] using listed
    · exact .inl listed
  rcases before with there | new
  · have earlier := lt_of_home (orderly.home w _ (List.mem_map_of_mem there))
    exact .inr ⟨there, (Nat.ne_of_lt earlier).symm⟩
  · exact .inl new

/-- Of the jobs on the workers one at most is new, and all others were there under numbers of
their own. -/
theorem mem_line_step (orderly : s.Orderly size) {event : Event J M} {w : Nat} {t : Ticket J}
    (listed : t ∈ ((s.step event).pool.worker w).line) : s.moved? event = some t ∨
      t ∈ (s.pool.worker w).line ∧ ∀ u, s.moved? event = some u → u.number ≠ t.number := by
  cases event with
  | submit identity job =>
    rcases mem_line_of_submit orderly listed with rfl | ⟨there, other⟩
    · exact .inl rfl
    · exact .inr ⟨there, by rintro u ⟨rfl⟩; exact other⟩
  | start v => exact .inr ⟨mem_line_of_start listed, by rintro u ⟨⟩⟩
  | finish v => exact .inr ⟨mem_line_of_finish listed, by rintro u ⟨⟩⟩
  | change v job deeds =>
    simp only [step, moved?] at listed ⊢
    cases runs : s.pool.running? v with
    | none =>
      rw [runs] at listed
      exact .inr ⟨listed, by rintro u ⟨⟩⟩
    | some u =>
      rw [runs] at listed
      rcases mem_line_of_change orderly runs listed with rfl | ⟨there, other⟩
      · exact .inl rfl
      · exact .inr ⟨there, by rintro _ ⟨rfl⟩; exact other⟩

theorem started_of_running (orderly : s.Orderly size) {w : Nat} {t : Ticket J}
    (running : s.pool.running? w = some t) : t.number ∈ s.started := by
  obtain ⟨waiting, known, -⟩ := s.pool.run_spec running
  obtain ⟨line, runs⟩ := Orderly.numbers known
  have balance := orderly.begun t.number w (orderly.home_of_head line)
  rw [runs] at balance
  have once : ((some t).toList.map (·.number)).count t.number = 1 := by simp
  rw [once] at balance
  exact List.count_pos_iff.mp (by omega)

end Shift

namespace Workshop

variable {d : Dispatcher} {r : Relay} {size : Nat} {s : Workshop}

theorem request?_step {n : Nat} {q : Request} (asked : s.request? n = some q) (move : Move) :
    (s.step d move).request? n = some q := by
  obtain ⟨deal, dealt, rfl⟩ := Option.map_eq_some_iff.mp asked
  exact Option.map_eq_some_iff.mpr ⟨deal, dealt_kept dealt move, rfl⟩

theorem mem_started_step {n : Nat} (begun : n ∈ s.shift.started) (move : Move) :
    n ∈ (s.step d move).shift.started := by
  have noted := Shift.mem_started.mp begun
  simp only [step]
  cases s.event? d move with
  | none => exact begun
  | some event => exact Shift.mem_started.mpr (Shift.mem_log_step noted event)

theorem home?_step (orderly : s.shift.Orderly size) {n : Nat} (begun : n ∈ s.shift.started)
    (move : Move) : (s.step d move).shift.home? n = s.shift.home? n := by
  obtain ⟨w, home⟩ := orderly.known _ (Shift.mem_started.mp begun)
  exact (home?_steps home [move]).trans home.symm

/-- A job that has started and has no more to put on a link keeps it so. -/
theorem settled_step (orderly : s.shift.Orderly size) {n : Nat} (begun : n ∈ s.shift.started)
    (settled : ∀ w, ∀ t ∈ (s.shift.pool.worker w).line, t.number = n → t.job.stage.Settled)
    (move : Move) : ∀ w, ∀ t ∈ ((s.step d move).shift.pool.worker w).line, t.number = n →
      t.job.stage.Settled := by
  intro w t listed own
  simp only [step] at listed
  cases occurs : s.event? d move with
  | none =>
    rw [occurs] at listed
    exact settled w t listed own
  | some event =>
    rw [occurs] at listed
    rcases Shift.mem_line_step orderly listed with new | ⟨there, -⟩
    · cases happens_of_event occurs with
      | dispatch job =>
        cases new
        have own : s.shift.dealt.length = n := own
        exact absurd begun (own ▸ Shift.not_mem_started orderly)
      | @work v u reason running =>
        simp only [Shift.moved?, running, Option.map_some, Option.some.injEq] at new
        subst new
        exact Duty.settled_work d (settled v u (Pool.mem_line_of_running _ running) own) reason _
      | start | finish => cases new
    · exact settled w t there own

theorem author?_eq_some {move : Move} {n : Nat} (author : s.author? move = some n) :
    ∃ w reason t a, move = .work w reason ∧ s.shift.pool.running? w = some t ∧ t.number = n ∧
      t.job.stage = .forwarding a := by
  unfold author? at author
  split at author
  · rename_i w reason
    split at author
    · rename_i m q a running
      cases author
      exact ⟨w, reason, _, a, rfl, running, rfl, rfl⟩
    · cases author
  · cases author

/-- What holds of the messages that were queued on a link by the jobs whose numbers they bear. -/
structure Signed (r : Relay) (s : Workshop) (taken : List (Option Nat × Message)) : Prop where
  begun : ∀ n m, (some n, m) ∈ taken → n ∈ s.shift.started
  settled : ∀ n m, (some n, m) ∈ taken → ∀ w, ∀ t ∈ (s.shift.pool.worker w).line,
    t.number = n → t.job.stage.Settled
  names : ∀ n m, (some n, m) ∈ taken → ∃ q, s.request? n = some q ∧ q.GoesAs r m
  ascending : taken.Pairwise fun e f => ∀ a b, e.1 = some a → f.1 = some b →
    s.shift.home? a = s.shift.home? b → a < b

variable {taken : List (Option Nat × Message)}

theorem Signed.step (signed : s.Signed r taken) (orderly : s.shift.Orderly size) (move : Move) :
    (s.step d move).Signed r taken where
  begun n m queued := mem_started_step (signed.begun n m queued) move
  settled n m queued := settled_step orderly (signed.begun n m queued)
    (signed.settled n m queued) move
  names n m queued := by
    obtain ⟨q, asked, goes⟩ := signed.names n m queued
    exact ⟨q, request?_step asked move, goes⟩
  ascending := by
    refine signed.ascending.imp_of_mem ?_
    rintro ⟨-, m⟩ ⟨-, m'⟩ first second before a b rfl rfl same
    rw [home?_step orderly (signed.begun a m first),
      home?_step orderly (signed.begun b m' second)] at same
    exact before a b rfl rfl same

/-- What others queue bears no number. -/
theorem Signed.unsigned (signed : s.Signed r taken) (new : List Message) :
    s.Signed r (taken ++ new.map (none, ·)) := by
  have old : ∀ n m, (some n, m) ∈ taken ++ new.map (none, ·) → (some n, m) ∈ taken := by
    intro n m queued
    rcases List.mem_append.mp queued with before | later
    · exact before
    · obtain ⟨_, -, same⟩ := List.mem_map.mp later
      cases same
  refine ⟨fun n m queued => signed.begun n m (old n m queued), fun n m queued =>
    signed.settled n m (old n m queued), fun n m queued => signed.names n m (old n m queued), ?_⟩
  refine List.pairwise_append.mpr ⟨signed.ascending, ?_, ?_⟩
  · refine List.pairwise_map.mpr (List.pairwise_of_forall ?_)
    rintro e f a b ⟨⟩
  · intro e _ f later a b _ own
    obtain ⟨_, -, rfl⟩ := List.mem_map.mp later
    cases own

/-- Of the jobs of one worker that have put their requests on the link, all are earlier than one
that still forwards its own. -/
theorem Signed.before (signed : s.Signed r taken) (orderly : s.shift.Orderly size) {w a : Nat}
    {t : Ticket Duty} (running : s.shift.pool.running? w = some t)
    (unsettled : ¬ t.job.stage.Settled) {m : Message} (queued : (some a, m) ∈ taken)
    (same : s.shift.home? a = s.shift.home? t.number) : a < t.number := by
  obtain ⟨waiting, known, -⟩ := s.shift.pool.run_spec running
  have head := (Shift.Orderly.numbers known).1
  have listed := Pool.mem_line_of_running _ running
  rcases Nat.lt_trichotomy a t.number with before | equal | behind
  · exact before
  · exact absurd (signed.settled a m queued w t listed equal.symm) unsettled
  · have noted := Shift.mem_started.mp (signed.begun a m queued)
    exact absurd (orderly.earlier _ noted _ behind same.symm) (orderly.open_of_head head)

/-- A worker has a job's request on the link, which is what it has it for. -/
theorem Signed.signing (signed : s.Signed r taken) (sound : s.Sound d size) {w : Nat}
    {t : Ticket Duty} (running : s.shift.pool.running? w = some t)
    (unsettled : ¬ t.job.stage.Settled) {reason : Option String} {m : Message}
    (goes : t.job.request.GoesAs r m)
    (settles : (t.job.work d reason s.world).2.stage.Settled) :
    (s.step d (.work w reason)).Signed r (taken ++ [(some t.number, m)]) := by
  have orderly := sound.orderly
  have asked := (request_of_running sound running).1
  have begun := Shift.started_of_running orderly running
  have later := signed.step (d := d) orderly (.work w reason)
  have new : ∀ {n m'}, (some n, m') ∈ taken ++ [(some t.number, m)] →
      (some n, m') ∈ taken ∨ n = t.number ∧ m' = m := by
    intro n m' queued
    rcases List.mem_append.mp queued with before | last
    · exact .inl before
    · cases List.mem_singleton.mp last
      exact .inr ⟨rfl, rfl⟩
  constructor
  · intro n m' queued
    rcases new queued with before | ⟨rfl, rfl⟩
    · exact later.begun n m' before
    · exact mem_started_step begun _
  · intro n m' queued v u listed own
    rcases new queued with before | ⟨rfl, rfl⟩
    · exact later.settled n m' before v u listed own
    · simp only [Workshop.step, event?, running, Option.map_some, Option.elim_some] at listed
      rcases Shift.mem_line_step orderly listed with moved | ⟨there, other⟩
      · simp only [Shift.moved?, running, Option.map_some, Option.some.injEq] at moved
        subst moved
        exact settles
      · simp only [Shift.moved?, running, Option.map_some, Option.some.injEq] at other
        have differ := other _ rfl
        exact absurd own.symm differ
  · intro n m' queued
    rcases new queued with before | ⟨rfl, rfl⟩
    · exact later.names n m' before
    · exact ⟨_, request?_step asked _, goes⟩
  · refine List.pairwise_append.mpr ⟨later.ascending, List.pairwise_singleton _ _, ?_⟩
    rintro ⟨-, m'⟩ queued f last a b rfl own same
    rw [List.mem_singleton.mp last] at own
    cases own
    rw [home?_step orderly (signed.begun a m' queued), home?_step orderly begun] at same
    exact signed.before orderly running unsettled queued same

end Workshop

namespace Crossing

variable {x : Route} {c : Crossing} {size width : Nat}

/-- A move of the gateway adds to what waits on the link; one that relays a request adds at most
what this goes on as. -/
theorem gateway_adds (run : Run x size width c) {o : Outbox} (known : c.outbox? x = some o)
    {move : Workshop.Move} (admits : c.Admits x (.gateway move)) : ∃ new,
    (c.gate.step x.gateway move).world.peers.outbox? x.link = some (o.adding new) ∧
      ((c.gate.author? move = none ∨ new = []) ∨ ∃ w reason t m, move = .work w reason ∧
        c.gate.shift.pool.running? w = some t ∧ c.gate.author? move = some t.number ∧
        new = [m] ∧ t.job.request.GoesAs x.relay m ∧ ¬ t.job.stage.Settled ∧
        (t.job.work x.gateway reason c.gate.world).2.stage.Settled) := by
  cases author : c.gate.author? move with
  | none =>
    obtain ⟨new, added⟩ := admits author o known
    exact ⟨new, added, .inl (.inl rfl)⟩
  | some n =>
    obtain ⟨w, reason, t, a, rfl, running, rfl, forwarding⟩ := Workshop.author?_eq_some author
    have holds := Workshop.relaying_of_run x.relays (gate_of_run run)
    obtain ⟨deal, -, -, -, relays⟩ := holds.line w t (Pool.mem_line_of_running _ running)
    obtain ⟨new, added, one⟩ := Duty.work_forwarding relays forwarding known reason
    refine ⟨new, ?_, ?_⟩
    · simp only [Workshop.step, Workshop.worldAfter, running]
      exact added
    · rcases one with none | ⟨m, one, goes, settles⟩
      · exact .inl (.inr none)
      · refine .inr ⟨w, reason, t, m, rfl, running, rfl, one, goes, ?_, settles⟩
        rw [forwarding]
        exact id

theorem outbox?_afterLink {o : Outbox} (known : c.outbox? x = some o) (event : LinkEvent)
    (torn : Nat) : ∃ o', (c.afterLink x event torn).outbox? x = some o' ∧
      o.Steps (c.puts? x event) o' := by
  obtain ⟨o', behind, steps⟩ := Board.steps_step x.relay.settings.serializers
    x.relay.settings.link (b := c.gate.world.board) known event
  refine ⟨o', behind, ?_⟩
  rw [puts?, known]
  exact steps

/-- The link stays known at the gateway. -/
theorem outbox?_of_run (run : Run x size width c) : ∃ o, c.outbox? x = some o := by
  induction run with
  | start opening => exact ⟨_, opening.link⟩
  | step move run admits ih =>
    obtain ⟨o, known⟩ := ih
    cases move with
    | gateway move =>
      obtain ⟨new, added, -⟩ := gateway_adds run known admits
      exact ⟨_, added⟩
    | link event torn =>
      obtain ⟨o', behind, -⟩ := outbox?_afterLink known event torn
      exact ⟨o', behind⟩
    | deliver | hangUp | reader | backend => exact ⟨o, known⟩

theorem waiting_eq {o : Outbox} (known : c.outbox? x = some o) : c.waiting x = o.queue := by
  rw [waiting, known]
  rfl

/-- What a move of the gateway queues is recorded. -/
theorem taken_afterGateway {o : Outbox} (known : c.outbox? x = some o) {move : Workshop.Move}
    {new : List Message}
    (added : (c.gate.step x.gateway move).world.peers.outbox? x.link = some (o.adding new)) :
    (c.afterGateway x move).taken = c.taken ++ new.map (c.gate.author? move, ·) := by
  have later : waiting x { c with gate := c.gate.step x.gateway move } =
      (o.adding new).queue := waiting_eq added
  simp only [afterGateway, later, waiting_eq known, Outbox.adding, List.drop_left]

theorem signed_of_run (run : Run x size width c) : c.gate.Signed x.relay c.taken := by
  induction run with
  | start opening =>
    rw [opening.record.1]
    exact ⟨by simp, by simp, by simp, .nil⟩
  | @step c move run admits ih =>
    have sound := Workshop.sound_of_run (gate_of_run run)
    cases move with
    | gateway move =>
      obtain ⟨o, known⟩ := outbox?_of_run run
      obtain ⟨new, added, posts⟩ := gateway_adds run known admits
      have taken := taken_afterGateway known added
      change Workshop.Signed _ (c.gate.step x.gateway move) (c.afterGateway x move).taken
      rw [taken]
      rcases posts with (other | rfl) |
        ⟨w, reason, t, m, rfl, running, author, rfl, goes, unsettled, settles⟩
      · rw [other]
        exact (ih.step sound.orderly move).unsigned new
      · rw [List.map_nil, List.append_nil]
        exact ih.step sound.orderly move
      · rw [author]
        exact ih.signing sound running unsettled goes settles
    | link event torn => exact ih.step sound.orderly _
    | deliver | hangUp | reader | backend => exact ih

end Crossing
end ClusterWire
