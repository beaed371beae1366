import ClusterWire.Proofs.Executor.Shift

/-! What the log of a pool tells: the order of the jobs of one worker, and what each job has
done. -/
namespace ClusterWire
namespace Shift

variable {J M : Type}

namespace Orderly

variable {size : Nat} {s : Shift J M} {front back : List (Nat × Mark M)} {n : Nat}

/-- What is noted of a job lies behind the ends of all earlier jobs of its worker. -/
theorem between (orderly : s.Orderly size) {m : Nat} {mark : Mark M}
    (split : s.log = front ++ (n, mark) :: back) (before : m < n) (same : s.home? m = s.home? n) :
    (m, .ended) ∈ front ∧ ∀ other, (m, other) ∉ back := by
  have log := orderly.log
  rw [split] at log
  have behind := List.pairwise_cons.mp (List.pairwise_append.mp log).2.1
  have later : ∀ other, (m, other) ∉ back := by
    intro other noted
    exact Nat.not_le_of_lt before ((behind.1 _ noted).1 same.symm)
  refine ⟨?_, later⟩
  have noted : (n, mark) ∈ s.log := by
    rw [split]
    exact List.mem_append_right _ List.mem_cons_self
  have done := mem_ended.mp (orderly.earlier _ noted m before same)
  rw [split] at done
  rcases List.mem_append.mp done with ahead | rest
  · exact ahead
  · rcases List.mem_cons.mp rest with equal | after
    · cases equal
      exact absurd before (Nat.lt_irrefl _)
    · exact absurd after (later _)

/-- What a job does lies between its start and its end. -/
theorem within (orderly : s.Orderly size) {deed : M}
    (split : s.log = front ++ (n, .did deed) :: back) :
    (n, .started) ∈ front ∧ (n, .ended) ∉ front := by
  have log := orderly.log
  rw [split] at log
  obtain ⟨-, behind, ahead⟩ := List.pairwise_append.mp log
  constructor
  · have noted : (n, .did deed) ∈ s.log := by
      rw [split]
      exact List.mem_append_right _ List.mem_cons_self
    obtain ⟨w, home⟩ := orderly.known _ noted
    have begun : n ∈ s.started := by
      have balance := orderly.begun n w home
      apply List.count_pos_iff.mp
      rcases orderly.marked _ noted with (done : n ∈ s.ended) | ⟨v, (runs : n ∈ s.runningAt v)⟩
      · have some := List.count_pos_iff.mpr done
        omega
      · have inside : n ∈ s.lineAt v := by
          rw [lineAt_eq]
          exact List.mem_append_left _ runs
        cases home.symm.trans (orderly.home v n inside)
        have some := List.count_pos_iff.mpr runs
        omega
    have start := mem_started.mp begun
    rw [split] at start
    rcases List.mem_append.mp start with before | rest
    · exact before
    · rcases List.mem_cons.mp rest with equal | after
      · cases equal
      · cases ((List.pairwise_cons.mp behind).1 _ after).2 rfl |>.2
  · intro done
    cases (ahead _ done _ List.mem_cons_self).2 rfl |>.1

/-- Jobs of one positive identity are dealt to one worker. -/
theorem home_eq (orderly : s.Orderly size) {m : Nat} {one other : Deal J}
    (first : s.dealt[m]? = some one) (second : s.dealt[n]? = some other)
    (identified : 0 < one.identity) (same : one.identity = other.identity) :
    s.home? m = s.home? n := by
  have ones := orderly.own one (List.mem_of_getElem? first) identified
  have others := orderly.own other (List.mem_of_getElem? second) (same ▸ identified)
  rw [home?, home?, first, second]
  rw [same, ← others] at ones
  exact congrArg some ones

end Orderly

/-! What is kept of each job, with what it has done so far, relative to the job that was
dealt. -/

section Keeps

variable (P : J → List M → J → Prop) {size : Nat} {s : Shift J M}

structure Holds (s : Shift J M) : Prop where
  line : ∀ w, ∀ t ∈ (s.pool.worker w).line, ∃ deal, s.dealt[t.number]? = some deal ∧
    P deal.job (s.deedsOf t.number) t.job
  ended : ∀ n ∈ s.ended, ∃ deal now, s.dealt[n]? = some deal ∧ P deal.job (s.deedsOf n) now

/-- Events that keep it. -/
def Keeps (s : Shift J M) : Event J M → Prop
  | .submit _ job => P job [] job
  | .change w job deeds => ∀ t, s.pool.running? w = some t → ∀ origin before,
    P origin before t.job → P origin (before ++ deeds) job
  | _ => True

variable {P}

theorem deedsOf_note {n m : Nat} {mark : Mark M} (none : mark.deed? = none) :
    (s.note n mark).deedsOf m = s.deedsOf m := by
  simp [deedsOf, note, none]

theorem deedsOf_deeds (n m : Nat) (deeds : List M) :
    deedsOf { s with log := s.log ++ deeds.map fun deed => (n, .did deed) } m =
      s.deedsOf m ++ if n = m then deeds else [] := by
  unfold deedsOf
  rw [List.filterMap_append, List.filterMap_map]
  congr 1
  change deeds.filterMap (fun deed => if n = m then some deed else none) = _
  split <;> simp

theorem mem_ended_deeds {n m : Nat} {deeds : List M} {pool : Pool (Ticket J)}
    (done : m ∈ ended { s with
      pool := pool
      log := s.log ++ deeds.map fun deed => (n, .did deed) }) : m ∈ s.ended := by
  rcases List.mem_append.mp (mem_ended.mp done) with noted | new
  · exact mem_ended.mpr noted
  · obtain ⟨deed, -, same⟩ := List.mem_map.mp new
    cases same

theorem Holds.start : Holds P (idle size : Shift J M) where
  line w t inside := by
    rw [idle, Pool.worker_ofSize] at inside
    cases inside
  ended n done := by cases done

theorem Holds.submit_step (holds : Holds P s) (orderly : s.Orderly size) (identity : Int64)
    {job : J} (keeps : P job [] job) : Holds P (s.step (.submit identity job)) := by
  obtain ⟨-, -, -, workers⟩ := submitted identity job orderly
  have old : ∀ (n : Nat) (deal : Deal J), s.dealt[n]? = some deal →
      (s.step (.submit identity job)).dealt[n]? = some deal := by
    intro n deal found
    exact (List.getElem?_append_left (List.getElem?_eq_some_iff.mp found).1).trans found
  have line : ∀ v, ∀ t ∈ ((s.step (.submit identity job)).pool.worker v).line,
      t ∈ (s.pool.worker v).line ∨ t = ⟨s.dealt.length, job⟩ := by
    intro v t inside
    rw [workers] at inside
    split at inside
    · simpa [Worker.line, or_assoc] using inside
    · exact .inl inside
  constructor
  · intro v t inside
    rcases line v t inside with before | rfl
    · obtain ⟨deal, found, kept⟩ := holds.line v t before
      exact ⟨deal, old _ _ found, kept⟩
    · refine ⟨⟨identity, s.pick identity job, job⟩, List.getElem?_concat_length .., ?_⟩
      have none : s.deedsOf s.dealt.length = [] := by
        refine List.filterMap_eq_nil_iff.mpr fun e noted => if_neg ?_
        rintro same
        exact unnoted orderly e.2 (same ▸ noted)
      have now : (s.step (.submit identity job)).deedsOf s.dealt.length = [] := none
      rw [now]
      exact keeps
  · intro n done
    obtain ⟨deal, now, found, kept⟩ := holds.ended n done
    exact ⟨deal, now, old _ _ found, kept⟩

theorem Holds.start_step (holds : Holds P s) (w : Nat) : Holds P (s.step (.start w)) := by
  simp only [step]
  cases next : (s.pool.worker w).next? with
  | none => exact holds
  | some t =>
    obtain ⟨rest, before, after⟩ := s.pool.start_spec next
    have line : ∀ v, ((s.pool.start w).worker v).line = (s.pool.worker v).line := by
      intro v
      rw [after]
      split
      · rename_i here
        rw [here, before]
        rfl
      · rfl
    constructor
    · intro v u inside
      obtain ⟨deal, found, kept⟩ := holds.line v u (line v ▸ inside)
      rw [deedsOf_note rfl]
      exact ⟨deal, found, kept⟩
    · intro n done
      rw [ended_note] at done
      have done : n ∈ s.ended ++ [] := done
      rw [List.append_nil] at done
      obtain ⟨deal, now, found, kept⟩ := holds.ended n done
      rw [deedsOf_note rfl]
      exact ⟨deal, now, found, kept⟩

theorem Holds.finish_step (holds : Holds P s) (w : Nat) : Holds P (s.step (.finish w)) := by
  simp only [step]
  cases runs : s.pool.running? w with
  | none => exact holds
  | some t =>
    obtain ⟨rest, before, -, after⟩ := s.pool.run_spec runs
    constructor
    · intro v u inside
      have there : u ∈ (s.pool.worker v).line := by
        have inside : u ∈ ((s.pool.finish w).worker v).line := inside
        rw [after] at inside
        split at inside
        · rename_i here
          rw [here, before]
          exact List.mem_cons_of_mem _ inside
        · exact inside
      obtain ⟨deal, found, kept⟩ := holds.line v u there
      rw [deedsOf_note rfl]
      exact ⟨deal, found, kept⟩
    · intro n done
      rw [ended_note] at done
      rw [deedsOf_note rfl]
      rcases List.mem_append.mp done with already | last
      · exact holds.ended n already
      · have last : n = t.number := by simpa [Mark.isEnded] using last
        obtain ⟨deal, found, kept⟩ := holds.line w t (Pool.mem_line_of_running _ runs)
        rw [last]
        exact ⟨deal, t.job, found, kept⟩

/-- Other jobs than the running one of a worker have other numbers. -/
theorem Orderly.other_number (orderly : s.Orderly size) {w v : Nat} {t u : Ticket J}
    {waiting : List (Ticket J)} (known : s.pool.worker w = ⟨some t, waiting⟩)
    (other : if v = w then u ∈ waiting else u ∈ (s.pool.worker v).line) : t.number ≠ u.number := by
  have line := (numbers known).1
  split at other
  · have sorted := orderly.sorted w
    rw [line] at sorted
    have less := (List.pairwise_cons.mp sorted).1 u.number (List.mem_map_of_mem other)
    exact Nat.ne_of_lt less
  · rename_i differ
    intro same
    have there := orderly.home v u.number (List.mem_map_of_mem other)
    rw [← same, orderly.home_of_head line] at there
    cases there
    exact differ rfl

theorem Holds.change_step (holds : Holds P s) (orderly : s.Orderly size) {w : Nat} {job : J}
    {deeds : List M} (keeps : s.Keeps P (.change w job deeds)) :
    Holds P (s.step (.change w job deeds)) := by
  simp only [step]
  cases runs : s.pool.running? w with
  | none => exact holds
  | some t =>
    obtain ⟨waiting, before, after, -⟩ := s.pool.run_spec runs
    have after := after ⟨t.number, job⟩
    have line := (Orderly.numbers before).1
    have deeds_eq : ∀ m, deedsOf (M := M) { s with
        pool := s.pool.change w ⟨t.number, job⟩
        log := s.log ++ deeds.map fun deed => (t.number, .did deed) } m =
        s.deedsOf m ++ if t.number = m then deeds else [] := fun m => deedsOf_deeds t.number m deeds
    constructor
    · intro v u inside
      change u ∈ ((s.pool.change w ⟨t.number, job⟩).worker v).line at inside
      rw [deeds_eq]
      rw [after] at inside
      by_cases here : v = w
      · rw [if_pos here] at inside
        rcases List.mem_cons.mp inside with rfl | waits
        · obtain ⟨deal, dealt, kept⟩ := holds.line w t (Pool.mem_line_of_running _ runs)
          rw [if_pos rfl]
          exact ⟨deal, dealt, keeps t runs _ _ kept⟩
        · have other := orderly.other_number before ((if_pos here).mpr waits)
          have there : u ∈ (s.pool.worker w).line := by
            rw [before]
            exact List.mem_cons_of_mem _ waits
          rw [if_neg other, List.append_nil]
          exact holds.line w u there
      · rw [if_neg here] at inside
        have other := orderly.other_number before ((if_neg here).mpr inside)
        rw [if_neg other, List.append_nil]
        exact holds.line v u inside
    · intro n done
      have already := mem_ended_deeds done
      have other : t.number ≠ n := by
        rintro rfl
        exact orderly.open_of_head line already
      rw [deeds_eq, if_neg other, List.append_nil]
      exact holds.ended n already

theorem Holds.step (holds : Holds P s) (orderly : s.Orderly size) {event : Event J M}
    (keeps : s.Keeps P event) : Holds P (s.step event) := by
  cases event with
  | submit identity job => exact holds.submit_step orderly identity keeps
  | start w => exact holds.start_step w
  | change w job deeds => exact holds.change_step orderly keeps
  | finish w => exact holds.finish_step w

/-- It is kept of every job that was dealt, wherever it is by now. -/
theorem Holds.of_dealt (holds : Holds P s) (orderly : s.Orderly size) {n : Nat} {deal : Deal J}
    (dealt : s.dealt[n]? = some deal) : ∃ now, P deal.job (s.deedsOf n) now := by
  have home : s.home? n = some deal.worker := by
    rw [home?, dealt]
    rfl
  have once := orderly.placed n deal.worker home
  by_cases inside : n ∈ s.lineAt deal.worker
  · obtain ⟨t, line, rfl⟩ := List.mem_map.mp inside
    obtain ⟨origin, found, kept⟩ := holds.line _ t line
    cases found.symm.trans dealt
    exact ⟨t.job, kept⟩
  · rw [List.count_eq_zero.mpr inside] at once
    obtain ⟨origin, now, found, kept⟩ := holds.ended n (List.count_pos_iff.mp (by omega))
    cases found.symm.trans dealt
    exact ⟨now, kept⟩

end Keeps

end Shift
end ClusterWire
