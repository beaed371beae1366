import ClusterWire.Proofs.Executor.Workers

/-! Jobs on a pool, by the order in which they were dealt out. Each is noted when it starts,
when it does something and when it ends; workers take turns in any order. -/
namespace ClusterWire

/-- A job under its number. -/
structure Ticket (J : Type) where
  number : Nat
  job : J

/-- A job as it was dealt out. -/
structure Deal (J : Type) where
  identity : Int64
  worker : Nat
  job : J

inductive Mark (M : Type) where
  | started
  | did (deed : M)
  | ended

namespace Mark

variable {M : Type}

def isStarted : Mark M → Bool
  | started => true
  | _ => false

def isEnded : Mark M → Bool
  | ended => true
  | _ => false

theorem eq_started {mark : Mark M} (starts : mark.isStarted = true) : mark = .started := by
  cases mark with
  | started => rfl
  | did | ended => cases starts

theorem eq_ended {mark : Mark M} (ends : mark.isEnded = true) : mark = .ended := by
  cases mark with
  | ended => rfl
  | started | did => cases ends

def deed? : Mark M → Option M
  | did deed => some deed
  | _ => none

end Mark

/-- A pool at work: the jobs that were dealt out, each with the number of its place in
`dealt`, and what was noted of them. -/
structure Shift (J M : Type) where
  pool : Pool (Ticket J)
  dealt : List (Deal J) := []
  log : List (Nat × Mark M) := []

namespace Shift

variable {J M : Type}

inductive Event (J M : Type) where
  | submit (identity : Int64) (job : J)
  | start (w : Nat)
  | change (w : Nat) (job : J) (deeds : List M)
  | finish (w : Nat)

def note (s : Shift J M) (n : Nat) (mark : Mark M) : Shift J M :=
  { s with log := s.log ++ [(n, mark)] }

/-- The worker that a job is dealt to next. -/
def pick (s : Shift J M) (identity : Int64) (job : J) : Nat :=
  (s.pool.submit identity ⟨s.dealt.length, job⟩).2

def step (s : Shift J M) : Event J M → Shift J M
  | .submit identity job =>
    { s with
      pool := (s.pool.submit identity ⟨s.dealt.length, job⟩).1
      dealt := s.dealt ++ [⟨identity, s.pick identity job, job⟩] }
  | .start w =>
    match (s.pool.worker w).next? with
    | none => s
    | some t => { s with pool := s.pool.start w }.note t.number .started
  | .change w job deeds =>
    match s.pool.running? w with
    | none => s
    | some t =>
      { s with
        pool := s.pool.change w ⟨t.number, job⟩
        log := s.log ++ deeds.map fun deed => (t.number, .did deed) }
  | .finish w =>
    match s.pool.running? w with
    | none => s
    | some t => { s with pool := s.pool.finish w }.note t.number .ended

/-- A pool that no job was dealt to yet. -/
def idle (size : Nat) : Shift J M := { pool := .ofSize size }

/-- The job that an event deals out. -/
def deals (s : Shift J M) : Event J M → List (Deal J)
  | .submit identity job => [⟨identity, s.pick identity job, job⟩]
  | _ => []

theorem dealt_step (s : Shift J M) (event : Event J M) :
    (s.step event).dealt = s.dealt ++ s.deals event := by
  cases event with
  | submit => rfl
  | start | change | finish =>
    rw [step]
    split <;> exact (List.append_nil _).symm

def lineAt (s : Shift J M) (w : Nat) : List Nat := (s.pool.worker w).line.map (·.number)

def runningAt (s : Shift J M) (w : Nat) : List Nat :=
  (s.pool.worker w).running.toList.map (·.number)

def waitingAt (s : Shift J M) (w : Nat) : List Nat := (s.pool.worker w).waiting.map (·.number)

def started (s : Shift J M) : List Nat := (s.log.filter (·.2.isStarted)).map (·.1)

def ended (s : Shift J M) : List Nat := (s.log.filter (·.2.isEnded)).map (·.1)

/-- What a job has done so far. -/
def deedsOf (s : Shift J M) (n : Nat) : List M :=
  s.log.filterMap fun e => if e.1 = n then e.2.deed? else none

/-- The worker that a job was dealt to. -/
def home? (s : Shift J M) (n : Nat) : Option Nat := (s.dealt[n]?).map (·.worker)

/-- Two marks as they follow on each other. Of the jobs of one worker, what comes later is of no
earlier job; a job's first mark is its start, its last mark its end. -/
def Follows (s : Shift J M) (a b : Nat × Mark M) : Prop :=
  (s.home? a.1 = s.home? b.1 → a.1 ≤ b.1) ∧
  (a.1 = b.1 → a.2.isEnded = false ∧ b.2.isStarted = false)

/-- What holds of a pool at work at every moment. -/
structure Orderly (size : Nat) (s : Shift J M) : Prop where
  size : s.pool.size = max size 1
  inside : ∀ deal ∈ s.dealt, deal.worker < s.pool.size
  own : ∀ deal ∈ s.dealt, 0 < deal.identity →
    deal.worker = deal.identity.toInt.toNat % s.pool.size
  home : ∀ w, ∀ n ∈ s.lineAt w, s.home? n = some w
  sorted : ∀ w, (s.lineAt w).Pairwise (· < ·)
  placed : ∀ n w, s.home? n = some w → (s.lineAt w).count n + s.ended.count n = 1
  begun : ∀ n w, s.home? n = some w →
    s.started.count n = (s.runningAt w).count n + s.ended.count n
  marked : ∀ e ∈ s.log, e.1 ∈ s.ended ∨ ∃ w, e.1 ∈ s.runningAt w
  known : ∀ e ∈ s.log, ∃ w, s.home? e.1 = some w
  earlier : ∀ e ∈ s.log, ∀ n < e.1, s.home? n = s.home? e.1 → n ∈ s.ended
  log : s.log.Pairwise s.Follows

theorem started_note (s : Shift J M) (n : Nat) (mark : Mark M) :
    (s.note n mark).started = s.started ++ if mark.isStarted then [n] else [] := by
  simp only [started, note, List.filter_append, List.map_append, List.filter_cons, List.filter_nil]
  split <;> rfl

theorem ended_note (s : Shift J M) (n : Nat) (mark : Mark M) :
    (s.note n mark).ended = s.ended ++ if mark.isEnded then [n] else [] := by
  simp only [ended, note, List.filter_append, List.map_append, List.filter_cons, List.filter_nil]
  split <;> rfl

theorem mem_ended {s : Shift J M} {n : Nat} : n ∈ s.ended ↔ (n, .ended) ∈ s.log := by
  constructor
  · intro done
    obtain ⟨⟨m, mark⟩, listed, rfl⟩ := List.mem_map.mp done
    obtain ⟨noted, ends⟩ := List.mem_filter.mp listed
    cases Mark.eq_ended ends
    exact noted
  · intro noted
    exact List.mem_map.mpr ⟨_, List.mem_filter.mpr ⟨noted, rfl⟩, rfl⟩

theorem mem_started {s : Shift J M} {n : Nat} : n ∈ s.started ↔ (n, .started) ∈ s.log := by
  constructor
  · intro begun
    obtain ⟨⟨m, mark⟩, listed, rfl⟩ := List.mem_map.mp begun
    obtain ⟨noted, starts⟩ := List.mem_filter.mp listed
    cases Mark.eq_started starts
    exact noted
  · intro noted
    exact List.mem_map.mpr ⟨_, List.mem_filter.mpr ⟨noted, rfl⟩, rfl⟩

theorem lineAt_eq (s : Shift J M) (w : Nat) : s.lineAt w = s.runningAt w ++ s.waitingAt w := by
  simp [lineAt, Worker.line, runningAt, waitingAt]

theorem lt_of_home {s : Shift J M} {n w : Nat} (home : s.home? n = some w) :
    n < s.dealt.length := by
  obtain ⟨deal, found, -⟩ := Option.map_eq_some_iff.mp home
  exact (List.getElem?_eq_some_iff.mp found).1

namespace Orderly

variable {size : Nat} {s : Shift J M}

theorem start : (idle size : Shift J M).Orderly size := by
  have line : ∀ w, (idle size : Shift J M).lineAt w = [] := by
    intro w
    rw [lineAt, idle, Pool.worker_ofSize]
    rfl
  constructor
  · exact Pool.size_ofSize size
  · rintro deal ⟨⟩
  · rintro deal ⟨⟩
  · intro w n listed
    rw [line] at listed
    cases listed
  · intro w
    rw [line]
    exact .nil
  · rintro n w ⟨⟩
  · rintro n w ⟨⟩
  · rintro e ⟨⟩
  · rintro e ⟨⟩
  · rintro e ⟨⟩
  · exact .nil

/-- Only the numbers on the workers, the deals and the log matter. -/
theorem of_same {t : Shift J M} (orderly : s.Orderly size) (sizes : t.pool.size = s.pool.size)
    (lines : t.lineAt = s.lineAt) (running : t.runningAt = s.runningAt) (deals : t.dealt = s.dealt)
    (log : t.log = s.log) : t.Orderly size := by
  have home : t.home? = s.home? := by
    funext n
    rw [home?, deals, home?]
  have follows : t.Follows = s.Follows := by
    funext a b
    rw [Follows, home, Follows]
  have ended : t.ended = s.ended := by rw [Shift.ended, log, Shift.ended]
  have started : t.started = s.started := by rw [Shift.started, log, Shift.started]
  constructor
  · rw [sizes]
    exact orderly.size
  · rw [deals, sizes]
    exact orderly.inside
  · rw [deals, sizes]
    exact orderly.own
  · rw [lines, home]
    exact orderly.home
  · rw [lines]
    exact orderly.sorted
  · rw [lines, home, ended]
    exact orderly.placed
  · rw [running, home, ended, started]
    exact orderly.begun
  · rw [running, log, ended]
    exact orderly.marked
  · rw [log, home]
    exact orderly.known
  · rw [log, home, ended]
    exact orderly.earlier
  · rw [log, follows]
    exact orderly.log

/-- The running job is the first one of its line. -/
theorem eq_of_running {n m w : Nat} {rest : List Nat} (head : s.lineAt w = n :: rest)
    (running : m ∈ s.runningAt w) : m = n := by
  rw [lineAt_eq] at head
  unfold runningAt at head running
  cases here : (s.pool.worker w).running with
  | none => simp [here] at running
  | some t =>
    simp only [here, Option.toList_some, List.map_cons, List.map_nil, List.mem_singleton] at running
    simp only [here, Option.toList_some, List.map_cons, List.map_nil, List.cons_append,
      List.nil_append, List.cons.injEq] at head
    exact running.trans head.1

section Head

variable {n w : Nat} {rest : List Nat}

theorem home_of_head (orderly : s.Orderly size) (head : s.lineAt w = n :: rest) :
    s.home? n = some w := by
  apply orderly.home
  rw [head]
  exact List.mem_cons_self

/-- The first job of a line has not ended. -/
theorem open_of_head (orderly : s.Orderly size) (head : s.lineAt w = n :: rest) :
    n ∉ s.ended := by
  have once := orderly.placed n w (orderly.home_of_head head)
  rw [head, List.count_cons_self] at once
  intro done
  have again := List.count_pos_iff.mpr done
  omega

/-- Of the jobs of its worker, those before the first one of the line have ended. -/
theorem earlier_head (orderly : s.Orderly size) (head : s.lineAt w = n :: rest) :
    ∀ m < n, s.home? m = s.home? n → m ∈ s.ended := by
  intro m before same
  have once := orderly.placed m w (same.trans (orderly.home_of_head head))
  have sorted := orderly.sorted w
  rw [head, List.pairwise_cons] at sorted
  have absent : m ∉ s.lineAt w := by
    rw [head]
    intro inside
    rcases List.mem_cons.mp inside with rfl | inside
    · exact Nat.lt_irrefl _ before
    · exact Nat.lt_asymm before (sorted.1 m inside)
  rw [List.count_eq_zero.mpr absent] at once
  exact List.count_pos_iff.mp (by omega)

/-- What is noted of the first job of a line follows on all that was noted before. -/
theorem follows_head (orderly : s.Orderly size) (head : s.lineAt w = n :: rest) {mark : Mark M}
    (idle : mark.isStarted = true → s.runningAt w = []) : ∀ e ∈ s.log, s.Follows e (n, mark) := by
  intro e noted
  have opened := orderly.open_of_head head
  constructor
  · intro same
    apply Nat.le_of_not_lt
    intro before
    exact opened (orderly.earlier e noted n before same.symm)
  · intro same
    have same : e.1 = n := same
    constructor
    · apply Bool.eq_false_iff.mpr
      intro done
      exact opened (List.mem_map.mpr ⟨e, List.mem_filter.mpr ⟨noted, done⟩, same⟩)
    · apply Bool.eq_false_iff.mpr
      intro starts
      rcases orderly.marked e noted with done | ⟨v, running⟩
      · rw [same] at done
        exact opened done
      · have inside : e.1 ∈ s.lineAt v := by
          rw [lineAt_eq]
          exact List.mem_append_left _ running
        have there := orderly.home v e.1 inside
        rw [same, orderly.home_of_head head] at there
        cases there
        rw [idle starts] at running
        cases running

end Head

end Orderly

/-- Something is noted of the first job of a line. Before its start the worker is idle; with its
end it leaves the worker. -/
structure Notes (s t : Shift J M) (n w : Nat) (rest : List Nat) (mark : Mark M) : Prop where
  head : s.lineAt w = n :: rest
  before : s.runningAt w = if mark.isStarted then [] else [n]
  line : t.lineAt w = if mark.isEnded then rest else n :: rest
  running : t.runningAt w = if mark.isEnded then [] else [n]
  others : ∀ v, v ≠ w → t.lineAt v = s.lineAt v ∧ t.runningAt v = s.runningAt v
  size : t.pool.size = s.pool.size
  dealt : t.dealt = s.dealt
  log : t.log = s.log ++ [(n, mark)]

namespace Notes

variable {size : Nat} {s t : Shift J M} {n w : Nat} {rest : List Nat} {mark : Mark M}

theorem home?_eq (notes : s.Notes t n w rest mark) : t.home? = s.home? := by
  funext m
  rw [home?, notes.dealt, home?]

theorem started_eq (notes : s.Notes t n w rest mark) :
    t.started = s.started ++ if mark.isStarted then [n] else [] := by
  rw [← started_note, started, started, notes.log]
  rfl

theorem ended_eq (notes : s.Notes t n w rest mark) :
    t.ended = s.ended ++ if mark.isEnded then [n] else [] := by
  rw [← ended_note, ended, ended, notes.log]
  rfl

theorem ended_of_ended (notes : s.Notes t n w rest mark) {m : Nat} (done : m ∈ s.ended) :
    m ∈ t.ended := by
  rw [notes.ended_eq]
  exact List.mem_append_left _ done

theorem mem_log (notes : s.Notes t n w rest mark) {e : Nat × Mark M} (listed : e ∈ t.log) :
    e ∈ s.log ∨ e = (n, mark) := by
  rw [notes.log] at listed
  exact (List.mem_append.mp listed).imp_right List.mem_singleton.mp

theorem sublist (notes : s.Notes t n w rest mark) (v : Nat) :
    (t.lineAt v).Sublist (s.lineAt v) := by
  by_cases same : v = w
  · rw [same, notes.line, notes.head]
    split
    · exact List.sublist_cons_self n rest
    · exact List.Sublist.refl _
  · exact (notes.others v same).1 ▸ List.Sublist.refl _

/-- A job of another worker is not the one that is noted. -/
theorem ne_of_home (orderly : s.Orderly size) (notes : s.Notes t n w rest mark) {m v : Nat}
    (home : s.home? m = some v) (other : v ≠ w) : n ≠ m := by
  rintro rfl
  cases home.symm.trans (orderly.home_of_head notes.head)
  exact other rfl

theorem placed (orderly : s.Orderly size) (notes : s.Notes t n w rest mark) {m v : Nat}
    (home : s.home? m = some v) : (t.lineAt v).count m + t.ended.count m = 1 := by
  have once := orderly.placed m v home
  rw [notes.ended_eq, List.count_append]
  by_cases same : v = w
  · rw [same, notes.head] at once
    rw [same, notes.line]
    cases mark.isEnded with
    | true =>
      simp only [if_true, List.count_cons, List.count_nil] at once ⊢
      omega
    | false => simpa using once
  · have differ := notes.ne_of_home orderly home same
    rw [(notes.others v same).1]
    cases mark.isEnded <;> simpa [differ] using once

theorem begun (orderly : s.Orderly size) (notes : s.Notes t n w rest mark) {m v : Nat}
    (home : s.home? m = some v) :
    t.started.count m = (t.runningAt v).count m + t.ended.count m := by
  have balance := orderly.begun m v home
  rw [notes.started_eq, notes.ended_eq, List.count_append, List.count_append]
  by_cases same : v = w
  · rw [same, notes.before] at balance
    rw [same, notes.running]
    cases mark with
    | did deed => simpa [Mark.isStarted, Mark.isEnded] using balance
    | started | ended =>
      simp only [Mark.isStarted, Mark.isEnded, if_true, Bool.false_eq_true, if_false,
        List.count_nil] at balance ⊢
      omega
  · have differ := notes.ne_of_home orderly home same
    rw [(notes.others v same).2]
    cases mark <;> simpa [Mark.isStarted, Mark.isEnded, differ] using balance

theorem marked (orderly : s.Orderly size) (notes : s.Notes t n w rest mark) {e : Nat × Mark M}
    (listed : e ∈ t.log) : e.1 ∈ t.ended ∨ ∃ v, e.1 ∈ t.runningAt v := by
  have now : n ∈ t.ended ∨ ∃ v, n ∈ t.runningAt v := by
    cases ends : mark.isEnded with
    | true =>
      left
      rw [notes.ended_eq, ends]
      exact List.mem_append_right _ List.mem_cons_self
    | false =>
      right
      refine ⟨w, ?_⟩
      rw [notes.running, ends]
      exact List.mem_cons_self
  rcases notes.mem_log listed with old | rfl
  · rcases orderly.marked e old with done | ⟨v, runs⟩
    · exact .inl (notes.ended_of_ended done)
    · by_cases same : v = w
      · rw [same] at runs
        rw [Orderly.eq_of_running notes.head runs]
        exact now
      · right
        refine ⟨v, ?_⟩
        rw [(notes.others v same).2]
        exact runs
  · exact now

theorem orderly (notes : s.Notes t n w rest mark) (orderly : s.Orderly size) : t.Orderly size := by
  have here := orderly.home_of_head notes.head
  constructor
  · exact notes.size.trans orderly.size
  · rw [notes.dealt, notes.size]
    exact orderly.inside
  · rw [notes.dealt, notes.size]
    exact orderly.own
  · intro v m listed
    rw [notes.home?_eq]
    exact orderly.home v m ((notes.sublist v).subset listed)
  · exact fun v => (orderly.sorted v).sublist (notes.sublist v)
  · rw [notes.home?_eq]
    exact fun m v home => notes.placed orderly home
  · rw [notes.home?_eq]
    exact fun m v home => notes.begun orderly home
  · exact fun e listed => notes.marked orderly listed
  · intro e listed
    rw [notes.home?_eq]
    rcases notes.mem_log listed with old | rfl
    · exact orderly.known e old
    · exact ⟨w, here⟩
  · intro e listed m before same
    rw [notes.home?_eq] at same
    apply notes.ended_of_ended
    rcases notes.mem_log listed with old | rfl
    · exact orderly.earlier e old m before same
    · exact orderly.earlier_head notes.head m before same
  · have follows : t.Follows = s.Follows := by
      funext a b
      rw [Follows, notes.home?_eq, Follows]
    rw [notes.log, follows]
    refine List.pairwise_append.mpr ⟨orderly.log, List.pairwise_singleton _ _, ?_⟩
    intro e old f last
    rw [List.mem_singleton.mp last]
    refine orderly.follows_head notes.head ?_ e old
    intro starts
    rw [notes.before, starts]
    rfl

end Notes

namespace Orderly

variable {size : Nat} {s : Shift J M}

/-- The numbers on a worker whose jobs are known. -/
theorem numbers {w : Nat} {running : Option (Ticket J)} {waiting : List (Ticket J)}
    (known : s.pool.worker w = ⟨running, waiting⟩) :
    s.lineAt w = running.toList.map (·.number) ++ waiting.map (·.number) ∧
      s.runningAt w = running.toList.map (·.number) := by
  rw [lineAt_eq, runningAt, waitingAt, known]
  exact ⟨rfl, rfl⟩

/-- The numbers on the workers once one of them has changed. -/
theorem numbers_others {w : Nat} {k : Worker (Ticket J)} {t : Shift J M}
    (known : ∀ v, t.pool.worker v = if v = w then k else s.pool.worker v) (v : Nat)
    (other : v ≠ w) : t.lineAt v = s.lineAt v ∧ t.runningAt v = s.runningAt v := by
  have same : t.pool.worker v = s.pool.worker v := (known v).trans (if_neg other)
  rw [lineAt, runningAt, same]
  exact ⟨rfl, rfl⟩

theorem start_step (orderly : s.Orderly size) (w : Nat) : (s.step (.start w)).Orderly size := by
  simp only [step]
  cases next : (s.pool.worker w).next? with
  | none => exact orderly
  | some t =>
    obtain ⟨rest, before, after⟩ := s.pool.start_spec next
    obtain ⟨line, running⟩ := numbers before
    obtain ⟨line', running'⟩ :=
      numbers (s := { s with pool := s.pool.start w }) ((after w).trans (if_pos rfl))
    have notes : s.Notes ({ s with pool := s.pool.start w }.note t.number .started) t.number w
        (rest.map (·.number)) .started :=
      ⟨line, running, line', running', numbers_others after, Pool.size_modify .., rfl, rfl⟩
    exact notes.orderly orderly

theorem finish_step (orderly : s.Orderly size) (w : Nat) : (s.step (.finish w)).Orderly size := by
  simp only [step]
  cases runs : s.pool.running? w with
  | none => exact orderly
  | some t =>
    obtain ⟨rest, before, -, after⟩ := s.pool.run_spec runs
    obtain ⟨line, running⟩ := numbers before
    obtain ⟨line', running'⟩ :=
      numbers (s := { s with pool := s.pool.finish w }) ((after w).trans (if_pos rfl))
    have notes : s.Notes ({ s with pool := s.pool.finish w }.note t.number .ended) t.number w
        (rest.map (·.number)) .ended :=
      ⟨line, running, line', running', numbers_others after, Pool.size_modify .., rfl, rfl⟩
    exact notes.orderly orderly

/-- What the running job does is noted. -/
theorem deed_step (orderly : s.Orderly size) {w : Nat} {t : Ticket J} {waiting : List (Ticket J)}
    (known : s.pool.worker w = ⟨some t, waiting⟩) (deed : M) :
    (s.note t.number (.did deed)).Orderly size := by
  obtain ⟨line, running⟩ := numbers known
  have notes : s.Notes (s.note t.number (.did deed)) t.number w (waiting.map (·.number))
      (.did deed) :=
    ⟨line, running, line, running, fun _ _ => ⟨rfl, rfl⟩, rfl, rfl, rfl⟩
  exact notes.orderly orderly

theorem deeds_step (deeds : List M) (orderly : s.Orderly size) {w : Nat} {t : Ticket J}
    {waiting : List (Ticket J)} (known : s.pool.worker w = ⟨some t, waiting⟩) :
    Orderly size { s with log := s.log ++ deeds.map fun deed => (t.number, .did deed) } := by
  induction deeds generalizing s with
  | nil =>
    rw [List.map_nil, List.append_nil]
    exact orderly
  | cons deed deeds ih =>
    have behind := ih (orderly.deed_step known deed) known
    rw [note, List.append_assoc] at behind
    exact behind

theorem change_step (orderly : s.Orderly size) (w : Nat) (job : J) (deeds : List M) :
    (s.step (.change w job deeds)).Orderly size := by
  simp only [step]
  cases runs : s.pool.running? w with
  | none => exact orderly
  | some t =>
    obtain ⟨rest, before, after, -⟩ := s.pool.run_spec runs
    have after := after ⟨t.number, job⟩
    have now := (after w).trans (if_pos rfl)
    -- Of the job only what is left of it has changed, and its number stays.
    have changed : Orderly size { s with pool := s.pool.change w ⟨t.number, job⟩ } := by
      obtain ⟨line, running⟩ := numbers before
      obtain ⟨line', running'⟩ :=
        numbers (s := { s with pool := s.pool.change w ⟨t.number, job⟩ }) now
      refine orderly.of_same (Pool.size_modify ..) ?_ ?_ rfl rfl
      · funext v
        by_cases same : v = w
        · rw [same, line, line']
          rfl
        · exact (numbers_others after v same).1
      · funext v
        by_cases same : v = w
        · rw [same, running, running']
          rfl
        · exact (numbers_others after v same).2
    exact deeds_step (t := ⟨t.number, job⟩) deeds changed now

end Orderly

/-! A job that is dealt out comes behind all others. -/

section Submit

variable {size : Nat} {s : Shift J M} (identity : Int64) (job : J)

theorem home?_submit (n : Nat) : (s.step (.submit identity job)).home? n =
    if n = s.dealt.length then some (s.pick identity job) else s.home? n := by
  simp only [home?, step]
  rw [List.getElem?_append]
  split
  · rename_i before
    rw [if_neg (Nat.ne_of_lt before)]
  · rename_i behind
    by_cases same : n = s.dealt.length
    · rw [if_pos same, same, Nat.sub_self]
      rfl
    · have beyond : s.dealt.length ≤ n := Nat.le_of_not_lt behind
      rw [if_neg same, List.getElem?_eq_none beyond, List.getElem?_eq_none (by simp; omega)]

theorem home?_submit_old {n w : Nat} (home : s.home? n = some w) :
    (s.step (.submit identity job)).home? n = some w := by
  rw [home?_submit, if_neg (Nat.ne_of_lt (lt_of_home home))]
  exact home

theorem submitted (orderly : s.Orderly size) :
    s.pick identity job < s.pool.size ∧
    (0 < identity → s.pick identity job = identity.toInt.toNat % s.pool.size) ∧
    (s.step (.submit identity job)).pool.size = s.pool.size ∧
    ∀ v, (s.step (.submit identity job)).pool.worker v =
      if v = s.pick identity job then
        { s.pool.worker v with waiting := (s.pool.worker v).waiting ++ [⟨s.dealt.length, job⟩] }
      else s.pool.worker v := by
  apply s.pool.submit_spec
  rw [orderly.size]
  omega

theorem lineAt_submit (orderly : s.Orderly size) (v : Nat) :
    (s.step (.submit identity job)).lineAt v =
      s.lineAt v ++ if v = s.pick identity job then [s.dealt.length] else [] := by
  obtain ⟨-, -, -, workers⟩ := submitted identity job orderly
  rw [lineAt, workers]
  split
  · simp [lineAt, Worker.line]
  · exact (List.append_nil _).symm

theorem runningAt_submit (orderly : s.Orderly size) (v : Nat) :
    (s.step (.submit identity job)).runningAt v = s.runningAt v := by
  obtain ⟨-, -, -, workers⟩ := submitted identity job orderly
  rw [runningAt, workers]
  split <;> rfl

/-- Nothing is known yet of the number that the next job gets. -/
theorem unnoted (orderly : s.Orderly size) (mark : Mark M) : (s.dealt.length, mark) ∉ s.log := by
  intro noted
  obtain ⟨w, home⟩ := orderly.known _ noted
  exact Nat.lt_irrefl _ (lt_of_home home)

theorem not_mem_ended (orderly : s.Orderly size) : s.dealt.length ∉ s.ended :=
  fun done => unnoted orderly _ (mem_ended.mp done)

theorem not_mem_started (orderly : s.Orderly size) : s.dealt.length ∉ s.started :=
  fun begun => unnoted orderly _ (mem_started.mp begun)

theorem not_mem_lineAt (orderly : s.Orderly size) (v : Nat) : s.dealt.length ∉ s.lineAt v :=
  fun inside => Nat.lt_irrefl _ (lt_of_home (orderly.home v _ inside))

theorem not_mem_runningAt (orderly : s.Orderly size) (v : Nat) :
    s.dealt.length ∉ s.runningAt v := by
  intro runs
  apply not_mem_lineAt orderly v
  rw [lineAt_eq]
  exact List.mem_append_left _ runs

theorem mem_lineAt_submit (orderly : s.Orderly size) {v n : Nat}
    (inside : n ∈ (s.step (.submit identity job)).lineAt v) :
    n ∈ s.lineAt v ∨ n = s.dealt.length ∧ v = s.pick identity job := by
  rw [lineAt_submit identity job orderly] at inside
  rcases List.mem_append.mp inside with before | new
  · exact .inl before
  · split at new
    · rename_i here
      exact .inr ⟨List.mem_singleton.mp new, here⟩
    · cases new

theorem sorted_submit (orderly : s.Orderly size) (v : Nat) :
    ((s.step (.submit identity job)).lineAt v).Pairwise (· < ·) := by
  rw [lineAt_submit identity job orderly]
  split
  · refine List.pairwise_append.mpr ⟨orderly.sorted v, List.pairwise_singleton _ _, ?_⟩
    intro n before m new
    rw [List.mem_singleton.mp new]
    exact lt_of_home (orderly.home v n before)
  · rw [List.append_nil]
    exact orderly.sorted v

theorem placed_submit (orderly : s.Orderly size) {n v : Nat}
    (home : (s.step (.submit identity job)).home? n = some v) :
    ((s.step (.submit identity job)).lineAt v).count n + s.ended.count n = 1 := by
  rw [lineAt_submit identity job orderly, List.count_append]
  rw [home?_submit] at home
  by_cases new : n = s.dealt.length
  · rw [if_pos new] at home
    cases home
    rw [new, List.count_eq_zero.mpr (not_mem_lineAt orderly _),
      List.count_eq_zero.mpr (not_mem_ended orderly)]
    simp
  · rw [if_neg new] at home
    have once := orderly.placed n v home
    split <;> simpa [Ne.symm new] using once

theorem begun_submit (orderly : s.Orderly size) {n v : Nat}
    (home : (s.step (.submit identity job)).home? n = some v) :
    s.started.count n = (s.runningAt v).count n + s.ended.count n := by
  rw [home?_submit] at home
  by_cases new : n = s.dealt.length
  · rw [new, List.count_eq_zero.mpr (not_mem_ended orderly),
      List.count_eq_zero.mpr (not_mem_started orderly),
      List.count_eq_zero.mpr (not_mem_runningAt orderly v)]
  · rw [if_neg new] at home
    exact orderly.begun n v home

theorem Orderly.submit_step (orderly : s.Orderly size) :
    (s.step (.submit identity job)).Orderly size := by
  obtain ⟨inside, own, sizes, -⟩ := submitted identity job orderly
  have listed : ∀ deal ∈ (s.step (.submit identity job)).dealt,
      deal ∈ s.dealt ∨ deal = ⟨identity, s.pick identity job, job⟩ :=
    fun deal listed => (List.mem_append.mp listed).imp_right List.mem_singleton.mp
  have old : ∀ e ∈ s.log, (s.step (.submit identity job)).home? e.1 = s.home? e.1 := by
    intro e noted
    obtain ⟨w, home⟩ := orderly.known e noted
    rw [home]
    exact home?_submit_old identity job home
  constructor
  · exact sizes.trans orderly.size
  · intro deal dealt
    rw [sizes]
    rcases listed deal dealt with before | rfl
    · exact orderly.inside deal before
    · exact inside
  · intro deal dealt
    rw [sizes]
    rcases listed deal dealt with before | rfl
    · exact orderly.own deal before
    · exact own
  · intro v n inside
    rcases mem_lineAt_submit identity job orderly inside with before | ⟨new, picked⟩
    · exact home?_submit_old identity job (orderly.home v n before)
    · rw [home?_submit, if_pos new, picked]
  · exact sorted_submit identity job orderly
  · exact fun n v home => placed_submit identity job orderly home
  · intro n v home
    rw [runningAt_submit identity job orderly]
    exact begun_submit identity job orderly home
  · intro e noted
    rcases orderly.marked e noted with done | ⟨v, runs⟩
    · exact .inl done
    · right
      refine ⟨v, ?_⟩
      rw [runningAt_submit identity job orderly]
      exact runs
  · intro e noted
    rw [old e noted]
    exact orderly.known e noted
  · intro e noted n before same
    rw [old e noted] at same
    obtain ⟨w, home⟩ := orderly.known e noted
    have known := Nat.lt_trans before (lt_of_home home)
    rw [home?_submit, if_neg (Nat.ne_of_lt known)] at same
    exact orderly.earlier e noted n before same
  · refine orderly.log.imp_of_mem ?_
    intro a b first second follows
    rw [Follows, old a first, old b second]
    exact follows

end Submit

theorem Orderly.step {size : Nat} {s : Shift J M} (orderly : s.Orderly size) (event : Event J M) :
    (s.step event).Orderly size := by
  cases event with
  | submit identity job => exact orderly.submit_step identity job
  | start w => exact orderly.start_step w
  | change w job deeds => exact orderly.change_step w job deeds
  | finish w => exact orderly.finish_step w

end Shift
end ClusterWire
