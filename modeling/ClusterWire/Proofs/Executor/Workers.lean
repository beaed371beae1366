import ClusterWire.Executor

/-! The workers of a pool, one by one: what each operation does to them. -/
namespace ClusterWire

namespace Worker

variable {J : Type}

/-- The jobs of a worker, the running one first. -/
def line (k : Worker J) : List J := k.running.toList ++ k.waiting

/-- The job that an idle worker takes up next. -/
def next? (k : Worker J) : Option J :=
  match k.running with
  | none => k.waiting.head?
  | some _ => none

theorem next?_eq_some {k : Worker J} {job : J} :
    k.next? = some job ↔ k.running = none ∧ ∃ rest, k.waiting = job :: rest := by
  obtain ⟨running, waiting⟩ := k
  cases running with
  | some other => simp [next?]
  | none => cases waiting <;> simp [next?]

def map {K : Type} (f : J → K) (k : Worker J) : Worker K := ⟨k.running.map f, k.waiting.map f⟩

end Worker

namespace Pool

variable {J : Type} (p : Pool J)

def worker (w : Nat) : Worker J := (p.workers[w]?).getD {}

theorem running?_eq (w : Nat) : p.running? w = (p.worker w).running := by
  unfold running? worker
  cases p.workers[w]? <;> rfl

theorem worker_outside {w : Nat} (outside : ¬ w < p.size) : p.worker w = {} := by
  unfold worker
  rw [List.getElem?_eq_none (Nat.le_of_not_lt outside)]
  rfl

theorem worker_ofSize (size w : Nat) : (ofSize size : Pool J).worker w = {} := by
  unfold worker ofSize
  rw [List.getElem?_replicate]
  split <;> rfl

theorem size_ofSize (size : Nat) : (ofSize size : Pool J).size = max size 1 :=
  List.length_replicate

/-- A worker with jobs is one of the pool's. -/
theorem inside_of_mem {w : Nat} {job : J} (has : job ∈ (p.worker w).line) : w < p.size := by
  apply Decidable.byContradiction
  intro outside
  rw [p.worker_outside outside] at has
  cases has

theorem size_modify (w : Nat) (f : Worker J → Worker J) : (p.modify w f).size = p.size := by
  simp [size, modify]

theorem worker_modify {w : Nat} (inside : w < p.size) (f : Worker J → Worker J) (v : Nat) :
    (p.modify w f).worker v = if v = w then f (p.worker w) else p.worker v := by
  unfold worker modify
  rw [List.getElem?_modify]
  by_cases same : v = w
  · subst same
    have entry : p.workers[v]? = some p.workers[v] := List.getElem?_eq_getElem inside
    simp [entry]
  · simp [same, Ne.symm same]

theorem modify_eq_self {w : Nat} {f : Worker J → Worker J} (same : f (p.worker w) = p.worker w) :
    p.modify w f = p := by
  unfold modify
  congr 1
  apply List.ext_getElem?
  intro v
  rw [List.getElem?_modify]
  cases entry : p.workers[v]? with
  | none => rfl
  | some k =>
    have here : w = v → f k = k := by
      rintro rfl
      rw [worker, entry] at same
      exact same
    simp only [Option.map_eq_map, Option.map_some, Option.some.injEq]
    split
    · exact here ‹_›
    · rfl

theorem workerFor_spec (some : 0 < p.size) (identity : Int64) :
    (p.workerFor identity).1.workers = p.workers ∧ (p.workerFor identity).2 < p.size ∧
    (0 < identity → (p.workerFor identity).2 = identity.toInt.toNat % p.size) := by
  unfold workerFor
  by_cases identified : 0 < identity
  · rw [if_pos identified]
    exact ⟨rfl, Nat.mod_lt _ some, fun _ => rfl⟩
  · rw [if_neg identified]
    exact ⟨rfl, Nat.mod_lt _ some, fun positive => absurd positive identified⟩

/-- A job gets behind all jobs of one worker, which is that of its identity, if this is
positive. -/
theorem submit_spec (some : 0 < p.size) (identity : Int64) (job : J) :
    (p.submit identity job).2 < p.size ∧
    (0 < identity → (p.submit identity job).2 = identity.toInt.toNat % p.size) ∧
    (p.submit identity job).1.size = p.size ∧
    ∀ v, (p.submit identity job).1.worker v =
      if v = (p.submit identity job).2 then
        { p.worker v with waiting := (p.worker v).waiting ++ [job] }
      else p.worker v := by
  obtain ⟨workers, inside, own⟩ := p.workerFor_spec some identity
  have same : (p.workerFor identity).1.worker = p.worker := by
    funext u
    rw [worker, workers, worker]
  have size : (p.workerFor identity).1.size = p.size := congrArg List.length workers
  refine ⟨inside, own, (size_modify ..).trans size, fun v => ?_⟩
  have modified : (p.submit identity job).1 = (p.workerFor identity).1.modify
      (p.submit identity job).2 fun k => { k with waiting := k.waiting ++ [job] } := rfl
  rw [modified, worker_modify _ (by rw [size]; exact inside), same]
  split
  · rename_i here
    rw [here]
  · rfl

/-- An idle worker takes up the first job that waits. -/
theorem start_spec {w : Nat} {job : J} (next : (p.worker w).next? = some job) :
    ∃ rest, p.worker w = ⟨none, job :: rest⟩ ∧
      ∀ v, (p.start w).worker v = if v = w then ⟨some job, rest⟩ else p.worker v := by
  obtain ⟨idle, rest, waiting⟩ := Worker.next?_eq_some.mp next
  have whole : p.worker w = ⟨none, job :: rest⟩ := by
    cases here : p.worker w with
    | mk running queue =>
      rw [here] at idle waiting
      cases idle
      cases waiting
      rfl
  have has : job ∈ (p.worker w).line := by
    rw [whole]
    exact List.mem_cons_self
  refine ⟨rest, whole, fun v => ?_⟩
  unfold start
  rw [p.worker_modify (p.inside_of_mem has), whole]

theorem start_eq_self {w : Nat} (none : (p.worker w).next? = none) : p.start w = p := by
  apply modify_eq_self
  cases whole : p.worker w with
  | mk running waiting =>
    rw [whole] at none
    cases running with
    | some job => rfl
    | none =>
      cases waiting with
      | nil => rfl
      | cons job rest => cases none

/-- A worker that runs a job, with the running job changed or gone. -/
theorem run_spec {w : Nat} {job : J} (running : p.running? w = some job) :
    ∃ waiting, p.worker w = ⟨some job, waiting⟩ ∧
      (∀ other v, (p.change w other).worker v =
        if v = w then ⟨some other, waiting⟩ else p.worker v) ∧
      ∀ v, (p.finish w).worker v = if v = w then ⟨none, waiting⟩ else p.worker v := by
  rw [p.running?_eq] at running
  cases whole : p.worker w with
  | mk now waiting =>
    rw [whole] at running
    cases running
    have has : job ∈ (p.worker w).line := by
      rw [whole]
      exact List.mem_cons_self
    have inside := p.inside_of_mem has
    refine ⟨waiting, rfl, fun other v => ?_, fun v => ?_⟩
    · rw [change, p.worker_modify inside, whole]
    · rw [finish, p.worker_modify inside, whole]

theorem mem_line_of_running {w : Nat} {job : J} (running : p.running? w = some job) :
    job ∈ (p.worker w).line := by
  rw [running?_eq] at running
  rw [Worker.line, running]
  exact List.mem_cons_self

theorem running?_change {w : Nat} {job : J} (running : p.running? w = some job) (other : J) :
    (p.change w other).running? w = some other := by
  obtain ⟨waiting, -, after, -⟩ := p.run_spec running
  rw [running?_eq, after, if_pos rfl]

theorem change_self {w : Nat} {job : J} (running : p.running? w = some job) :
    p.change w job = p := by
  obtain ⟨waiting, whole, -⟩ := p.run_spec running
  apply modify_eq_self
  rw [whole]

theorem change_change (w : Nat) (job other : J) :
    (p.change w job).change w other = p.change w other := by
  simp only [change, modify, List.modify_modify_eq]
  rfl

theorem finish_change (w : Nat) (job : J) : (p.change w job).finish w = p.finish w := by
  simp only [change, finish, modify, List.modify_modify_eq]
  rfl

/-! Jobs of another form, one for each. -/

section Map

variable {K : Type} (f : J → K)

def map : Pool K := ⟨p.workers.map (·.map f), p.turn⟩

theorem map_modify {change : Worker J → Worker J} {other : Worker K → Worker K}
    (same : ∀ k, (change k).map f = other (k.map f)) (w : Nat) :
    (p.modify w change).map f = (p.map f).modify w other := by
  unfold modify map
  congr 1
  apply List.ext_getElem?
  intro v
  simp only [List.getElem?_map, List.getElem?_modify]
  split <;> cases p.workers[v]? <;> simp [same]

theorem map_workerFor (identity : Int64) : (p.map f).workerFor identity =
    ((p.workerFor identity).1.map f, (p.workerFor identity).2) := by
  have size : (p.map f).size = p.size := List.length_map _
  unfold workerFor
  rw [size]
  split <;> rfl

theorem map_submit (identity : Int64) (job : J) : (p.map f).submit identity (f job) =
    ((p.submit identity job).1.map f, (p.submit identity job).2) := by
  have form : ∀ {L : Type} (q : Pool L) (job : L), q.submit identity job =
      ((q.workerFor identity).1.modify (q.workerFor identity).2 fun k =>
        { k with waiting := k.waiting ++ [job] }, (q.workerFor identity).2) := fun _ _ => rfl
  rw [form, form, map_workerFor]
  congr 1
  refine (map_modify _ f ?_ _).symm
  intro k
  simp [Worker.map]

theorem map_start (w : Nat) : (p.start w).map f = (p.map f).start w := by
  apply map_modify
  rintro ⟨running, waiting⟩
  cases running with
  | some job => rfl
  | none => cases waiting <;> rfl

theorem map_change (w : Nat) (job : J) : (p.change w job).map f = (p.map f).change w (f job) :=
  map_modify p f (fun _ => rfl) w

theorem map_finish (w : Nat) : (p.finish w).map f = (p.map f).finish w :=
  map_modify p f (fun _ => rfl) w

theorem running?_map (w : Nat) : (p.map f).running? w = (p.running? w).map f := by
  unfold running? map
  rw [List.getElem?_map]
  cases p.workers[w]? <;> rfl

end Map

end Pool
end ClusterWire
