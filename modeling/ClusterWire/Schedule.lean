import ClusterWire.Activity
import ClusterWire.Executor

/-! Running jobs on a pool. A worker takes up its jobs one after another; what
a job leaves to be done goes on beside the workers. Places have their turns in
the order in which they became due. No worker keeps the others waiting for
long: after a full turn it stands back until the round is over. -/
namespace ClusterWire

/-- What a job leaves to be done beside its worker. -/
abbrev Aside (σ : Type) := Option (Activity σ Unit)

inductive Place where
  | worker (index : Nat)
  | beside (index : Nat)
deriving DecidableEq, Repr

/-- A shared state, the pool with its jobs, the activities beside it by their
numbers, and what pauses until when, in the order in which it began to. Times
are in milliseconds. The places that are due have their turns in order; those
that stand back are due again in the next round. -/
structure Schedule (σ : Type) where
  state : σ
  clock : Nat := 0
  pool : Pool (Activity σ (Aside σ))
  beside : List (Nat × Activity σ Unit) := []
  timers : List (Nat × Place) := []
  spawned : Nat := 0
  due : List Place := []
  back : List Place := []

namespace Schedule

variable {σ : Type}

def start (state : σ) (pool : Pool (Activity σ (Aside σ))) : Schedule σ :=
  { state := state, pool := pool, due := (List.range pool.size).map .worker }

def submit (s : Schedule σ) (identity : Int64) (job : Activity σ (Aside σ)) : Schedule σ :=
  let (pool, w) := s.pool.submit identity job
  let asleep := (pool.running? w).isNone && !(s.due ++ s.back).contains (.worker w)
  { s with pool := pool, due := if asleep then s.due ++ [.worker w] else s.due }

def submitAll (s : Schedule σ) (jobs : List (Int64 × Activity σ (Aside σ))) : Schedule σ :=
  jobs.foldl (fun s (identity, job) => s.submit identity job) s

def spawn (s : Schedule σ) (activity : Activity σ Unit) : Schedule σ :=
  { s with beside := s.beside ++ [(s.spawned, activity)]
           due := s.due ++ [.beside s.spawned]
           spawned := s.spawned + 1 }

/-- What a place waited for is there, and the place is due. `reason` is the
outcome of the connection attempt, if it was one. -/
def rouse (s : Schedule σ) (reason : Option String) (place : Place) : Schedule σ :=
  let s := { s with due := s.due ++ [place] }
  match place with
  | .worker w =>
    match s.pool.running? w with
    | some job => { s with pool := s.pool.change w (job.resume reason) }
    | none => s
  | .beside n =>
    { s with beside := s.beside.map fun (m, activity) =>
        (m, if m = n then activity.resume reason else activity) }

/-- Lets time pass at once. All that pauses until then is due, in the order of
the times at which it was. -/
def advance (s : Schedule σ) (milliseconds : Nat) (look : Nat → σ → σ) : Schedule σ :=
  let now := s.clock + milliseconds
  let past := (s.timers.filter (·.1 ≤ now)).mergeSort fun a b => a.1 ≤ b.1
  let later := s.timers.filter (now < ·.1)
  let s := { s with state := look now s.state, clock := now, timers := later }
  past.foldl (fun s (_, place) => s.rouse none place) s

/-- Notes until when a place pauses. One that waits for a connection has no
timer. -/
def await {α : Type} (s : Schedule σ) (place : Place) : Activity σ α → Schedule σ
  | .pause n _ => { s with timers := s.timers ++ [(s.clock + n, place)] }
  | _ => s

variable (reach : SocketAddress → Option (Option String))

/-- Works on the job of a worker up to its end or to a pause. A worker without
`share` left in its turn stands back before it pauses. -/
def work (s : Schedule σ) (w share : Nat) (job : Activity σ (Aside σ)) : Schedule σ :=
  let (state, job) := job.run reach s.state
  let s := { s with state := state }
  match job with
  | .finish none | .crash _ => { s with pool := s.pool.finish w }
  | .finish (some activity) => { s with pool := s.pool.finish w }.spawn activity
  | job =>
    let s := { s with pool := s.pool.change w job }
    if share = 0 then { s with back := s.back ++ [.worker w] } else s.await (.worker w) job

/-- An idle worker takes up jobs until one pauses or none waits, but no more of
them than its share. -/
def exhaust (s : Schedule σ) (w : Nat) : (share : Nat) → Schedule σ
  | 0 => { s with back := s.back ++ [.worker w] }
  | share + 1 =>
    let pool := s.pool.start w
    match pool.running? w with
    | none => s
    | some job =>
      let s := { s with pool := pool }.work reach w share job
      if (s.pool.running? w).isSome then s else s.exhaust w share

def fullShare : Nat := 128

def turnWorker (s : Schedule σ) (w : Nat) : Schedule σ :=
  match s.pool.running? w with
  | some job =>
    let s := s.work reach w (fullShare - 1) job
    if (s.pool.running? w).isSome then s else s.exhaust reach w (fullShare - 1)
  | none => s.exhaust reach w fullShare

def turnBeside (s : Schedule σ) (n : Nat) : Schedule σ :=
  match s.beside.lookup n with
  | none => s
  | some activity =>
    let (state, activity) := activity.run reach s.state
    let s := { s with state := state }
    if activity.isOver then { s with beside := s.beside.filter (·.1 != n) }
    else
      let beside := s.beside.map fun (m, other) => (m, if m = n then activity else other)
      { s with beside := beside }.await (.beside n) activity

def turn (s : Schedule σ) : Place → Schedule σ
  | .worker w => s.turnWorker reach w
  | .beside n => s.turnBeside reach n

def roundLength : Nat := 61

/-- One turn after another. When `left` turns are over or no place is due, the
next round begins: those that stand back are due behind the others, the last of
them first. -/
def turns (s : Schedule σ) (left : Nat) : (fuel : Nat) → Schedule σ
  | 0 => s
  | fuel + 1 =>
    match left, s.due with
    | left + 1, place :: rest => ({ s with due := rest }.turn reach place).turns left fuel
    | _, due =>
      if due.isEmpty && s.back.isEmpty then s
      else { s with due := due ++ s.back.reverse, back := [] }.turns roundLength fuel

/-- Lets every place work that can. Each turn uses up a due place, and a round
does not end without a turn. Of the places that become due on the way, a job
that is taken up brings two at most: what it leaves, and its worker again. -/
def settle (s : Schedule σ) : Schedule σ :=
  s.turns reach roundLength (2 * (s.due.length + s.back.length) + 4 * s.pool.load + 2)

end Schedule
end ClusterWire
