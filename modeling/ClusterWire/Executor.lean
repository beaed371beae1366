/-! The worker pool. Each worker has a queue of its own and runs one job at a
time; jobs of one positive identity go to one worker, the others go round. -/
namespace ClusterWire

structure Worker (J : Type) where
  running : Option J := none
  waiting : List J := []
deriving DecidableEq, Repr

/-- Workers, and how many jobs without an identity were dealt out. -/
structure Pool (J : Type) where
  workers : List (Worker J)
  turn : Nat := 0
deriving DecidableEq, Repr

namespace Pool

variable {J : Type}

def ofSize (size : Nat) : Pool J := ⟨List.replicate (max size 1) {}, 0⟩

/-- A list of queues takes eight bytes for each, and no list may take half of the address
space. What a machine has of memory is not looked at. -/
def hasRoom (size : Nat) : Bool := 8 * max size 1 < UInt64.size / 2

def size (p : Pool J) : Nat := p.workers.length

/-- The worker for an identity, and the pool with its turn used up. -/
def workerFor (p : Pool J) (identity : Int64) : Pool J × Nat :=
  if 0 < identity then (p, identity.toInt.toNat % p.size)
  else ({ p with turn := p.turn + 1 }, p.turn % p.size)

def modify (p : Pool J) (w : Nat) (f : Worker J → Worker J) : Pool J :=
  { p with workers := p.workers.modify w f }

def submit (p : Pool J) (identity : Int64) (job : J) : Pool J × Nat :=
  let (p, w) := p.workerFor identity
  (p.modify w fun k => { k with waiting := k.waiting ++ [job] }, w)

def start (p : Pool J) (w : Nat) : Pool J :=
  p.modify w fun k =>
    match k.running, k.waiting with
    | none, job :: rest => ⟨some job, rest⟩
    | _, _ => k

def change (p : Pool J) (w : Nat) (job : J) : Pool J :=
  p.modify w fun k => { k with running := some job }

def finish (p : Pool J) (w : Nat) : Pool J :=
  p.modify w fun k => { k with running := none }

def running? (p : Pool J) (w : Nat) : Option J := (p.workers[w]?).bind (·.running)

def load (p : Pool J) : Nat :=
  p.workers.foldl (fun n k => n + k.running.toList.length + k.waiting.length) 0

end Pool
end ClusterWire
