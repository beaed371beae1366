import ClusterWire.Ident.Layout

/-! Minting ids for one worker. Ids of one millisecond differ in their
sequence numbers; a clock that steps back keeps minting on the last
timestamp. -/
namespace ClusterWire.Ident

structure Generator where
  layout : Layout
  worker : UInt32
  last : UInt64
  sequence : UInt32
deriving DecidableEq, Repr

inductive Minted where
  | id (id : Int64)
  | wait (milliseconds : UInt64)
  | overflow (fault : Overflow)
deriving DecidableEq, Repr

namespace Generator

def create (worker : UInt32) (layout : Layout) : Except Overflow Generator := do
  return ⟨layout, worker &&& (← layout.maxWorker), 0, 0⟩

def present (g : Generator) : Minted :=
  match g.layout.compose g.last g.worker g.sequence with
  | .ok id => .id id
  | .error fault => .overflow fault

def remaining (last now : UInt64) : Minted :=
  if last.toNat + 1 < UInt64.size then .wait (UInt64.ofNat (last.toNat + 1 - now.toNat))
  else .overflow .add

/-- Mints an id at `now`, or says how long no sequence number is left. -/
def mint (g : Generator) (now : UInt64) : Generator × Minted :=
  if g.last < now then
    let g := { g with last := now, sequence := 0 }
    (g, g.present)
  else
    match g.layout.maxSequence with
    | .error fault => (g, .overflow fault)
    | .ok greatest =>
      if greatest ≤ g.sequence then (g, remaining g.last now)
      else
        let g := { g with sequence := g.sequence + 1 }
        (g, g.present)

def reading (g : Generator) (unix : Int) : UInt64 :=
  UInt64.ofNat (unix.toNat - g.layout.epoch.toNat)

/-- Mints an id by a clock that shows `unix` and moves on by `tick` at every
reading, trying again until one is left; gives what the clock shows then.
Readings at or before the last timestamp cannot succeed and are skipped. -/
def next (g : Generator) (unix : Int) (tick : Nat) : Generator × Minted × Int :=
  match g.mint (g.reading unix) with
  | (g, .wait w) =>
    let due : Int := g.last.toNat + 1 + g.layout.epoch.toNat
    let steps := ((due - unix).toNat + tick - 1) / tick
    let later := unix + steps * tick
    let (g, minted) := g.mint (g.reading later)
    (g, if tick = 0 then .wait w else minted, later + tick)
  | (g, minted) => (g, minted, unix + tick)

def attempt (g : Generator) (patient : Bool) (unix : Int) (tick : Nat) :
    Generator × Minted × Int :=
  if patient then g.next unix tick
  else
    let (g, minted) := g.mint (g.reading unix)
    (g, minted, unix + tick)

def attempts (patient : Bool) (tick : Nat) :
    Nat → Int → Generator → Except Overflow (Generator × List Minted)
  | 0, _, g => .ok (g, [])
  | n + 1, unix, g =>
    match g.attempt patient unix tick with
    | (_, .overflow fault, _) => .error fault
    | (g, minted, unix) => do
      let (g, more) ← attempts patient tick n unix g
      return (g, minted :: more)

end Generator
end ClusterWire.Ident
